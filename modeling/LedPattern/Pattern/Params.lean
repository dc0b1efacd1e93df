import LedPattern.Effect
import LedPattern.Pattern.Basic
/-!
The four parameter bytes of a pattern under an effect. A quantity of zero or less was not given, and
the effect puts its own default in its place.
-/
namespace LedPattern

/-- The nearest byte. -/
def saturate (n : Int) : UInt8 := UInt8.ofNat (min n 255).toNat

namespace Pattern

/-- The value of a quantity, or the default if it was not given. -/
def given (v : Int32) (default : Int) : Int := if v.toInt ≤ 0 then default else v.toInt

/-- Only the lowest bit of a direction counts. -/
def directionByte (v : Int32) : UInt8 := UInt8.ofNat (v.toInt % 2).toNat

/-- A pulse without a rhythm of its own breathes the faster the higher its speed, and never faster
than a rhythm of 10. -/
def pulseRhythm (p : Pattern) : Int :=
  max 10 (if 0 < p.rhythm.toInt then p.rhythm.toInt else 255 - p.speed.toInt)

def params (p : Pattern) (effect : Effect) : Slots UInt8 :=
  let direction := directionByte p.direction
  match effect with
  | .sparkle => ⟨saturate (given p.density 128), 0, 0, direction⟩
  | .pulse => ⟨saturate p.pulseRhythm, 0, 0, direction⟩
  | .fire | .candle =>
    ⟨saturate (given p.cooling 55), saturate (given p.sparking 120), 0, direction⟩
  | .wave =>
    ⟨saturate (min 10 (given p.waveCount 3)), saturate p.eyeSize.toInt, saturate p.tailLength.toInt,
      direction⟩
  | .scanner => ⟨0, saturate (given p.eyeSize 2), saturate (given p.tailLength 4), direction⟩
  | .solid | .gradient | .rainbow | .wipe => ⟨0, 0, 0, direction⟩

end Pattern
end LedPattern
