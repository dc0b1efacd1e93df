import LedPattern.Quantity
/-!
Patterns: one light effect with everything that was said about it, before anything is clamped or
replaced. Both forms of input lead here, and programs are made from here.
-/
namespace LedPattern

structure Pattern where
  effect : Text := []
  name : Option Text := none
  colors : List Text := []
  background : Option Text := none
  brightness : Int32 := 0
  speed : Int32 := 0
  density : Int32 := 0
  cooling : Int32 := 0
  sparking : Int32 := 0
  waveCount : Int32 := 0
  rhythm : Int32 := 0
  eyeSize : Int32 := 0
  tailLength : Int32 := 0
  direction : Int32 := 0
  /-- Kept with the pattern, and never part of a program. -/
  style : Int32 := 0
deriving DecidableEq, Repr, Inhabited

namespace Pattern

def defaultBrightness : Int32 := 200

def defaultSpeed : Int32 := 128

def get (p : Pattern) : Quantity → Int32
  | .brightness => p.brightness
  | .speed => p.speed
  | .density => p.density
  | .cooling => p.cooling
  | .sparking => p.sparking
  | .waveCount => p.waveCount
  | .rhythm => p.rhythm
  | .eyeSize => p.eyeSize
  | .tailLength => p.tailLength
  | .direction => p.direction
  | .style => p.style

def set (p : Pattern) (q : Quantity) (v : Int32) : Pattern :=
  match q with
  | .brightness => { p with brightness := v }
  | .speed => { p with speed := v }
  | .density => { p with density := v }
  | .cooling => { p with cooling := v }
  | .sparking => { p with sparking := v }
  | .waveCount => { p with waveCount := v }
  | .rhythm => { p with rhythm := v }
  | .eyeSize => { p with eyeSize := v }
  | .tailLength => { p with tailLength := v }
  | .direction => { p with direction := v }
  | .style => { p with style := v }

/-- The background that was asked for: a blank one counts as none. -/
def backgroundToken (p : Pattern) : Option Text :=
  (p.background.map Text.trim).filter fun t => !t.isEmpty

@[simp] theorem get_set (p : Pattern) (q r : Quantity) (v : Int32) :
    (p.set q v).get r = if r = q then v else p.get r := by
  cases q <;> cases r <;> rfl

end Pattern
end LedPattern
