import LedPattern.Text.Basic
/-!
The numeric settings of a pattern.
-/
namespace LedPattern

inductive Quantity where
  | brightness
  | speed
  | density
  | cooling
  | sparking
  | waveCount
  | rhythm
  | eyeSize
  | tailLength
  | direction
  | style
deriving DecidableEq, Repr

namespace Quantity

/-- The name under which a quantity is written. -/
def key : Quantity → Text
  | brightness => "brightness".toList
  | speed => "speed".toList
  | density => "density".toList
  | cooling => "cooling".toList
  | sparking => "sparking".toList
  | waveCount => "wave_count".toList
  | rhythm => "rhythm".toList
  | eyeSize => "eye_size".toList
  | tailLength => "tail_length".toList
  | direction => "direction".toList
  | style => "style".toList

/-- All quantities, in the order in which a pattern lists them. -/
def all : List Quantity :=
  [brightness, speed, density, cooling, sparking, waveCount, rhythm, eyeSize, tailLength, direction,
    style]

theorem mem_all (q : Quantity) : q ∈ all := by cases q <;> decide

def named? (name : Text) : Option Quantity := all.find? fun q => q.key = name

end Quantity
end LedPattern
