import LedPattern.Quantity
/-!
Effects: what the lights do. Each has the number that stands for it in a program, a name, and a
meaning for the four parameter bytes.
-/
namespace LedPattern

inductive Effect where
  | solid
  | pulse
  | sparkle
  | gradient
  | fire
  | candle
  | wave
  | rainbow
  | scanner
  | wipe
deriving DecidableEq, Repr

/-- Four things, one for each parameter byte. -/
structure Slots (α : Type) where
  first : α
  second : α
  third : α
  fourth : α
deriving DecidableEq, Repr

namespace Slots

def toList {α : Type} (s : Slots α) : List α := [s.first, s.second, s.third, s.fourth]

end Slots

namespace Effect

def all : List Effect :=
  [solid, pulse, sparkle, gradient, fire, candle, wave, rainbow, scanner, wipe]

/-- The numbers are fixed by the devices; 3 and 6 are not in use. -/
def id : Effect → UInt8
  | solid => 1
  | pulse => 2
  | sparkle => 4
  | gradient => 5
  | fire => 7
  | candle => 8
  | wave => 9
  | rainbow => 10
  | scanner => 11
  | wipe => 12

def ofId? (n : UInt8) : Option Effect := all.find? fun e => e.id = n

theorem ofId?_id (e : Effect) : ofId? e.id = some e := by cases e <;> decide

theorem id_of_ofId? {n : UInt8} {e : Effect} (h : ofId? n = some e) : e.id = n := by
  simpa using List.find?_some h

def name : Effect → Text
  | solid => "solid".toList
  | pulse => "pulse".toList
  | sparkle => "sparkle".toList
  | gradient => "gradient".toList
  | fire => "fire".toList
  | candle => "candle".toList
  | wave => "wave".toList
  | rainbow => "rainbow".toList
  | scanner => "scanner".toList
  | wipe => "wipe".toList

/-- The accepted spellings: every name, and the older words for two of the effects. -/
def spellings : List (Text × Effect) :=
  all.map (fun e => (e.name, e)) ++ [("breathe".toList, pulse), ("chase".toList, wave)]

/-- The effect of a spelling; case and blanks around it do not matter. -/
def ofName? (name : Text) : Option Effect := spellings.lookup (Text.fold name)

/-- What each parameter byte holds; the last one always holds the direction. -/
def labels : Effect → Slots (Option Quantity)
  | sparkle => ⟨some .density, none, none, some .direction⟩
  | pulse => ⟨some .rhythm, none, none, some .direction⟩
  | fire | candle => ⟨some .cooling, some .sparking, none, some .direction⟩
  | wave => ⟨some .waveCount, some .eyeSize, some .tailLength, some .direction⟩
  | scanner => ⟨none, some .eyeSize, some .tailLength, some .direction⟩
  | solid | gradient | rainbow | wipe => ⟨none, none, none, some .direction⟩

end Effect
end LedPattern
