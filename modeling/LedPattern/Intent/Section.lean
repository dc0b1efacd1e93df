import LedPattern.Color.Name
import LedPattern.Color.Scheme
import LedPattern.Pattern.Basic
import LedPattern.Warning
import LedPattern.WordFamily
/-!
The sections of intent text and what an entry in each of them changes. An entry changes one field of
the pattern or none, and its meaning depends on nothing but its section, key and value.
-/
namespace LedPattern
namespace Intent

inductive Section where
  | root
  | behavior
  | appearance
  | timing
  | spatial
  /-- Any other heading; its entries mean nothing. -/
  | other
deriving DecidableEq, Repr

/-- One field of a pattern given a new value. -/
inductive Change where
  | effect (value : Text)
  | name (value : Text)
  | colors (value : List Text)
  | background (value : Text)
  | quantity (target : Quantity) (value : Int32)
deriving DecidableEq, Repr

/-- A key that sets a quantity through a word family. -/
structure Knob where
  key : Text
  quantity : Quantity
  family : WordFamily

/-- What an entry does: a change, and the warnings that it gives. -/
structure Meaning where
  change : Option Change := none
  warnings : List Warning := []
deriving DecidableEq, Repr

/-- The colours of a list, in brackets or not. Brackets and quotes around it and around its items are
removed, and items that are then empty are left out. -/
def colorList (value : Text) : List Text :=
  let inner := Text.dropEndWhile (· == ']') ((Text.trim value).dropWhile (· == '['))
  let items := (inner.splitOn ',').map fun item => Text.unquote (Text.trim item)
  (items.filter fun item => !item.isEmpty).map Color.resolve

namespace Knob

/-- A value that the family does not know is replaced by its default, with a warning. -/
def meaning (knob : Knob) (value : Text) : Meaning :=
  let reading := knob.family.resolve value
  { change := some (.quantity knob.quantity reading.value)
    warnings :=
      if reading.isFallback then [.unknownWord knob.key value reading.value] else [] }

end Knob

namespace Section

/-- The section that a heading opens; case does not matter. -/
def ofHeading (name : Text) : Section :=
  let word := Text.lower name
  if word = [] ∨ word = "root".toList then root
  else if word = "behavior".toList then behavior
  else if word = "appearance".toList then appearance
  else if word = "timing".toList then timing
  else if word = "spatial".toList then spatial
  else other

def knobs : Section → List Knob
  | behavior =>
    [⟨"flame_height".toList, .cooling, .flameHeight⟩,
      ⟨"spark_frequency".toList, .sparking, .sparkFrequency⟩,
      ⟨"density".toList, .density, .density⟩,
      ⟨"wave_count".toList, .waveCount, .waveCount⟩,
      ⟨"eye_size".toList, .eyeSize, .eyeSize⟩,
      ⟨"head_size".toList, .eyeSize, .eyeSize⟩,
      ⟨"tail_length".toList, .tailLength, .tailLength⟩]
  | appearance => [⟨"brightness".toList, .brightness, .brightness⟩]
  | timing => [⟨"speed".toList, .speed, .speed⟩]
  | spatial => [⟨"direction".toList, .direction, .direction⟩]
  | root | other => []

def knobMeaning (s : Section) (key value : Text) : Meaning :=
  match s.knobs.find? fun knob => knob.key = key with
  | some knob => knob.meaning value
  | none => {}

def rootMeaning (key value : Text) : Meaning :=
  if key = "effect".toList then { change := some (.effect value) }
  else if (key = "name".toList ∨ key = "description".toList) ∧ value ≠ [] then
    { change := some (.name value) }
  else {}

/-- Words for a rhythm say how fast the light breathes and set the speed; a number is the rhythm
itself. -/
def rhythmMeaning (value : Text) : Meaning :=
  match WordFamily.rhythm.resolve value with
  | .word v => { change := some (.quantity .speed v) }
  | .number v => { change := some (.quantity .rhythm v) }
  | .fallback v =>
    { change := some (.quantity .speed v), warnings := [.unknownWord "rhythm".toList value v] }

def schemeMeaning (value : Text) : Meaning where
  change := some (.colors (Color.scheme value))
  warnings := if (Color.scheme? value).isNone then [.unknownScheme value] else []

def appearanceMeaning (key value : Text) : Meaning :=
  if key = "color".toList then { change := some (.colors [Color.resolve value]) }
  else if key = "colors".toList then { change := some (.colors (colorList value)) }
  else if key = "color_scheme".toList ∨ key = "palette".toList then schemeMeaning value
  else if key = "background".toList ∨ key = "background_color".toList then
    { change := some (.background (Color.resolve value)) }
  else knobMeaning appearance key value

/-- The meaning of an entry; the key is expected in lower case. -/
def meaning (s : Section) (key value : Text) : Meaning :=
  match s with
  | root => rootMeaning key value
  | behavior =>
    if key = "rhythm".toList then rhythmMeaning value else knobMeaning behavior key value
  | appearance => appearanceMeaning key value
  | timing => knobMeaning timing key value
  | spatial => knobMeaning spatial key value
  | other => {}

end Section
end Intent
end LedPattern
