import LedPattern.Intent.Line
import LedPattern.Intent.Section
/-!
Intent text read into a pattern. The entries are applied in order, so the last one that changes a
field decides it.
-/
namespace LedPattern
namespace Intent

/-- Every entry with the section in force at it; the section at the start is given. -/
def entries : Section → List Line → List (Section × Text × Text)
  | _, [] => []
  | _, .heading name :: rest => entries (Section.ofHeading name) rest
  | s, .entry key value :: rest => (s, Text.lower key, value) :: entries s rest

/-- What each entry of a text means, in order. -/
def meanings (text : Text) : List Meaning :=
  (entries .root (Line.scan text)).map fun (s, key, value) => s.meaning key value

def Change.apply (p : Pattern) : Change → Pattern
  | .effect value => { p with effect := value }
  | .name value => { p with name := some value }
  | .colors value => { p with colors := value }
  | .background value => { p with background := some value }
  | .quantity target value => p.set target value

/-- What a pattern is before anything is said about it. -/
def start : Pattern :=
  { brightness := Pattern.defaultBrightness, speed := Pattern.defaultSpeed }

def changes (text : Text) : List Change := (meanings text).filterMap Meaning.change

def pattern (text : Text) : Pattern := (changes text).foldl Change.apply start

def warnings (text : Text) : List Warning := (meanings text).flatMap Meaning.warnings

/-- The pattern and the warnings of a text, unless it names no effect. -/
def read (text : Text) : Option (Pattern × List Warning) :=
  let p := pattern text
  if p.effect.isEmpty then none else some (p, warnings text)

end Intent
end LedPattern
