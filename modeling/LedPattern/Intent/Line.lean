import LedPattern.Text.Basic
/-!
The lines of intent text: headings that open a section, and entries of a key and a value. Every line
is read on its own, so a quote that is left open ends with its line.
-/
namespace LedPattern
namespace Intent

inductive Line where
  /-- A line without indentation that ends in a colon. -/
  | heading (name : Text)
  /-- A key and a value, divided by the first colon. -/
  | entry (key value : Text)
deriving DecidableEq, Repr

namespace Line

/-- The line up to its comment. A `#` begins a comment outside quotes, at the start of the line or
after a blank. The arguments say which quote is open and whether the last character was blank. -/
def dropComment (quote : Option Char) (afterBlank : Bool) : Text → Text
  | [] => []
  | c :: rest =>
    match quote with
    | some q => c :: dropComment (if c = q then none else some q) (Text.isBlank c) rest
    | none =>
      if Text.isQuote c then c :: dropComment (some c) (Text.isBlank c) rest
      else if c == '#' && afterBlank then []
      else c :: dropComment none (Text.isBlank c) rest

def isIndented : Text → Bool
  | [] => false
  | c :: _ => Text.isBlank c

/-- The meaning of one line, if it has any. -/
def classify (raw : Text) : Option Line :=
  let line := dropComment none true raw
  let trimmed := Text.trim line
  if trimmed.isEmpty then none
  else if !isIndented line && trimmed.getLast? == some ':' then
    some (.heading (Text.trim trimmed.dropLast))
  else
    (Text.splitFirst ':' trimmed).map fun (key, value) =>
      .entry (Text.trim key) (Text.unquote (Text.trim value))

/-- All lines that mean something, in order. -/
def scan (text : Text) : List Line := (Text.lines text).filterMap classify

end Line
end Intent
end LedPattern
