import LedPattern.Source
/-!
Compiling a text: the program of its pattern, with everything that was replaced on the way.
-/
namespace LedPattern

structure Compiled where
  pattern : Pattern
  program : Program
  warnings : List Warning
deriving DecidableEq, Repr

namespace Compiled

def messages (c : Compiled) : List Text := c.warnings.map Warning.message

end Compiled

/-- The warnings of reading come before those of encoding. -/
def compile (text : Text) : Except CompileError Compiled :=
  match (Source.detect text).read with
  | .error e => .error e
  | .ok (pattern, readWarnings) =>
    match pattern.encode with
    | .error e => .error (.badEffect e)
    | .ok (program, encodeWarnings) =>
      .ok { pattern, program, warnings := readWarnings ++ encodeWarnings }

/-- The name of the pattern in a text, if it can be read and has one that is not blank. -/
def describe (text : Text) : Option Text :=
  match (Source.detect text).read with
  | .error _ => none
  | .ok (pattern, _) => pattern.name.filter fun name => !(Text.trim name).isEmpty

/-- Whether a text compiles, and the messages that go with it: its warnings, or what is wrong with
it. -/
def validate (text : Text) : Bool × List Text :=
  match compile text with
  | .ok compiled => (true, compiled.messages)
  | .error e => (false, [e.message])

/-- What a text is worth: warnings if it compiles, else what is wrong with it. -/
inductive Verdict where
  | valid (warnings : List Text)
  | invalid (message : Text)
deriving DecidableEq, Repr

namespace Verdict

/-- Of the messages about a text that does not compile, the last one counts. -/
def of (text : Text) : Verdict :=
  let (ok, messages) := validate text
  if ok then .valid messages else .invalid (messages.getLast?.getD [])

def isValid : Verdict → Bool
  | valid _ => true
  | invalid _ => false

def messages : Verdict → List Text
  | valid warnings => warnings
  | invalid message => [message]

/-- Why the text is refused, if it is; being strict refuses warnings too. -/
def failure (strict : Bool) : Verdict → Option Text
  | valid warnings =>
    if strict && !warnings.isEmpty then
      some (Text.ofNat warnings.length ++ " warning(s) treated as errors (--strict)".toList)
    else none
  | invalid message => some message

end Verdict
end LedPattern
