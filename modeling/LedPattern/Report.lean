import LedPattern.Compile
/-!
The outcome of compiling as a JSON object, for other programs to read.
-/
namespace LedPattern

structure Report where
  success : Bool
  /-- The program in hexadecimal digits, if there is one to use. -/
  program : Option Text
  warnings : List Text
  errors : List Text
deriving DecidableEq, Repr

/-- What is said when warnings are refused. -/
def strictMessage : Text := "warnings treated as errors (--strict)".toList

namespace Report

/-- Being strict takes the program back if there are warnings, and keeps the warnings. -/
def ofResult (strict : Bool) : Except CompileError Compiled → Report
  | .ok compiled =>
    let warnings := compiled.messages
    if strict && !warnings.isEmpty then ⟨false, none, warnings, [strictMessage]⟩
    else ⟨true, some (Text.hexBytes compiled.program.bytes), warnings, []⟩
  | .error e => ⟨false, none, [], [e.message]⟩

def toJson (r : Report) : Json.Value :=
  .object <|
    [("success".toList, .boolean r.success)] ++
    (r.program.map fun hex => ("bytecode".toList, Json.Value.string hex)).toList ++
    [("warnings".toList, .list (r.warnings.map .string)),
      ("errors".toList, .list (r.errors.map .string))]

def text (r : Report) : Text := r.toJson.text .pretty

end Report
end LedPattern
