import LedPattern.Intent.Basic
import LedPattern.Pattern.Encode
import LedPattern.Pattern.Json
/-!
The two forms of input, and the pattern that each stands for.
-/
namespace LedPattern

inductive Source where
  /-- A JSON object, trimmed. -/
  | structured (text : Text)
  /-- Intent text as it was given. -/
  | intent (text : Text)
deriving DecidableEq, Repr

/-- Why a text does not compile. -/
inductive CompileError where
  | badEffect (error : EffectError)
  | badStructure (fault : Json.Fault)
deriving DecidableEq, Repr

namespace CompileError

def message : CompileError → Text
  | badEffect error => error.message
  | badStructure fault => "structured input parse error: ".toList ++ fault.message

end CompileError

namespace Source

/-- Text that begins with an opening brace, after blanks, is structured. -/
def detect (text : Text) : Source :=
  let trimmed := Text.trim text
  if trimmed.head? = some '\x7b' then .structured trimmed else .intent text

def isStructured : Source → Bool
  | structured _ => true
  | intent _ => false

def text : Source → Text
  | structured t => t
  | intent t => t

/-- The pattern and the warnings given while reading it. A pattern must say what its effect is; which
effects there are is not asked yet. -/
def read (source : Source) : Except CompileError (Pattern × List Warning) :=
  let result : Except CompileError (Pattern × List Warning) :=
    match source with
    | structured t =>
      match Pattern.ofJson t with
      | .ok p => .ok (p, [])
      | .error fault => .error (.badStructure fault)
    | intent t =>
      match Intent.read t with
      | some (p, warnings) => .ok (p, warnings)
      | none => .error (.badEffect .missing)
  match result with
  | .ok (p, warnings) =>
    if (Text.trim p.effect).isEmpty then .error (.badEffect .missing) else .ok (p, warnings)
  | .error e => .error e

end Source
end LedPattern
