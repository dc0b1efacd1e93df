import LedPattern.Json.Read
import LedPattern.Json.Value
import LedPattern.Pattern.Basic
/-!
Patterns as JSON objects. Every field may be left out or `null`; members that are no field of a
pattern are skipped.
-/
namespace LedPattern
namespace Pattern

inductive Field where
  | effect
  | name
  | colors
  | background
  | quantity (quantity : Quantity)
deriving DecidableEq, Repr

namespace Field

def key : Field → Text
  | effect => "effect".toList
  | name => "name".toList
  | colors => "colors".toList
  | background => "background_color".toList
  | quantity q => q.key

def all : List Field :=
  [effect, name, colors, background] ++ Quantity.all.map quantity

/-- The field of a key; a name may also be called a description. -/
def named? (key : Text) : Option Field :=
  if key = "description".toList then some name else all.find? fun field => field.key = key

end Field

/-- The pattern as a JSON object, fields in order and absent ones left out. -/
def toJson (p : Pattern) : Json.Value :=
  .object <|
    [(Field.effect.key, .string p.effect)] ++
    (p.name.map fun t => (Field.name.key, .string t)).toList ++
    [(Field.colors.key, .list (p.colors.map .string))] ++
    (p.background.map fun t => (Field.background.key, .string t)).toList ++
    Quantity.all.map fun q => (q.key, .integer (p.get q).toInt)

/-- Reads the value of a field into a pattern in which it still has its default. -/
def readField (p : Pattern) (text : Text) : Field → Except Json.Fault (Pattern × Text)
  | .effect => do
    let (value, rest) ← Json.readText? text
    .ok ({ p with effect := value.getD [] }, rest)
  | .name => do
    let (value, rest) ← Json.readText? text
    .ok ({ p with name := value }, rest)
  | .colors => do
    let (value, rest) ← Json.readTexts? text
    .ok ({ p with colors := value.getD [] }, rest)
  | .background => do
    let (value, rest) ← Json.readText? text
    .ok ({ p with background := value }, rest)
  | .quantity q => do
    let (value, rest) ← Json.readInt32? text
    .ok (p.set q (value.getD 0), rest)

/-- Reads members up to the closing brace. A field may come only once, and is refused before its
value is looked at; `fuel` bounds the number of members. -/
def readMembers : Nat → Bool → List Field → Pattern → Text → Except Json.Fault (Pattern × Text)
  | 0, _, _, _, _ => .error .endInObject
  | fuel + 1, first, seen, p, text => do
    match ← Json.nextKey first text with
    | .closed rest => .ok (p, rest)
    | .item rest =>
      let (key, rest) ← Json.readString rest
      match Field.named? key with
      | none =>
        let rest ← Json.takeColon rest
        let rest ← Json.skipValue rest
        readMembers fuel false seen p rest
      | some field =>
        if field ∈ seen then .error (.repeatedField field.key)
        else
          let rest ← Json.takeColon rest
          let (p, rest) ← readField p rest field
          readMembers fuel false (field :: seen) p rest

/-- The text after an opening brace. -/
def openBrace (text : Text) : Except Json.Fault Text :=
  match Json.dropBlank text with
  | [] => .error .endInValue
  | c :: rest => if c = '\x7b' then .ok rest else .error .noValue

/-- Reads a whole text as one pattern. -/
def ofJson (text : Text) : Except Json.Fault Pattern := do
  let rest ← openBrace text
  let (p, rest) ← readMembers (rest.length + 1) true [] {} rest
  if (Json.dropBlank rest).isEmpty then .ok p else .error .trailingCharacters

end Pattern
end LedPattern
