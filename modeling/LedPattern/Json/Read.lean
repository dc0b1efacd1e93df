import LedPattern.Json.Number
import LedPattern.Json.Quoted
import LedPattern.Json.Skip
/-!
Reading the pieces of a JSON text that have a place to go: single values, and the steps from one item
or member to the next.
-/
namespace LedPattern
namespace Json

/-- The rest of a text after the letters that must come. -/
def readWord : Text → Text → Except Fault Text
  | [], text => .ok text
  | _ :: _, [] => .error .endInValue
  | expected :: left, c :: rest => if c = expected then readWord left rest else .error .badWord

/-- The value at the front of a text, after blanks; of a list or an object only the bracket. -/
def readFound (text : Text) : Except Fault (Found × Text) :=
  match dropBlank text with
  | [] => .error .endInValue
  | c :: rest =>
    if c = 'n' then (readWord "ull".toList rest).map fun rest => (.null, rest)
    else if c = 't' then (readWord "rue".toList rest).map fun rest => (.boolean true, rest)
    else if c = 'f' then (readWord "alse".toList rest).map fun rest => (.boolean false, rest)
    else if c = '"' then (readString rest).map fun (t, rest) => (.string t, rest)
    else if c = '[' then .ok (.list, rest)
    else if c = '\x7b' then .ok (.object, rest)
    else if c = '-' ∨ c.isDigit then
      (Number.read (c :: rest)).map fun
        | (.integer n, rest) => (.integer n, rest)
        | (.real d, rest) => (.real d, rest)
    else .error .noValue

/-- A string, or `null` for none. -/
def readText? (text : Text) : Except Fault (Option Text × Text) := do
  match ← readFound text with
  | (.null, rest) => .ok (none, rest)
  | (.string t, rest) => .ok (some t, rest)
  | (found, _) => .error (.wrongKind found .string)

/-- An integer of 32 bits, or `null` for none. -/
def readInt32? (text : Text) : Except Fault (Option Int32 × Text) := do
  match ← readFound text with
  | (.null, rest) => .ok (none, rest)
  | (.integer n, rest) =>
    if Text.fitsInt32 n then .ok (some (Int32.ofInt n), rest) else .error (.outOfRange n)
  | (found, _) => .error (.wrongKind found .int32)

/-- Where the text stands inside a container: past its end, or at another item. -/
inductive Next where
  | closed (rest : Text)
  | item (rest : Text)
deriving DecidableEq, Repr

/-- The next item of a list; all but the first come after a comma. -/
def nextItem (first : Bool) (text : Text) : Except Fault Next :=
  match dropBlank text with
  | [] => .error .endInList
  | c :: rest =>
    if c = ']' then .ok (.closed rest)
    else if first then .ok (.item (c :: rest))
    else if c = ',' then
      match dropBlank rest with
      | [] => .error .endInValue
      | c :: rest => if c = ']' then .error .trailingComma else .ok (.item (c :: rest))
    else .error .noListNext

/-- The next key of an object, after its opening quote. -/
def nextKey (first : Bool) (text : Text) : Except Fault Next :=
  match dropBlank text with
  | [] => .error .endInObject
  | c :: rest =>
    if c = '\x7d' then .ok (.closed rest)
    else if first then if c = '"' then .ok (.item rest) else .error .keyNotString
    else if c = ',' then
      match dropBlank rest with
      | [] => .error .endInValue
      | c :: rest =>
        if c = '"' then .ok (.item rest)
        else if c = '\x7d' then .error .trailingComma
        else .error .keyNotString
    else .error .noObjectNext

/-- The text after the colon that must follow a key. -/
def takeColon (text : Text) : Except Fault Text :=
  match dropBlank text with
  | [] => .error .endInObject
  | c :: rest => if c = ':' then .ok rest else .error .noColon

/-- The strings of a list whose bracket has been taken; `fuel` bounds their number. -/
def readTexts : Nat → Bool → Text → Except Fault (List Text × Text)
  | 0, _, _ => .error .endInList
  | fuel + 1, first, text => do
    match ← nextItem first text with
    | .closed rest => .ok ([], rest)
    | .item rest =>
      match ← readFound rest with
      | (.string t, rest) =>
        let (items, rest) ← readTexts fuel false rest
        .ok (t :: items, rest)
      | (found, _) => .error (.wrongKind found .string)

/-- A list of strings, or `null` for none. -/
def readTexts? (text : Text) : Except Fault (Option (List Text) × Text) := do
  match ← readFound text with
  | (.null, rest) => .ok (none, rest)
  | (.list, rest) =>
    let (items, rest) ← readTexts (rest.length + 1) true rest
    .ok (some items, rest)
  | (found, _) => .error (.wrongKind found .list)

end Json
end LedPattern
