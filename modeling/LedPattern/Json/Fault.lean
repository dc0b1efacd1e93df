import LedPattern.Decimal.Shortest
import LedPattern.Text.Quoted
/-!
What can be wrong with a JSON text. A text is read from left to right, and the first fault met is the
one reported, whatever comes after it.
-/
namespace LedPattern
namespace Json

/-- A value where one of another kind was expected. Lists and objects are told by their first
character; all else is read to its end. -/
inductive Found where
  | null
  | boolean (value : Bool)
  | integer (value : Int)
  | real (value : Decimal)
  | string (value : Text)
  | list
  | object
deriving DecidableEq, Repr

/-- The kinds of value that a field can ask for. -/
inductive Kind where
  | string
  | list
  | int32
deriving DecidableEq, Repr

inductive Fault where
  | endInObject
  | endInList
  | endInString
  | endInValue
  | keyNotString
  | trailingComma
  | noColon
  | noObjectNext
  | noListNext
  | noValue
  | badWord
  | badNumber
  | numberTooLarge
  | badEscape
  | unpairedSurrogate
  | loneSurrogate
  | controlCharacter
  | trailingCharacters
  | repeatedField (name : Text)
  | wrongKind (found : Found) (expected : Kind)
  | outOfRange (value : Int)
deriving DecidableEq, Repr

/-- The text ends too early, is no JSON, or does not fit the fields it is read into. -/
inductive Category where
  | incomplete
  | malformed
  | unfit
deriving DecidableEq, Repr

/-- Reals are written out from `1e-5` up to `1e16`. -/
def realLayout : Decimal.Layout := ⟨-5, 15⟩

namespace Found

def text : Found → Text
  | null => "null".toList
  | boolean true => "boolean `true`".toList
  | boolean false => "boolean `false`".toList
  | integer n => "integer `".toList ++ Text.ofInt n ++ "`".toList
  | real d => "floating point `".toList ++ d.text realLayout ++ "`".toList
  | string t => "string ".toList ++ Text.quote t
  | list => "sequence".toList
  | object => "map".toList

end Found

namespace Kind

def text : Kind → Text
  | string => "a string".toList
  | list => "a sequence".toList
  | int32 => "i32".toList

end Kind

namespace Fault

def category : Fault → Category
  | endInObject | endInList | endInString | endInValue => .incomplete
  | repeatedField _ | wrongKind _ _ | outOfRange _ => .unfit
  | _ => .malformed

def message : Fault → Text
  | endInObject => "EOF while parsing an object".toList
  | endInList => "EOF while parsing a list".toList
  | endInString => "EOF while parsing a string".toList
  | endInValue => "EOF while parsing a value".toList
  | keyNotString => "key must be a string".toList
  | trailingComma => "trailing comma".toList
  | noColon => "expected `:`".toList
  | noObjectNext => "expected `,` or `\x7d`".toList
  | noListNext => "expected `,` or `]`".toList
  | noValue => "expected value".toList
  | badWord => "expected ident".toList
  | badNumber => "invalid number".toList
  | numberTooLarge => "number out of range".toList
  | badEscape => "invalid escape".toList
  | unpairedSurrogate => "unexpected end of hex escape".toList
  | loneSurrogate => "lone leading surrogate in hex escape".toList
  | controlCharacter =>
    "control character (\\u0000-\\u001F) found while parsing a string".toList
  | trailingCharacters => "trailing characters".toList
  | repeatedField name => "duplicate field `".toList ++ name ++ "`".toList
  | wrongKind found expected =>
    "invalid type: ".toList ++ found.text ++ ", expected ".toList ++ expected.text
  | outOfRange n =>
    "invalid value: integer `".toList ++ Text.ofInt n ++ "`, expected ".toList ++ Kind.int32.text

end Fault
end Json
end LedPattern
