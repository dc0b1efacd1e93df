import LedPattern.Json.Quoted
/-!
JSON values as they are written, either on one line or one member to a line.
-/
namespace LedPattern
namespace Json

inductive Value where
  | boolean (value : Bool)
  | integer (value : Int)
  | string (value : Text)
  | list (items : List Value)
  | object (members : List (Text × Value))

/-- What stands between tokens. -/
structure Layout where
  /-- Before an item and before a closing bracket, by depth. -/
  lineBreak : Nat → Text
  colon : Text

namespace Layout

/-- No blanks at all. -/
def compact : Layout where
  lineBreak := fun _ => []
  colon := ":".toList

/-- Every item on its own line, indented by two blanks for each bracket around it. -/
def pretty : Layout where
  lineBreak := fun depth => '\n' :: List.replicate (2 * depth) ' '
  colon := ": ".toList

end Layout

namespace Value

mutual

/-- A value at a depth. Empty containers have no line breaks in them. -/
def write (layout : Layout) (depth : Nat) : Value → Text
  | boolean true => "true".toList
  | boolean false => "false".toList
  | integer n => Text.ofInt n
  | string t => quote t
  | list [] => "[]".toList
  | list (item :: items) =>
    '[' :: layout.lineBreak (depth + 1) ++ write layout (depth + 1) item ++
      writeItems layout (depth + 1) items ++ layout.lineBreak depth ++ [']']
  | object [] => "\x7b\x7d".toList
  | object ((key, value) :: members) =>
    '\x7b' :: layout.lineBreak (depth + 1) ++ quote key ++ layout.colon ++
      write layout (depth + 1) value ++ writeMembers layout (depth + 1) members ++
      layout.lineBreak depth ++ ['\x7d']

/-- The items after the first, each with its comma. -/
def writeItems (layout : Layout) (depth : Nat) : List Value → Text
  | [] => []
  | item :: items =>
    ',' :: layout.lineBreak depth ++ write layout depth item ++ writeItems layout depth items

def writeMembers (layout : Layout) (depth : Nat) : List (Text × Value) → Text
  | [] => []
  | (key, value) :: members =>
    ',' :: layout.lineBreak depth ++ quote key ++ layout.colon ++ write layout depth value ++
      writeMembers layout depth members

end

def text (layout : Layout) (v : Value) : Text := v.write layout 0

end Value
end Json
end LedPattern
