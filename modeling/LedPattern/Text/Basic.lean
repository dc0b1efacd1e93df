/-!
Text as a list of characters, with the blank characters, the two trimmings, the case fold and the
splittings that the pattern language is written in.
-/
namespace LedPattern

/-- Text as the list of its characters. -/
abbrev Text := List Char

namespace Text

/-- The characters with the Unicode property White_Space. -/
def isBlank (c : Char) : Bool :=
  let n := c.toNat
  (0x9 ≤ n && n ≤ 0xd) || n == 0x20 || n == 0x85 || n == 0xa0 || n == 0x1680 ||
    (0x2000 ≤ n && n ≤ 0x200a) || n == 0x2028 || n == 0x2029 || n == 0x202f || n == 0x205f ||
    n == 0x3000

/-- The text without the characters of a class at its end. -/
def dropEndWhile (p : Char → Bool) (t : Text) : Text :=
  (t.reverse.dropWhile p).reverse

/-- The text without the characters of a class at either end. -/
def strip (p : Char → Bool) (t : Text) : Text :=
  dropEndWhile p (t.dropWhile p)

def trim (t : Text) : Text := strip isBlank t

def isQuote (c : Char) : Bool := c == '"' || c == '\''

/-- Quotes are removed from both ends however many there are, paired or not. -/
def unquote (t : Text) : Text := strip isQuote t

/-- Lower case for the letters A to Z; every other character stays as it is. -/
def lower (t : Text) : Text := t.map Char.toLower

/-- The form in which words are looked up: trimmed and in lower case. -/
def fold (t : Text) : Text := lower (trim t)

/-- The two sides of the first separator, or nothing if there is none. -/
def splitFirst (separator : Char) : Text → Option (Text × Text)
  | [] => none
  | c :: rest =>
    if c = separator then some ([], rest)
    else (splitFirst separator rest).map fun (before, after) => (c :: before, after)

/-- A carriage return at the end of a line belongs to its line break. -/
def dropReturn (line : Text) : Text :=
  if line.getLast? = some '\r' then line.dropLast else line

/-- The pieces between line feeds as lines: a piece that ends in a line feed loses its carriage
return, and nothing after the last line feed is no line. -/
def linesOfPieces : List Text → List Text
  | [] => []
  | [last] => if last.isEmpty then [] else [last]
  | piece :: pieces => dropReturn piece :: linesOfPieces pieces

def lines (t : Text) : List Text := linesOfPieces (t.splitOn '\n')

/-- The number of bytes of the text in UTF-8. -/
def byteLength : Text → Nat
  | [] => 0
  | c :: rest => c.utf8Size + byteLength rest

end Text
end LedPattern
