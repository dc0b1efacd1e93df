import LedPattern.Json.Fault
/-!
JSON strings: how text is written between quotes, and how it is read back.
-/
namespace LedPattern
namespace Json

/-- The characters with an escape of one letter, and the letter. -/
def shortEscapes : List (Char × Char) :=
  [('"', '"'), ('\\', '\\'), ('\x08', 'b'), ('\x0c', 'f'), ('\n', 'n'), ('\r', 'r'), ('\t', 't')]

def escapeChar (c : Char) : Text :=
  match shortEscapes.lookup c with
  | some letter => ['\\', letter]
  | none =>
    if c.toNat < 0x20 then "\\u00".toList ++ Text.hexByte (UInt8.ofNat c.toNat) else [c]

/-- A text as a JSON string. -/
def quote (t : Text) : Text := '"' :: t.flatMap escapeChar ++ ['"']

/-- The character that the letter after a backslash stands for. -/
def unescape? (letter : Char) : Option Char :=
  if letter = '"' then some '"'
  else if letter = '\\' then some '\\'
  else if letter = '/' then some '/'
  else if letter = 'b' then some '\x08'
  else if letter = 'f' then some '\x0c'
  else if letter = 'n' then some '\n'
  else if letter = 'r' then some '\r'
  else if letter = 't' then some '\t'
  else none

def isLeading (unit : Nat) : Bool := 0xd800 ≤ unit && unit ≤ 0xdbff

def isTrailing (unit : Nat) : Bool := 0xdc00 ≤ unit && unit ≤ 0xdfff

/-- The character of a leading and a trailing surrogate. -/
def pairChar (leading trailing : Nat) : Char :=
  Char.ofNat (0x10000 + (leading - 0xd800) * 0x400 + (trailing - 0xdc00))

/-- The digits after `\u`: what they are worth so far, how many bytes are still to come, and whether
one of them was no digit. Four bytes are taken before they are judged, so a text that ends among them
is cut short rather than wrong. -/
structure Unit16 where
  value : Nat := 0
  left : Nat := 4
  bad : Bool := false
deriving DecidableEq, Repr

def Unit16.take (u : Unit16) (c : Char) : Unit16 where
  value := 16 * u.value + (Text.hexValue? c).getD 0
  left := u.left - c.utf8Size
  bad := u.bad || !Text.isHexDigit c

namespace Quoted

/-- Where a reader stands inside a string. -/
inductive Phase where
  | plain
  /-- After a backslash. -/
  | escape
  /-- After `\u`, and after the leading surrogate that a trailing one must complete, if any. -/
  | unit (leading : Option Nat) (digits : Unit16)
  /-- After a leading surrogate: a backslash must come. -/
  | leading (unit : Nat)
  /-- After that backslash: a `u` must come. -/
  | leadingEscape (unit : Nat)
deriving DecidableEq, Repr

/-- What a character leads to. -/
inductive Step where
  | fault (fault : Fault)
  /-- The closing quote. -/
  | close
  | go (phase : Phase)
  /-- One more character of the text, after which the reader is back in plain text. -/
  | emit (c : Char)
deriving DecidableEq, Repr

def stepPlain (c : Char) : Step :=
  if c = '"' then .close
  else if c = '\\' then .go .escape
  else if c.toNat < 0x20 then .fault .controlCharacter
  else .emit c

def stepEscape (c : Char) : Step :=
  if c = 'u' then .go (.unit none {})
  else
    match unescape? c with
    | some x => .emit x
    | none => .fault .badEscape

/-- Surrogates come in pairs, the leading one first. -/
def stepUnit (leading : Option Nat) (digits : Unit16) : Step :=
  if 0 < digits.left then .go (.unit leading digits)
  else if digits.bad then .fault .badEscape
  else
    match leading with
    | some first =>
      if isTrailing digits.value then .emit (pairChar first digits.value) else .fault .loneSurrogate
    | none =>
      if isTrailing digits.value then .fault .loneSurrogate
      else if isLeading digits.value then .go (.leading digits.value)
      else .emit (Char.ofNat digits.value)

def step (phase : Phase) (c : Char) : Step :=
  match phase with
  | .plain => stepPlain c
  | .escape => stepEscape c
  | .unit leading digits => stepUnit leading (digits.take c)
  | .leading unit => if c = '\\' then .go (.leadingEscape unit) else .fault .unpairedSurrogate
  | .leadingEscape unit =>
    if c = 'u' then .go (.unit (some unit) {}) else .fault .unpairedSurrogate

/-- The text up to the closing quote, and what follows it. -/
def read : Phase → Text → Except Fault (Text × Text)
  | _, [] => .error .endInString
  | phase, c :: rest =>
    match step phase c with
    | .fault fault => .error fault
    | .close => .ok ([], rest)
    | .go next => read next rest
    | .emit x =>
      match read .plain rest with
      | .ok (t, rest) => .ok (x :: t, rest)
      | .error fault => .error fault

end Quoted

/-- Reads a string whose opening quote has been taken: its text, and what follows its closing
quote. -/
def readString (text : Text) : Except Fault (Text × Text) := Quoted.read .plain text

end Json
end LedPattern
