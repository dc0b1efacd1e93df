import LedPattern.Json.Quoted
/-!
Skipping a value that nobody asked for. It must be well-formed, at any depth, but numbers may have any
size and surrogates need no partner.

The machine reads one character at a time. Its state is the phase within the current token and the
brackets that are open, so that depth costs no recursion.
-/
namespace LedPattern
namespace Json

/-- The four characters that may stand between tokens. -/
def isBlank (c : Char) : Bool := c == ' ' || c == '\t' || c == '\n' || c == '\r'

def dropBlank (t : Text) : Text := t.dropWhile isBlank

inductive Bracket where
  | list
  | object
deriving DecidableEq, Repr

namespace Bracket

/-- The text ends where the container goes on or closes. -/
def endFault : Bracket → Fault
  | list => .endInList
  | object => .endInObject

def nextFault : Bracket → Fault
  | list => .noListNext
  | object => .noObjectNext

def closing : Bracket → Char
  | list => ']'
  | object => '\x7d'

end Bracket

namespace Skip

inductive Phase where
  /-- A value must begin. -/
  | value
  /-- After an opening bracket: a value or the closing one. -/
  | firstItem
  /-- After an opening brace: a key or the closing one. -/
  | firstKey
  /-- After a comma in an object: a key must begin. -/
  | key
  | colon
  /-- After a value in a container: a comma or the closing bracket. -/
  | next
  | string (isKey : Bool)
  | escape (isKey : Bool)
  /-- After `\u`. -/
  | unit (isKey : Bool) (digits : Unit16)
  /-- Inside `null`, `true` or `false`: what is still to come. -/
  | word (left : Text)
  | minus
  | zero
  | whole
  | point
  | fraction
  | mark
  | markSign
  | power
deriving DecidableEq, Repr

/-- What a character leads to. -/
inductive Step where
  | fault (fault : Fault)
  /-- The value is complete, with this character or before it. -/
  | done (consumed : Bool)
  | go (phase : Phase) (brackets : List Bracket)
deriving DecidableEq, Repr

/-- The current value ends with this character. -/
def finish (brackets : List Bracket) : Step :=
  if brackets.isEmpty then .done true else .go .next brackets

def stepValue (brackets : List Bracket) (c : Char) : Step :=
  if isBlank c then .go .value brackets
  else if c = '"' then .go (.string false) brackets
  else if c = '-' then .go .minus brackets
  else if c = '0' then .go .zero brackets
  else if c.isDigit then .go .whole brackets
  else if c = 'n' then .go (.word "ull".toList) brackets
  else if c = 't' then .go (.word "rue".toList) brackets
  else if c = 'f' then .go (.word "alse".toList) brackets
  else if c = '[' then .go .firstItem (.list :: brackets)
  else if c = '\x7b' then .go .firstKey (.object :: brackets)
  else .fault .noValue

def stepKey (brackets : List Bracket) (c : Char) : Step :=
  if c = '"' then .go (.string true) brackets else .fault .keyNotString

/-- What may follow a value inside its container; outside any, nothing of it is left. -/
def stepNext (brackets : List Bracket) (c : Char) : Step :=
  match brackets with
  | [] => .done false
  | bracket :: outer =>
    if isBlank c then .go .next brackets
    else if c = bracket.closing then finish outer
    else if c = ',' then .go (if bracket = .list then .value else .key) brackets
    else .fault bracket.nextFault

/-- The end of a string is followed by a colon if it was a key. -/
def stepString (isKey : Bool) (brackets : List Bracket) (c : Char) : Step :=
  if c = '"' then if isKey then .go .colon brackets else finish brackets
  else if c = '\\' then .go (.escape isKey) brackets
  else if c.toNat < 0x20 then .fault .controlCharacter
  else .go (.string isKey) brackets

def stepEscape (isKey : Bool) (brackets : List Bracket) (c : Char) : Step :=
  if c = 'u' then .go (.unit isKey {}) brackets
  else if (unescape? c).isSome then .go (.string isKey) brackets
  else .fault .badEscape

def stepUnit (isKey : Bool) (digits : Unit16) (brackets : List Bracket) : Step :=
  if 0 < digits.left then .go (.unit isKey digits) brackets
  else if digits.bad then .fault .badEscape
  else .go (.string isKey) brackets

def stepWord (left : Text) (brackets : List Bracket) (c : Char) : Step :=
  match left with
  | [] => .fault .badWord
  | expected :: left =>
    if c ≠ expected then .fault .badWord
    else if left.isEmpty then finish brackets
    else .go (.word left) brackets

/-- A digit that must come. -/
def stepDigit (phase : Phase) (brackets : List Bracket) (c : Char) : Step :=
  if c.isDigit then .go phase brackets else .fault .badNumber

/-- After a complete mantissa without point: a point, a power or the end of the number. -/
def stepMantissa (brackets : List Bracket) (c : Char) : Step :=
  if c = '.' then .go .point brackets
  else if c = 'e' ∨ c = 'E' then .go .mark brackets
  else stepNext brackets c

def step (phase : Phase) (brackets : List Bracket) (c : Char) : Step :=
  match phase with
  | .value => stepValue brackets c
  | .firstItem =>
    if isBlank c then .go .firstItem brackets
    else if c = ']' then finish brackets.tail
    else stepValue brackets c
  | .firstKey =>
    if isBlank c then .go .firstKey brackets
    else if c = '\x7d' then finish brackets.tail
    else stepKey brackets c
  | .key => if isBlank c then .go .key brackets else stepKey brackets c
  | .colon =>
    if isBlank c then .go .colon brackets
    else if c = ':' then .go .value brackets
    else .fault .noColon
  | .next => stepNext brackets c
  | .string isKey => stepString isKey brackets c
  | .escape isKey => stepEscape isKey brackets c
  | .unit isKey digits => stepUnit isKey (digits.take c) brackets
  | .word left => stepWord left brackets c
  | .minus => if c = '0' then .go .zero brackets else stepDigit .whole brackets c
  | .zero => if c.isDigit then .fault .badNumber else stepMantissa brackets c
  | .whole => if c.isDigit then .go .whole brackets else stepMantissa brackets c
  | .point => stepDigit .fraction brackets c
  | .fraction =>
    if c.isDigit then .go .fraction brackets
    else if c = 'e' ∨ c = 'E' then .go .mark brackets
    else stepNext brackets c
  | .mark =>
    if c = '+' ∨ c = '-' then .go .markSign brackets else stepDigit .power brackets c
  | .markSign => stepDigit .power brackets c
  | .power => if c.isDigit then .go .power brackets else stepNext brackets c

/-- What the end of the text means: nothing for a number outside any container, else a fault. A
number that lacks a digit is wrong rather than cut short. -/
def atEnd (phase : Phase) (brackets : List Bracket) : Except Fault Text :=
  match phase with
  | .value | .word _ => .error .endInValue
  | .string _ | .escape _ | .unit _ _ => .error .endInString
  | .minus | .point | .mark | .markSign => .error .badNumber
  | .key | .colon => .error .endInObject
  | .firstItem | .firstKey | .next | .zero | .whole | .fraction | .power =>
    match brackets with
    | [] => .ok []
    | bracket :: _ => .error bracket.endFault

/-- Runs the machine; gives what follows the value. -/
def run (phase : Phase) (brackets : List Bracket) : Text → Except Fault Text
  | [] => atEnd phase brackets
  | c :: rest =>
    match step phase brackets c with
    | .fault fault => .error fault
    | .done consumed => .ok (if consumed then rest else c :: rest)
    | .go phase brackets => run phase brackets rest

end Skip

/-- What follows the value at the front of a text. -/
def skipValue (text : Text) : Except Fault Text := Skip.run .value [] text

end Json
end LedPattern
