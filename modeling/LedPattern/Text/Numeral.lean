import LedPattern.Text.Basic
/-!
Decimal numerals: how integers are written, and which texts are read as 32-bit integers.
-/
namespace LedPattern
namespace Text

/-- The decimal digits of a natural number, without leading zeros. -/
def ofNat (n : Nat) : Text := Nat.toDigits 10 n

def ofInt : Int → Text
  | .ofNat n => ofNat n
  | .negSucc n => '-' :: ofNat (n + 1)

def digitValue (c : Char) : Nat := c.toNat - '0'.toNat

/-- The number that a row of digits denotes. -/
def digitsValue (digits : Text) : Nat :=
  digits.foldl (fun n c => 10 * n + digitValue c) 0

/-- One or more decimal digits, leading zeros allowed. -/
def readNat? (t : Text) : Option Nat :=
  if !t.isEmpty && t.all Char.isDigit then some (digitsValue t) else none

/-- Digits after at most one sign. -/
def readInt? : Text → Option Int
  | [] => none
  | c :: rest =>
    if c = '-' then (readNat? rest).map fun n => -(n : Int)
    else if c = '+' then (readNat? rest).map fun n => (n : Int)
    else (readNat? (c :: rest)).map fun n => (n : Int)

/-- The integers that a 32-bit field can hold. -/
def fitsInt32 (n : Int) : Bool := -2147483648 ≤ n && n ≤ 2147483647

/-- A signed numeral, if its value fits into 32 bits. -/
def readInt32? (t : Text) : Option Int32 :=
  (readInt? t).bind fun n => if fitsInt32 n then some (Int32.ofInt n) else none

end Text
end LedPattern
