import LedPattern.Json.Fault
/-!
JSON numbers. An integer that fits into 64 bits is read exactly; everything else is a real, scaled
from at most 64 bits of its digits.
-/
namespace LedPattern
namespace Json

inductive Number where
  | integer (value : Int)
  | real (value : Decimal)
deriving DecidableEq, Repr

namespace Number

def wordLimit : Nat := 0x10000000000000000

/-- Digits taken into a significand below `2 ^ 64`, with the number of places that were not. -/
structure Scan where
  significand : Nat
  /-- The power of ten that the significand still lacks. -/
  exponent : Int
  /-- A digit did not fit, and no further one is taken. -/
  full : Bool := false

namespace Scan

/-- From the first digit of the whole part that does not fit, every digit only adds a place. -/
def takeWhole (s : Scan) (digit : Char) : Scan :=
  let next := 10 * s.significand + Text.digitValue digit
  if !s.full && next < wordLimit then { s with significand := next }
  else { s with exponent := s.exponent + 1, full := true }

/-- From the first decimal that does not fit, the decimals are left out. -/
def takeDecimal (s : Scan) (digit : Char) : Scan :=
  let next := 10 * s.significand + Text.digitValue digit
  if !s.full && next < wordLimit then
    { s with significand := next, exponent := s.exponent - 1 }
  else { s with full := true }

end Scan

/-- The power of ten as a floating-point number, exact up to `10 ^ 22` and rounded above. -/
def tenTo (n : Nat) : Float := Float.ofScientific 1 false n

/-- The greatest power of ten that a floating-point number can hold. -/
def maxPower : Nat := 308

/-- The significand times a power of ten, rounded after every step: one multiplication or division by
a power of ten, and for very small numbers a division by the greatest power before it. -/
def scale (significand : Nat) (exponent : Int) : Except Fault Float :=
  let f := (UInt64.ofNat significand).toFloat
  let n := exponent.natAbs
  if significand = 0 then .ok f
  else if 0 ≤ exponent then
    if maxPower < n then .error .numberTooLarge
    else
      let product := f * tenTo n
      if product.isInf then .error .numberTooLarge else .ok product
  else if n ≤ maxPower then .ok (f / tenTo n)
  else if n ≤ 2 * maxPower then .ok (f / tenTo maxPower / tenTo (n - maxPower))
  else .ok 0.0

def realOf (negative : Bool) (significand : Nat) (exponent : Int) : Except Fault Number :=
  (scale significand exponent).map fun f => .real (Decimal.ofFloat (if negative then -f else f))

/-- Minus zero and the integers beyond 64 bits are reals. -/
def integerOf (negative : Bool) (significand : Nat) : Except Fault Number :=
  if !negative then .ok (.integer significand)
  else if 0 < significand && significand ≤ 0x8000000000000000 then .ok (.integer (-(significand : Int)))
  else realOf negative significand 0

/-- The greatest power of ten that is counted; a larger one is beyond every number. -/
def maxExponent : Nat := 0x7fffffff

/-- Reads the power of ten after `e`. -/
def readExponent (negative : Bool) (s : Scan) (text : Text) : Except Fault (Number × Text) :=
  let (negativePower, text) :=
    match text with
    | [] => (false, [])
    | c :: rest => if c = '+' then (false, rest) else if c = '-' then (true, rest)
      else (false, c :: rest)
  match text with
  | [] => .error .endInValue
  | c :: _ =>
    if !c.isDigit then .error .badNumber
    else
      let power := Text.digitsValue (text.takeWhile Char.isDigit)
      let rest := text.dropWhile Char.isDigit
      let value :=
        if power ≤ maxExponent then
          realOf negative s.significand (if negativePower then s.exponent - power
            else s.exponent + power)
        else if s.significand ≠ 0 ∧ !negativePower then .error .numberTooLarge
        else realOf negative 0 0
      value.map fun v => (v, rest)

/-- Reads the decimals after a point. -/
def readDecimals (negative : Bool) (s : Scan) (text : Text) : Except Fault (Number × Text) :=
  let digits := text.takeWhile Char.isDigit
  let rest := text.dropWhile Char.isDigit
  let s := digits.foldl Scan.takeDecimal { s with full := false }
  match digits, rest with
  | [], [] => .error .endInValue
  | [], _ => .error .badNumber
  | _, [] => (realOf negative s.significand s.exponent).map fun v => (v, [])
  | _, c :: after =>
    if c = 'e' ∨ c = 'E' then readExponent negative s after
    else (realOf negative s.significand s.exponent).map fun v => (v, c :: after)

/-- Reads what follows the whole part. -/
def readFraction (negative : Bool) (s : Scan) (text : Text) : Except Fault (Number × Text) :=
  let whole : Except Fault Number :=
    if s.full then realOf negative s.significand s.exponent else integerOf negative s.significand
  match text with
  | [] => whole.map fun v => (v, [])
  | c :: rest =>
    if c = '.' then readDecimals negative s rest
    else if c = 'e' ∨ c = 'E' then readExponent negative s rest
    else whole.map fun v => (v, c :: rest)

/-- Reads a number without its sign. A zero in front of another digit is no number. -/
def readUnsigned (negative : Bool) (text : Text) : Except Fault (Number × Text) :=
  match text with
  | [] => .error .endInValue
  | c :: rest =>
    if !c.isDigit then .error .badNumber
    else if c = '0' then
      match rest with
      | d :: _ => if d.isDigit then .error .badNumber else readFraction negative ⟨0, 0, false⟩ rest
      | [] => readFraction negative ⟨0, 0, false⟩ []
    else
      let scan := (text.takeWhile Char.isDigit).foldl Scan.takeWhole ⟨0, 0, false⟩
      readFraction negative scan (text.dropWhile Char.isDigit)

/-- Reads a number from the front of a text that begins with a sign or a digit. -/
def read (text : Text) : Except Fault (Number × Text) :=
  match text with
  | [] => .error .endInValue
  | c :: rest => if c = '-' then readUnsigned true rest else readUnsigned false (c :: rest)

end Number
end Json
end LedPattern
