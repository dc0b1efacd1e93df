import LedPattern.Text.Numeral
/-!
The shortest decimal that reads back as a given binary floating-point number.

A number is taken apart into its significand and exponent. All reals of an interval around it round
to it, and the result is the decimal of that interval with the fewest digits: the nearest one if there
are several, and the even one of two that are equally near. The search is exact: it compares natural
numbers only.
-/
namespace LedPattern

/-- The number `digits · 10 ^ exponent`, or its negation. -/
structure Decimal where
  negative : Bool
  digits : Nat
  exponent : Int
deriving DecidableEq, Repr

namespace Decimal

/-- A positive floating-point number `significand · 2 ^ exponent`. -/
structure Binary where
  significand : Nat
  exponent : Int
  /-- The next smaller number is only half as far away as the next larger one. -/
  narrowBelow : Bool

def Binary.ofBits (bits : UInt64) : Binary :=
  let fraction := (bits &&& 0xfffffffffffff).toNat
  let scale := (bits >>> 52 &&& 0x7ff).toNat
  if scale = 0 then ⟨fraction, -1074, false⟩
  else ⟨0x10000000000000 + fraction, (scale : Int) - 1075, fraction = 0 && scale != 1⟩

/-- Numerator and denominator of `base ^ exponent`. -/
def power (base : Nat) (exponent : Int) : Nat × Nat :=
  (Nat.pow base exponent.toNat, Nat.pow base (-exponent).toNat)

/-- The exponent of the leading digit of `numerator / denominator`. -/
def leadingExponent (numerator denominator : Nat) : Int :=
  if denominator ≤ numerator then
    (Nat.toDigits 10 (numerator / denominator)).length - 1
  else
    match (List.range 400).find? fun j => denominator ≤ numerator * Nat.pow 10 j with
    | some j => -(j : Int)
    | none => 0

/-- The better of the two multiples of `10 ^ exponent` next to the number, if one of them lies in the
interval of reals that round to it. Everything is counted in quarters of the significand's unit. -/
def onGrid? (b : Binary) (exponent : Int) : Option Nat :=
  let (up, down) := power 10 exponent
  let (scale, unscale) := power 2 (b.exponent - 2)
  let value := 4 * b.significand * scale * down
  let low := (4 * b.significand - if b.narrowBelow then 1 else 2) * scale * down
  let high := (4 * b.significand + 2) * scale * down
  let unit := up * unscale
  let inside (d : Nat) : Bool :=
    if b.significand % 2 = 0 then low ≤ d * unit && d * unit ≤ high
    else low < d * unit && d * unit < high
  let below := value / unit
  let above := below + 1
  match inside below, inside above with
  | true, true =>
    let lost := value - below * unit
    let gained := above * unit - value
    if lost < gained || (lost = gained && below % 2 = 0) then some below else some above
  | true, false => some below
  | false, true => some above
  | false, false => none

/-- Trailing zeros of the digits moved into the exponent; the first argument bounds their number. -/
def dropZeros : Nat → Nat → Int → Nat × Int
  | 0, digits, exponent => (digits, exponent)
  | n + 1, digits, exponent =>
    if digits % 10 = 0 then dropZeros n (digits / 10) (exponent + 1) else (digits, exponent)

/-- Seventeen digits tell any two numbers apart, so the search ends within them. -/
def shortestDigits (b : Binary) : Nat × Int :=
  let (scale, unscale) := power 2 b.exponent
  let leading := leadingExponent (b.significand * scale) unscale
  match (List.range 18).findSome? fun (n : Nat) =>
      (onGrid? b (leading - n)).map fun d => (d, leading - n) with
  | some (digits, exponent) => dropZeros 18 digits exponent
  | none => (b.significand, 0)

/-- The shortest decimal of a finite number. -/
def ofFloat (f : Float) : Decimal :=
  let bits := f.toBits
  let negative := bits >>> 63 = 1
  let b := Binary.ofBits bits
  if b.significand = 0 then ⟨negative, 0, 0⟩
  else
    let (digits, exponent) := shortestDigits b
    ⟨negative, digits, exponent⟩

/-- Where decimals are written out in full, and how they are written elsewhere. -/
structure Layout where
  /-- The least exponent of the leading digit that is written in full. -/
  least : Int
  /-- The greatest such exponent. -/
  greatest : Int

/-- Plain digits with a point and at least one place after it, or one digit, the others after a
point, and the power of ten with its sign. -/
def text (layout : Layout) (d : Decimal) : Text :=
  let digits := Text.ofNat d.digits
  let leading : Int := d.exponent + digits.length - 1
  let sign : Text := if d.negative then ['-'] else []
  let plain : Text :=
    if leading < 0 then
      '0' :: '.' :: List.replicate (-leading - 1).toNat '0' ++ digits
    else
      let whole := leading.toNat + 1
      let fraction := digits.drop whole
      digits.take whole ++ List.replicate (whole - digits.length) '0' ++ '.' ::
        if fraction.isEmpty then ['0'] else fraction
  let scientific : Text :=
    digits.take 1 ++ (if digits.length ≤ 1 then [] else '.' :: digits.drop 1) ++ ['e'] ++
      (if leading < 0 then ['-'] else ['+']) ++ Text.ofNat leading.natAbs
  sign ++ if d.digits = 0 ∨ (layout.least ≤ leading ∧ leading ≤ layout.greatest) then plain
    else scientific

end Decimal
end LedPattern
