import LedPattern.Text.Hexadecimal
import LedPattern.Text.Numeral
import LedPattern.Text.Quoted
/-!
Colours as three bytes, and the hexadecimal form in which they are written and read.
-/
namespace LedPattern

/-- A colour by its three channels, in the order in which a program stores them. -/
structure Rgb where
  red : UInt8
  green : UInt8
  blue : UInt8
deriving DecidableEq, Repr

/-- Why a text is no colour. -/
inductive ColorError where
  /-- All digits are hexadecimal, but there are neither three nor six of them. -/
  | badLength (digits : Nat)
  /-- Some character is no hexadecimal digit; carries the trimmed text. -/
  | badDigit (text : Text)
deriving DecidableEq, Repr

namespace ColorError

def message : ColorError → Text
  | badLength n =>
    "invalid hex color length: ".toList ++ Text.ofNat n ++ " (expected 3 or 6 digits)".toList
  | badDigit t => "invalid hex digits in color: ".toList ++ Text.quote t

end ColorError

namespace Rgb

def white : Rgb := ⟨255, 255, 255⟩

def black : Rgb := ⟨0, 0, 0⟩

def bytes (c : Rgb) : List UInt8 := [c.red, c.green, c.blue]

/-- Consecutive colours from their bytes; fewer than three bytes at the end are no colour. -/
def ofBytes : List UInt8 → List Rgb
  | r :: g :: b :: rest => ⟨r, g, b⟩ :: ofBytes rest
  | _ => []

theorem ofBytes_flatMap_bytes (colors : List Rgb) : ofBytes (colors.flatMap bytes) = colors := by
  induction colors with
  | nil => simp [ofBytes]
  | cons c rest ih =>
    simp only [List.flatMap_cons, bytes, List.cons_append, List.nil_append, ofBytes] at ih ⊢
    rw [ih]

/-- Nothing is lost where the bytes are those of whole colours. -/
theorem flatMap_bytes_ofBytes {n : Nat} {b : List UInt8} (h : b.length = 3 * n) :
    (ofBytes b).flatMap bytes = b := by
  induction n generalizing b with
  | zero => simp_all [ofBytes]
  | succ n ih =>
    match b, h with
    | _ :: _ :: _ :: rest, h =>
      have hrest : rest.length = 3 * n := by
        simp only [List.length_cons] at h
        omega
      simp [ofBytes, bytes, ih hrest]

theorem length_ofBytes : ∀ b : List UInt8, (ofBytes b).length = b.length / 3
  | [] => rfl
  | [_] => by simp [ofBytes]
  | [_, _] => by simp [ofBytes]
  | _ :: _ :: _ :: rest => by
    simp only [ofBytes, List.length_cons, length_ofBytes rest]
    omega

/-- The colour as `#RRGGBB`. -/
def text (c : Rgb) : Text := '#' :: c.bytes.flatMap Text.hexByteUpper

/-- The text without one leading `#`. -/
def hexPart : Text → Text
  | [] => []
  | c :: rest => if c = '#' then rest else c :: rest

/-- Three digits stand for six, each of them doubled. -/
def ofDigits? : List Nat → Option Rgb
  | [r, g, b] => some ⟨.ofNat (17 * r), .ofNat (17 * g), .ofNat (17 * b)⟩
  | [r₁, r₂, g₁, g₂, b₁, b₂] =>
    some ⟨.ofNat (16 * r₁ + r₂), .ofNat (16 * g₁ + g₂), .ofNat (16 * b₁ + b₂)⟩
  | _ => none

/-- Reads three or six hexadecimal digits, with or without `#` and with blanks around them. A wrong
digit is reported before a wrong length. -/
def parse (t : Text) : Except ColorError Rgb :=
  let trimmed := Text.trim t
  let digits := hexPart trimmed
  if digits.all Text.isHexDigit then
    match ofDigits? (digits.filterMap Text.hexValue?) with
    | some c => .ok c
    | none => .error (.badLength digits.length)
  else .error (.badDigit trimmed)

end Rgb
end LedPattern
