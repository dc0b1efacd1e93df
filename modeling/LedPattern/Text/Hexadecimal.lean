import LedPattern.Text.Basic
/-!
Hexadecimal digits and bytes: read in either case, written in the case the place asks for.
-/
namespace LedPattern
namespace Text

def hexDigits : Text := "0123456789abcdef".toList

def hexDigit (n : Nat) : Char := hexDigits.getD n '0'

/-- The value of a hexadecimal digit of either case. -/
def hexValue? (c : Char) : Option Nat :=
  let n := c.toNat
  if 0x30 ≤ n && n ≤ 0x39 then some (n - 0x30)
  else if 0x61 ≤ n && n ≤ 0x66 then some (n - 0x61 + 10)
  else if 0x41 ≤ n && n ≤ 0x46 then some (n - 0x41 + 10)
  else none

def isHexDigit (c : Char) : Bool := (hexValue? c).isSome

/-- A byte as two lower-case digits. -/
def hexByte (b : UInt8) : Text := [hexDigit (b.toNat / 16), hexDigit (b.toNat % 16)]

/-- A byte as two upper-case digits. -/
def hexByteUpper (b : UInt8) : Text := (hexByte b).map Char.toUpper

/-- Bytes as lower-case digits, two for each. -/
def hexBytes (bytes : List UInt8) : Text := bytes.flatMap hexByte

/-- The hexadecimal digits of a number, in lower case and without leading zeros. -/
def hexNat (n : Nat) : Text := Nat.toDigits 16 n

/-- The byte that two digits denote. -/
def hexPair? (high low : Char) : Option UInt8 :=
  match hexValue? high, hexValue? low with
  | some h, some l => some (UInt8.ofNat (16 * h + l))
  | _, _ => none

/-- The bytes that pairs of digits denote. -/
def readHexBytes? : Text → Option (List UInt8)
  | [] => some []
  | [_] => none
  | high :: low :: rest =>
    match hexPair? high low, readHexBytes? rest with
    | some b, some bytes => some (b :: bytes)
    | _, _ => none

theorem hexValue?_hexDigit {n : Nat} (h : n < 16) : hexValue? (hexDigit n) = some n := by
  have all : ∀ n ∈ List.range 16, hexValue? (hexDigit n) = some n := by decide
  exact all n (List.mem_range.mpr h)

theorem hexPair?_hexDigit (b : UInt8) :
    hexPair? (hexDigit (b.toNat / 16)) (hexDigit (b.toNat % 16)) = some b := by
  have hb := b.toNat_lt
  rw [hexPair?, hexValue?_hexDigit (by omega), hexValue?_hexDigit (by omega)]
  simp only [Nat.div_add_mod, UInt8.ofNat_toNat]

theorem readHexBytes?_hexBytes (bytes : List UInt8) :
    readHexBytes? (hexBytes bytes) = some bytes := by
  induction bytes with
  | nil => rfl
  | cons b rest ih =>
    simp only [hexBytes, List.flatMap_cons, hexByte, List.cons_append, List.nil_append,
      readHexBytes?, hexPair?_hexDigit] at ih ⊢
    rw [ih]

end Text
end LedPattern
