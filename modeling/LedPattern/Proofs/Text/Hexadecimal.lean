import LedPattern.Proofs.Text.Case
import LedPattern.Text.Hexadecimal
import LedPattern.Text.Utf8
import Mathlib.Tactic.SplitIfs
/-!
Hexadecimal digits. `HexDigit` gives the digits of either case with their values; every digit is one
byte of text, so a text of digits can be told by its bytes.
-/
namespace LedPattern
namespace Text

def HexDigit (c : Char) (n : Nat) : Prop :=
  "0123456789abcdef".toList[n]? = some c ∨ "0123456789ABCDEF".toList[n]? = some c

/-- The digits by their numbers: three ranges, each counted from its first digit. -/
theorem hexValue?_cases {c : Char} {n : Nat} (h : hexValue? c = some n) :
    (n ∈ List.range 10 ∧ c = Char.ofNat (0x30 + n)) ∨
      ∃ k ∈ List.range 6, n = 10 + k ∧ (c = Char.ofNat (0x61 + k) ∨ c = Char.ofNat (0x41 + k)) := by
  simp only [hexValue?, Bool.and_eq_true, decide_eq_true_eq] at h
  simp only [List.mem_range]
  split at h
  · obtain rfl := Option.some.inj h
    refine .inl ⟨by omega, ?_⟩
    rw [show 0x30 + (c.toNat - 0x30) = c.toNat by omega, Char.ofNat_toNat]
  · split at h
    · obtain rfl := Option.some.inj h
      refine .inr ⟨c.toNat - 0x61, by omega, by omega, .inl ?_⟩
      rw [show 0x61 + (c.toNat - 0x61) = c.toNat by omega, Char.ofNat_toNat]
    · split at h
      · obtain rfl := Option.some.inj h
        refine .inr ⟨c.toNat - 0x41, by omega, by omega, .inr ?_⟩
        rw [show 0x41 + (c.toNat - 0x41) = c.toNat by omega, Char.ofNat_toNat]
      · exact absurd h (by simp)

theorem hexValue?_eq_some_iff {c : Char} {n : Nat} : hexValue? c = some n ↔ HexDigit c n := by
  constructor
  · intro h
    have decimal : ∀ n ∈ List.range 10,
        "0123456789abcdef".toList[n]? = some (Char.ofNat (0x30 + n)) := by decide
    have letter : ∀ k ∈ List.range 6,
        "0123456789abcdef".toList[10 + k]? = some (Char.ofNat (0x61 + k)) ∧
          "0123456789ABCDEF".toList[10 + k]? = some (Char.ofNat (0x41 + k)) := by decide
    rcases hexValue?_cases h with ⟨hn, rfl⟩ | ⟨k, hk, rfl, rfl | rfl⟩
    · exact .inl (decimal n hn)
    · exact .inl (letter k hk).1
    · exact .inr (letter k hk).2
  · intro h
    have all : ∀ n ∈ List.range 16, "0123456789abcdef".toList[n]?.bind hexValue? = some n ∧
        "0123456789ABCDEF".toList[n]?.bind hexValue? = some n := by decide
    rcases h with h | h
    · have hn : n < 16 := (List.getElem?_eq_some_iff.mp h).1
      have hvalue := (all n (List.mem_range.mpr hn)).1
      rwa [h] at hvalue
    · have hn : n < 16 := (List.getElem?_eq_some_iff.mp h).1
      have hvalue := (all n (List.mem_range.mpr hn)).2
      rwa [h] at hvalue

theorem isHexDigit_iff {c : Char} : isHexDigit c = true ↔ ∃ n, HexDigit c n := by
  rw [isHexDigit, Option.isSome_iff_exists]
  simp only [hexValue?_eq_some_iff]

theorem hexValue?_lt {c : Char} {n : Nat} (h : hexValue? c = some n) : n < 16 := by
  rcases hexValue?_cases h with ⟨hn, -⟩ | ⟨k, hk, rfl, -⟩
  · have := List.mem_range.mp hn
    omega
  · have := List.mem_range.mp hk
    omega

theorem hexValue?_toLower (c : Char) : hexValue? c.toLower = hexValue? c :=
  apply_toLower (by decide) c

theorem filterMap_hexValue?_lower (t : Text) :
    (lower t).filterMap hexValue? = t.filterMap hexValue? := by
  rw [lower, List.filterMap_map]
  congr 1
  exact funext hexValue?_toLower

theorem all_isHexDigit_lower (t : Text) : (lower t).all isHexDigit = t.all isHexDigit := by
  rw [lower, List.all_map]
  congr 1
  funext c
  rw [Function.comp_apply, isHexDigit, isHexDigit, hexValue?_toLower]

theorem isHexDigit_iff_toNat {c : Char} : isHexDigit c = true ↔
    (0x30 ≤ c.toNat ∧ c.toNat ≤ 0x39) ∨ (0x41 ≤ c.toNat ∧ c.toNat ≤ 0x46) ∨
      (0x61 ≤ c.toNat ∧ c.toNat ≤ 0x66) := by
  simp only [isHexDigit, hexValue?, Bool.and_eq_true, decide_eq_true_eq]
  split_ifs <;> simp <;> omega

theorem not_isBlank_of_isHexDigit {c : Char} (h : isHexDigit c = true) : isBlank c = false := by
  rw [isHexDigit_iff_toNat] at h
  by_contra hblank
  rw [Bool.not_eq_false, isBlank] at hblank
  simp only [Bool.or_eq_true, Bool.and_eq_true, decide_eq_true_eq, beq_iff_eq] at hblank
  omega

theorem hexValue?_toUpper_hexDigit {n : Nat} (h : n < 16) :
    hexValue? (hexDigit n).toUpper = some n := by
  have all : ∀ n ∈ List.range 16, hexValue? (hexDigit n).toUpper = some n := by decide
  exact all n (List.mem_range.mpr h)

theorem toLower_toUpper_hexDigit {n : Nat} (h : n < 16) :
    (hexDigit n).toUpper.toLower = hexDigit n := by
  have all : ∀ n ∈ List.range 16, (hexDigit n).toUpper.toLower = hexDigit n := by decide
  exact all n (List.mem_range.mpr h)

/-- A `#` with hexadecimal digits after it has no blanks at its ends. -/
theorem trim_hash_hexDigits {digits : Text} (h : ∀ d ∈ digits, isHexDigit d = true) :
    trim ('#' :: digits) = '#' :: digits := by
  apply strip_eq_self
  constructor
  · intro c hc
    obtain rfl : '#' = c := by simpa using hc
    decide
  · intro c hc
    rcases List.mem_cons.mp (List.mem_of_getLast? hc) with rfl | hmem
    · decide
    · exact not_isBlank_of_isHexDigit (h c hmem)

/-! ## Digits as bytes -/

theorem utf8Size_of_isHexDigit {c : Char} (h : isHexDigit c = true) : c.utf8Size = 1 := by
  rw [isHexDigit_iff_toNat] at h
  have hsmall : c.toNat ≤ 0x7f := by omega
  exact Char.utf8Size_eq_one_iff.mpr hsmall

def isHexByte (b : UInt8) : Bool :=
  (0x30 ≤ b && b ≤ 0x39) || (0x41 ≤ b && b ≤ 0x46) || (0x61 ≤ b && b ≤ 0x66)

theorem isHexByte_iff_toNat {b : UInt8} : isHexByte b = true ↔
    (0x30 ≤ b.toNat ∧ b.toNat ≤ 0x39) ∨ (0x41 ≤ b.toNat ∧ b.toNat ≤ 0x46) ∨
      (0x61 ≤ b.toNat ∧ b.toNat ≤ 0x66) := by
  simp only [isHexByte, Bool.or_eq_true, Bool.and_eq_true, decide_eq_true_eq,
    UInt8.le_iff_toNat_le, UInt8.reduceToNat, or_assoc]

/-- A character of more than one byte is no digit, and begins with a byte that is none. -/
theorem all_isHexByte_utf8EncodeChar (c : Char) :
    (String.utf8EncodeChar c).all isHexByte = isHexDigit c := by
  have hcode : c.val.toNat = c.toNat := rfl
  rw [Bool.eq_iff_iff, isHexDigit_iff_toNat]
  unfold String.utf8EncodeChar
  simp only [hcode]
  split_ifs with hone htwo hthree
  all_goals
    simp only [List.all_cons, List.all_nil, Bool.and_true, Bool.and_eq_true, isHexByte_iff_toNat,
      UInt8.toNat_ofNat']
    omega

theorem all_isHexByte_toUtf8 (t : Text) : (toUtf8 t).all isHexByte = t.all isHexDigit := by
  rw [toUtf8, List.all_flatMap]
  congr 1
  exact funext all_isHexByte_utf8EncodeChar

end Text
end LedPattern
