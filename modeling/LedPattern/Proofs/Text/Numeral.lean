import LedPattern.Proofs.Text.Strip
import LedPattern.Text.Numeral
import Mathlib.Data.List.Basic
/-!
Decimal numerals as they are written: digits, of which the first is a zero only in the numeral of
zero. Every integer of 32 bits is read back from its numeral, which is left alone by trimming and
folding.
-/
namespace LedPattern
namespace Text

theorem isDigit_of_mem_ofNat {n : Nat} {c : Char} (h : c ∈ ofNat n) : c.isDigit = true :=
  Nat.isDigit_of_mem_toDigits (by decide) (by decide) h

theorem ofNat_ne_nil (n : Nat) : ofNat n ≠ [] := Nat.toDigits_ne_nil

theorem ofNat_eq_cons (n : Nat) : ∃ c rest, ofNat n = c :: rest ∧ c.isDigit = true := by
  obtain ⟨c, rest, hcons⟩ := List.exists_cons_of_ne_nil (ofNat_ne_nil n)
  exact ⟨c, rest, hcons, isDigit_of_mem_ofNat (n := n) (hcons ▸ List.mem_cons_self)⟩

theorem ofNat_of_lt_ten {n : Nat} (h : n < 10) : ofNat n = [n.digitChar] :=
  Nat.toDigits_of_lt_base h

theorem ofNat_of_ten_le {n : Nat} (h : 10 ≤ n) : ofNat n = ofNat (n / 10) ++ ofNat (n % 10) := by
  rw [ofNat, Nat.toDigits_of_base_le (by decide) h, ofNat_of_lt_ten (Nat.mod_lt n (by decide))]
  rfl

/-- No numeral but that of zero begins with a zero. -/
theorem head?_ofNat {n : Nat} (h : (ofNat n).head? = some '0') : n = 0 := by
  induction n using Nat.strongRecOn with
  | ind n ih =>
    by_cases hn : n < 10
    · rw [ofNat_of_lt_ten hn] at h
      have all : ∀ n ∈ List.range 10, [n.digitChar].head? = some '0' → n = 0 := by decide
      exact all n (List.mem_range.mpr hn) h
    · have hten : 10 ≤ n := Nat.le_of_not_lt hn
      rw [ofNat_of_ten_le hten, List.head?_append_of_ne_nil _ (ofNat_ne_nil _)] at h
      have hzero := ih (n / 10) (by omega) h
      omega

theorem le_ofDigitChars (digits : Text) (n : Nat) : n ≤ Nat.ofDigitChars 10 digits n := by
  induction digits generalizing n with
  | nil => exact Nat.le_refl n
  | cons c rest ih =>
    rw [Nat.ofDigitChars_cons]
    have h := ih (10 * n + (c.toNat - '0'.toNat))
    omega

theorem readNat?_ofNat (n : Nat) : readNat? (ofNat n) = some n := by
  have hdigits : (ofNat n).all Char.isDigit = true :=
    List.all_eq_true.mpr fun c hc => isDigit_of_mem_ofNat hc
  have hempty : (ofNat n).isEmpty = false := by
    rw [List.isEmpty_eq_false_iff]
    exact ofNat_ne_nil n
  have hvalue : digitsValue (ofNat n) = n := Nat.ofDigitChars_ten_toDigits
  rw [readNat?, hempty, hdigits, hvalue]
  rfl

theorem ofNat_inj {m n : Nat} (h : ofNat m = ofNat n) : m = n := by
  have hread := readNat?_ofNat m
  rw [h, readNat?_ofNat] at hread
  exact (Option.some.inj hread).symm

theorem readInt?_ofInt (n : Int) : readInt? (ofInt n) = some n := by
  cases n with
  | ofNat k =>
    obtain ⟨c, rest, hcons, hdigit⟩ := ofNat_eq_cons k
    have hminus : c ≠ '-' := by
      intro hc
      rw [hc] at hdigit
      exact absurd hdigit (by decide)
    have hplus : c ≠ '+' := by
      intro hc
      rw [hc] at hdigit
      exact absurd hdigit (by decide)
    rw [ofInt, hcons, readInt?, if_neg hminus, if_neg hplus, ← hcons, readNat?_ofNat]
    rfl
  | negSucc k =>
    rw [ofInt, readInt?, if_pos rfl, readNat?_ofNat]
    rfl

theorem fitsInt32_iff {k : Int} :
    fitsInt32 k = true ↔ -2147483648 ≤ k ∧ k ≤ 2147483647 := by
  rw [fitsInt32, Bool.and_eq_true, decide_eq_true_eq, decide_eq_true_eq]

theorem fitsInt32_toInt (v : Int32) : fitsInt32 v.toInt = true := by
  have hleast : -2147483648 ≤ v.toInt := v.le_toInt
  have hmost : v.toInt < 2147483648 := v.toInt_lt
  rw [fitsInt32_iff]
  omega

theorem readInt32?_ofInt (n : Int32) : readInt32? (ofInt n.toInt) = some n := by
  rw [readInt32?, readInt?_ofInt, Option.bind_some, if_pos (fitsInt32_toInt n), Int32.ofInt_toInt]

theorem sign_or_digit_of_mem_ofInt {n : Int} {c : Char} (h : c ∈ ofInt n) :
    c = '-' ∨ c.isDigit = true := by
  cases n with
  | ofNat k => exact .inr (isDigit_of_mem_ofNat (n := k) h)
  | negSucc k =>
    rcases List.mem_cons.mp h with hc | hmem
    · exact .inl hc
    · exact .inr (isDigit_of_mem_ofNat hmem)

theorem ofInt_ne_nil (n : Int) : ofInt n ≠ [] := by
  cases n with
  | ofNat k => exact ofNat_ne_nil k
  | negSucc k => exact List.cons_ne_nil _ _

theorem of_sign_or_digit {c : Char} (h : c = '-' ∨ c.isDigit = true) :
    isBlank c = false ∧ isQuote c = false ∧ c ≠ '#' ∧ c.toLower = c := by
  rcases h with rfl | hdigit
  · decide
  · have hall : ∀ n ∈ List.range 10, isBlank (Char.ofNat (48 + n)) = false ∧
        isQuote (Char.ofNat (48 + n)) = false ∧ Char.ofNat (48 + n) ≠ '#' ∧
        (Char.ofNat (48 + n)).toLower = Char.ofNat (48 + n) := by decide
    have hrange : 48 ≤ c.toNat ∧ c.toNat ≤ 57 := by
      simp only [Char.isDigit, Bool.and_eq_true, decide_eq_true_eq, ge_iff_le,
        UInt32.le_iff_toNat_le] at hdigit
      exact hdigit
    have hc : Char.ofNat (48 + (c.toNat - 48)) = c := by
      rw [show 48 + (c.toNat - 48) = c.toNat by omega, Char.ofNat_toNat]
    have hdigits := hall (c.toNat - 48) (List.mem_range.mpr (by omega))
    rw [hc] at hdigits
    exact hdigits

theorem fold_ofInt (n : Int) : fold (ofInt n) = ofInt n := by
  have hstripped : Stripped isBlank (ofInt n) :=
    stripped_of_forall fun c hc => (of_sign_or_digit (sign_or_digit_of_mem_ofInt hc)).1
  have hlower : (ofInt n).map Char.toLower = (ofInt n).map id :=
    List.map_congr_left fun c hc => (of_sign_or_digit (sign_or_digit_of_mem_ofInt hc)).2.2.2
  rw [fold, trim, strip_eq_self hstripped, lower, hlower, List.map_id]

end Text
end LedPattern
