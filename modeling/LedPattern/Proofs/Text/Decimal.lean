import LedPattern.Proofs.Text.Numeral
import Mathlib.Data.List.Forall2
import Mathlib.Data.Nat.Digits.Defs
import Mathlib.Tactic.Ring
/-!
Which texts are numerals. `Decimal` gives the number that a row of digits denotes, with as many
zeros before it as one likes, and `Signed` the integer after at most one sign. The readers read
exactly these texts, and into 32 bits exactly those whose integer fits.
-/
namespace LedPattern
namespace Text

def Digit (c : Char) (n : Nat) : Prop := "0123456789".toList[n]? = some c

/-- One or more digits, and the number that they denote in base ten. -/
def Decimal (digits : Text) (n : Nat) : Prop :=
  ∃ values : List Nat, values ≠ [] ∧ List.Forall₂ Digit digits values ∧
    n = Nat.ofDigits 10 values.reverse

/-- A numeral after at most one sign. -/
inductive Signed : Text → Int → Prop
  | bare {digits : Text} {n : Nat} (h : Decimal digits n) : Signed digits n
  | plus {digits : Text} {n : Nat} (h : Decimal digits n) : Signed ('+' :: digits) n
  | minus {digits : Text} {n : Nat} (h : Decimal digits n) : Signed ('-' :: digits) (-n)

/-- The sign before the digits of an integer: a minus below zero, and from zero on a plus or
none. -/
def SignOf (sign : Text) (k : Int) : Prop :=
  k < 0 ∧ sign = ['-'] ∨ 0 ≤ k ∧ (sign = [] ∨ sign = ['+'])

/-! ## Digits -/

theorem digit_iff {c : Char} {n : Nat} : Digit c n ↔ c.isDigit = true ∧ digitValue c = n := by
  -- The ten digits one by one; a character is a digit by its code point alone.
  have all : ∀ n ∈ List.range 10, "0123456789".toList[n]? = some (Char.ofNat (48 + n)) ∧
      (Char.ofNat (48 + n)).isDigit = true ∧ digitValue (Char.ofNat (48 + n)) = n := by decide
  constructor
  · intro h
    have hn : n < 10 := (List.getElem?_eq_some_iff.mp h).1
    obtain ⟨hget, hdigit⟩ := all n (List.mem_range.mpr hn)
    obtain rfl := Option.some.inj (hget.symm.trans h)
    exact hdigit
  · rintro ⟨hdigit, rfl⟩
    simp only [Char.isDigit, Bool.and_eq_true, decide_eq_true_eq, ge_iff_le,
      UInt32.le_iff_toNat_le] at hdigit
    have hrange : 48 ≤ c.toNat ∧ c.toNat ≤ 57 := hdigit
    have hvalue : digitValue c = c.toNat - 48 := rfl
    have hget := (all (digitValue c) (List.mem_range.mpr (by omega))).1
    rwa [show 48 + digitValue c = c.toNat by omega, Char.ofNat_toNat] at hget

theorem forall₂_digit_iff {digits : Text} {values : List Nat} :
    List.Forall₂ Digit digits values ↔
      (∀ c ∈ digits, c.isDigit = true) ∧ digits.map digitValue = values := by
  induction digits generalizing values with
  | nil => cases values <;> simp
  | cons c rest ih =>
    cases values with
    | nil => simp
    | cons v values =>
      rw [List.forall₂_cons, ih, digit_iff, List.forall_mem_cons, List.map_cons, List.cons.injEq]
      tauto

theorem foldl_digitValue (digits : Text) (n : Nat) :
    digits.foldl (fun n c => 10 * n + digitValue c) n =
      Nat.ofDigits 10 (digits.map digitValue).reverse + 10 ^ digits.length * n := by
  induction digits generalizing n with
  | nil => simp
  | cons c rest ih =>
    rw [List.foldl_cons, ih, List.map_cons, Nat.ofDigits_reverse_cons, List.length_map,
      List.length_cons]
    ring

theorem readNat?_eq_some_iff {t : Text} {n : Nat} : readNat? t = some n ↔ Decimal t n := by
  have hvalue : digitsValue t = Nat.ofDigits 10 (t.map digitValue).reverse := by
    rw [digitsValue, foldl_digitValue, Nat.mul_zero, Nat.add_zero]
  rw [readNat?]
  constructor
  · intro h
    split at h
    next hdigits =>
      simp only [Bool.and_eq_true, Bool.not_eq_true', List.isEmpty_eq_false_iff,
        List.all_eq_true] at hdigits
      obtain ⟨hne, hdigits⟩ := hdigits
      refine ⟨t.map digitValue, by simpa using hne, forall₂_digit_iff.mpr ⟨hdigits, rfl⟩, ?_⟩
      rw [← hvalue]
      exact (Option.some.inj h).symm
    next => cases h
  · rintro ⟨values, hne, hforall, rfl⟩
    obtain ⟨hdigits, rfl⟩ := forall₂_digit_iff.mp hforall
    have hpass : (!t.isEmpty && t.all Char.isDigit) = true := by
      simp only [Bool.and_eq_true, Bool.not_eq_true', List.isEmpty_eq_false_iff, List.all_eq_true]
      exact ⟨by simpa using hne, hdigits⟩
    rw [if_pos hpass, hvalue]

theorem Decimal.isDigit {digits : Text} {n : Nat} (h : Decimal digits n) :
    ∀ c ∈ digits, c.isDigit = true := by
  obtain ⟨values, -, hforall, -⟩ := h
  exact (forall₂_digit_iff.mp hforall).1

theorem Decimal.ne_nil {digits : Text} {n : Nat} (h : Decimal digits n) : digits ≠ [] := by
  obtain ⟨values, hne, hforall, -⟩ := h
  rintro rfl
  exact hne (List.forall₂_nil_left_iff.mp hforall)

theorem decimal_ofNat (n : Nat) : Decimal (ofNat n) n := readNat?_eq_some_iff.mp (readNat?_ofNat n)

/-- Zeros before a numeral do not change its number. -/
theorem Decimal.zeros {digits zeros : Text} {n : Nat} (h : Decimal digits n)
    (hzeros : ∀ c ∈ zeros, c = '0') : Decimal (zeros ++ digits) n := by
  induction zeros with
  | nil => exact h
  | cons c rest ih =>
    obtain ⟨hc, hrest⟩ := List.forall_mem_cons.mp hzeros
    obtain ⟨values, -, hforall, hn⟩ := ih hrest
    have hzero : Digit c 0 := hc ▸ digit_iff.mpr (by decide)
    refine ⟨0 :: values, List.cons_ne_nil _ _, .cons hzero hforall, ?_⟩
    rw [hn, Nat.ofDigits_reverse_zero_cons]

/-! ## Signs -/

theorem readInt?_minus (t : Text) :
    readInt? ('-' :: t) = (readNat? t).map fun n : Nat => -(n : Int) := by
  rw [readInt?, if_pos rfl]
  cases readNat? t <;> rfl

theorem readInt?_plus (t : Text) :
    readInt? ('+' :: t) = (readNat? t).map fun n : Nat => (n : Int) := by
  rw [readInt?, if_neg (by decide), if_pos rfl]
  cases readNat? t <;> rfl

theorem readInt?_unsigned {t : Text} (h : ∀ c ∈ t.head?, c ≠ '-' ∧ c ≠ '+') :
    readInt? t = (readNat? t).map fun n : Nat => (n : Int) := by
  cases t with
  | nil => rfl
  | cons c rest =>
    obtain ⟨hminus, hplus⟩ := h c rfl
    rw [readInt?, if_neg hminus, if_neg hplus]
    cases readNat? (c :: rest) <;> rfl

theorem Decimal.unsigned {digits : Text} {n : Nat} (h : Decimal digits n) :
    ∀ c ∈ digits.head?, c ≠ '-' ∧ c ≠ '+' := by
  intro c hc
  have hdigit := h.isDigit c (List.mem_of_head? hc)
  constructor
  · rintro rfl
    exact absurd hdigit (by decide)
  · rintro rfl
    exact absurd hdigit (by decide)

theorem readInt?_eq_some_iff {t : Text} {k : Int} : readInt? t = some k ↔ Signed t k := by
  constructor
  · intro h
    -- The reader looks at the first character before it looks at any digit.
    by_cases hminus : t.head? = some '-'
    · obtain ⟨rest, rfl⟩ := List.head?_eq_some_iff.mp hminus
      rw [readInt?_minus] at h
      obtain ⟨n, hn, rfl⟩ := Option.map_eq_some_iff.mp h
      exact .minus (readNat?_eq_some_iff.mp hn)
    by_cases hplus : t.head? = some '+'
    · obtain ⟨rest, rfl⟩ := List.head?_eq_some_iff.mp hplus
      rw [readInt?_plus] at h
      obtain ⟨n, hn, rfl⟩ := Option.map_eq_some_iff.mp h
      exact .plus (readNat?_eq_some_iff.mp hn)
    have hunsigned : ∀ c ∈ t.head?, c ≠ '-' ∧ c ≠ '+' := by
      intro c hc
      exact ⟨fun h => hminus (h ▸ hc), fun h => hplus (h ▸ hc)⟩
    rw [readInt?_unsigned hunsigned] at h
    obtain ⟨n, hn, rfl⟩ := Option.map_eq_some_iff.mp h
    exact .bare (readNat?_eq_some_iff.mp hn)
  · intro h
    cases h with
    | bare h => rw [readInt?_unsigned h.unsigned, readNat?_eq_some_iff.mpr h, Option.map_some]
    | plus h => rw [readInt?_plus, readNat?_eq_some_iff.mpr h, Option.map_some]
    | minus h => rw [readInt?_minus, readNat?_eq_some_iff.mpr h, Option.map_some]

theorem Signed.exists_digit {t : Text} {k : Int} (h : Signed t k) :
    ∃ c ∈ t, c.isDigit = true := by
  have hhead {digits : Text} {n : Nat} (h : Decimal digits n) : ∃ c ∈ digits, c.isDigit = true := by
    obtain ⟨c, hc⟩ := List.exists_mem_of_ne_nil digits h.ne_nil
    exact ⟨c, hc, h.isDigit c hc⟩
  cases h with
  | bare h => exact hhead h
  | plus h =>
    obtain ⟨c, hc, hdigit⟩ := hhead h
    exact ⟨c, List.mem_cons_of_mem _ hc, hdigit⟩
  | minus h =>
    obtain ⟨c, hc, hdigit⟩ := hhead h
    exact ⟨c, List.mem_cons_of_mem _ hc, hdigit⟩

theorem Signed.sign_or_digit {t : Text} {k : Int} (h : Signed t k) :
    ∀ c ∈ t, c = '+' ∨ c = '-' ∨ c.isDigit = true := by
  have hdigits {digits : Text} {n : Nat} (h : Decimal digits n) :
      ∀ c ∈ digits, c = '+' ∨ c = '-' ∨ c.isDigit = true :=
    fun c hc => .inr (.inr (h.isDigit c hc))
  cases h with
  | bare h => exact hdigits h
  | plus h => exact List.forall_mem_cons.mpr ⟨.inl rfl, hdigits h⟩
  | minus h => exact List.forall_mem_cons.mpr ⟨.inr (.inl rfl), hdigits h⟩

theorem SignOf.signed {sign digits : Text} {k : Int} (h : SignOf sign k)
    (hdigits : Decimal digits k.natAbs) : Signed (sign ++ digits) k := by
  rcases h with ⟨hneg, rfl⟩ | ⟨hpos, rfl | rfl⟩
  · have hk : k = -(k.natAbs : Int) := by omega
    rw [hk]
    exact .minus hdigits
  · have hk : k = (k.natAbs : Int) := by omega
    rw [hk]
    exact .bare hdigits
  · have hk : k = (k.natAbs : Int) := by omega
    rw [hk]
    exact .plus hdigits

/-- Neither blanks nor capitals stand in a numeral. -/
theorem Signed.plain {t : Text} {k : Int} (h : Signed t k) :
    ∀ c ∈ t, isBlank c = false ∧ c.toLower = c := by
  intro c hc
  rcases h.sign_or_digit c hc with rfl | hc
  · decide
  · exact ⟨(of_sign_or_digit hc).1, (of_sign_or_digit hc).2.2.2⟩

theorem Signed.stripped {t : Text} {k : Int} (h : Signed t k) : Stripped isBlank t :=
  stripped_of_forall fun c hc => (h.plain c hc).1

theorem Signed.fold_eq {t s : Text} {k : Int} (h : Signed t k) (hs : Trims s t) : fold s = t := by
  have hlower : t.map Char.toLower = t.map id := List.map_congr_left fun c hc => (h.plain c hc).2
  rw [fold, trims_iff.mp hs, lower, hlower, List.map_id]

/-! ## Thirty-two bits -/

theorem toInt_ofInt_of_fits {k : Int} (h : fitsInt32 k = true) : (Int32.ofInt k).toInt = k := by
  obtain ⟨hleast, hmost⟩ := fitsInt32_iff.mp h
  exact Int32.toInt_ofInt_of_le hleast (by omega)

theorem readInt32?_eq_some_iff {t : Text} {v : Int32} :
    readInt32? t = some v ↔ Signed t v.toInt := by
  rw [readInt32?, Option.bind_eq_some_iff]
  constructor
  · rintro ⟨k, hk, h⟩
    split at h
    next hfits =>
      obtain rfl := Option.some.inj h
      rw [toInt_ofInt_of_fits hfits]
      exact readInt?_eq_some_iff.mp hk
    next => cases h
  · intro h
    refine ⟨v.toInt, readInt?_eq_some_iff.mpr h, ?_⟩
    rw [if_pos (fitsInt32_toInt v), Int32.ofInt_toInt]

theorem readInt32?_eq_none_iff {t : Text} :
    readInt32? t = none ↔ ∀ k, Signed t k → k < -2147483648 ∨ 2147483647 < k := by
  rw [readInt32?, Option.bind_eq_none_iff]
  simp only [readInt?_eq_some_iff, ite_eq_right_iff, reduceCtorEq, imp_false, fitsInt32_iff]
  refine forall_congr' fun k => imp_congr_right fun _ => ?_
  omega

end Text
end LedPattern
