import LedPattern.Proofs.Text.Hexadecimal
import LedPattern.Proofs.Text.Numeral
import LedPattern.Text.Quoted
/-!
Quoted text is inert: whatever is quoted, no character is left in it that a terminal obeys or that
could end the line.
-/
namespace LedPattern
namespace Text

/-- The control characters of Unicode, general category Cc. -/
def IsControl (c : Char) : Prop := c.toNat ≤ 0x1f ∨ 0x7f ≤ c.toNat ∧ c.toNat ≤ 0x9f

instance : DecidablePred IsControl := fun _ => inferInstanceAs (Decidable (_ ∨ _))

example : ∀ c ∈ "\n\r\t\x1b".toList, IsControl c := by decide

/-- No control character is in the text, and neither the line separator nor the paragraph
separator. -/
def Inert (t : Text) : Prop := ∀ c ∈ t, ¬IsControl c ∧ c ≠ '\u2028' ∧ c ≠ '\u2029'

instance (t : Text) : Decidable (Inert t) :=
  inferInstanceAs (Decidable (∀ c ∈ t, ¬IsControl c ∧ c ≠ '\u2028' ∧ c ≠ '\u2029'))

theorem Inert.append {a b : Text} (ha : Inert a) (hb : Inert b) : Inert (a ++ b) :=
  List.forall_mem_append.mpr ⟨ha, hb⟩

theorem Inert.cons {c : Char} {t : Text} (hc : Inert [c]) (ht : Inert t) : Inert (c :: t) :=
  hc.append ht

theorem inert_flatMap {α : Type} {f : α → Text} {l : List α} (h : ∀ a ∈ l, Inert (f a)) :
    Inert (l.flatMap f) := by
  intro c hc
  obtain ⟨a, ha, hmem⟩ := List.mem_flatMap.mp hc
  exact h a ha c hmem

/-- The printable characters of ASCII do no harm. -/
theorem inert_of_printable {t : Text} (h : ∀ c ∈ t, 0x20 ≤ c.toNat ∧ c.toNat ≤ 0x7e) : Inert t := by
  intro c hc
  obtain ⟨hlow, hhigh⟩ := h c hc
  refine ⟨?_, ?_, ?_⟩
  · rw [IsControl]
    omega
  · intro hline
    rw [hline] at hhigh
    exact absurd hhigh (by decide)
  · intro hparagraph
    rw [hparagraph] at hhigh
    exact absurd hhigh (by decide)

/-! ## Digits -/

theorem inert_of_isHexDigit {t : Text} (h : ∀ c ∈ t, isHexDigit c = true) : Inert t := by
  apply inert_of_printable
  intro c hc
  have hrange := isHexDigit_iff_toNat.mp (h c hc)
  omega

theorem inert_ofNat (n : Nat) : Inert (ofNat n) := by
  apply inert_of_printable
  intro c hc
  have hdigit := isDigit_of_mem_ofNat hc
  simp only [Char.isDigit, Bool.and_eq_true, decide_eq_true_eq, ge_iff_le,
    UInt32.le_iff_toNat_le] at hdigit
  have hrange : 48 ≤ c.toNat ∧ c.toNat ≤ 57 := hdigit
  omega

theorem inert_ofInt (n : Int) : Inert (ofInt n) := by
  cases n with
  | ofNat k => exact inert_ofNat k
  | negSucc k => exact .cons (by decide) (inert_ofNat (k + 1))

theorem isHexDigit_of_mem_hexNat {n : Nat} {c : Char} (h : c ∈ hexNat n) : isHexDigit c = true := by
  have hdigit : ∀ d ∈ List.range 16, isHexDigit d.digitChar = true := by decide
  induction n using Nat.strongRecOn with
  | ind n ih =>
    rw [hexNat] at h
    by_cases hn : n < 16
    · rw [Nat.toDigits_of_lt_base hn, List.mem_singleton] at h
      rw [h]
      exact hdigit n (List.mem_range.mpr hn)
    · rw [Nat.toDigits_of_base_le (by decide) (Nat.le_of_not_lt hn), List.mem_append,
        List.mem_singleton] at h
      rcases h with hfront | hlast
      · exact ih (n / 16) (by omega) hfront
      · rw [hlast]
        exact hdigit (n % 16) (List.mem_range.mpr (Nat.mod_lt n (by decide)))

/-! ## Quotes -/

theorem isHidden_of_isControl {c : Char} (h : IsControl c) : isHidden c = true := by
  rcases h with hlow | hhigh
  · have hascii : c.toNat < 0x7f := by omega
    rw [isHidden, if_pos hascii, decide_eq_true_eq]
    omega
  · have hunprintable : isUnprintable c = true := by
      refine List.any_eq_true.mpr ⟨(0x7f, 0xa0), .tail _ (.head _), ?_⟩
      simp only [Bool.and_eq_true, decide_eq_true_eq]
      omega
    have hascii : ¬c.toNat < 0x7f := by omega
    rw [isHidden, if_neg hascii, hunprintable, Bool.or_true]

theorem inert_of_not_isHidden {c : Char} (h : ¬isHidden c = true) : Inert [c] := by
  have hseparators : isHidden '\u2028' = true ∧ isHidden '\u2029' = true := by decide +kernel
  intro d hd
  obtain rfl := List.mem_singleton.mp hd
  refine ⟨fun hcontrol => h (isHidden_of_isControl hcontrol), ?_, ?_⟩
  · intro hline
    exact h (hline ▸ hseparators.1)
  · intro hparagraph
    exact h (hparagraph ▸ hseparators.2)

theorem inert_quoteChar (c : Char) : Inert (quoteChar c) := by
  rw [quoteChar]
  split_ifs with _ _ _ _ _ _ hhidden
  · decide
  · decide
  · decide
  · decide
  · decide
  · decide
  · have hdigits : Inert (hexNat c.toNat) := inert_of_isHexDigit fun _ => isHexDigit_of_mem_hexNat
    exact .append (.append (by decide) hdigits) (by decide)
  · exact inert_of_not_isHidden hhidden

theorem inert_quote (t : Text) : Inert (quote t) := by
  have hbody : Inert (t.flatMap quoteChar) := inert_flatMap fun c _ => inert_quoteChar c
  exact .cons (by decide) (.append hbody (by decide))

end Text
end LedPattern
