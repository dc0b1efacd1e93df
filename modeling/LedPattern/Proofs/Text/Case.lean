import LedPattern.Proofs.Text.Strip
/-!
Lower case. Only the letters A to Z change, so a test that tells none of them from its lower case
gives the same answer before and after, and stripping by such a test can be done before or after.
-/
namespace LedPattern
namespace Text

theorem toLower_eq_self_or_upper (c : Char) :
    c.toLower = c ∨ ∃ n ∈ List.range 26, c = Char.ofNat (65 + n) := by
  by_cases hupper : 65 ≤ c.toNat ∧ c.toNat ≤ 90
  · refine .inr ⟨c.toNat - 65, List.mem_range.mpr (by omega), ?_⟩
    rw [show 65 + (c.toNat - 65) = c.toNat by omega, Char.ofNat_toNat]
  · have hvalue : ¬(c.val ≥ 'A'.val ∧ c.val ≤ 'Z'.val) := by
      simp only [ge_iff_le, UInt32.le_iff_toNat_le]
      exact hupper
    exact .inl (dif_neg hvalue)

theorem apply_toLower {α : Type} {f : Char → α}
    (h : ∀ n ∈ List.range 26, f (Char.ofNat (65 + n)).toLower = f (Char.ofNat (65 + n)))
    (c : Char) : f c.toLower = f c := by
  rcases toLower_eq_self_or_upper c with hsame | ⟨n, hn, hc⟩
  · rw [hsame]
  · rw [hc]
    exact h n hn

theorem toLower_toLower (c : Char) : c.toLower.toLower = c.toLower := apply_toLower (by decide) c

/-- Upper case letters are no blanks, and neither are lower case ones. -/
theorem isBlank_toLower (c : Char) : isBlank c.toLower = isBlank c := apply_toLower (by decide) c

theorem isQuote_toLower (c : Char) : isQuote c.toLower = isQuote c := apply_toLower (by decide) c

theorem lower_lower (t : Text) : lower (lower t) = lower t := by
  simp only [lower, List.map_map]
  apply List.map_congr_left
  intro c _
  exact toLower_toLower c

theorem strip_lower {p : Char → Bool} (h : ∀ c, p c.toLower = p c) (t : Text) :
    strip p (lower t) = lower (strip p t) := by
  have hp : p ∘ Char.toLower = p := funext h
  rw [strip, strip, dropEndWhile, dropEndWhile, lower, lower, List.dropWhile_map, hp,
    ← List.map_reverse, List.dropWhile_map, hp, List.map_reverse]

theorem trim_lower (t : Text) : trim (lower t) = lower (trim t) := strip_lower isBlank_toLower t

theorem unquote_lower (t : Text) : unquote (lower t) = lower (unquote t) :=
  strip_lower isQuote_toLower t

theorem trim_fold (t : Text) : trim (fold t) = fold t := by rw [fold, trim_lower, trim_trim]

theorem fold_fold (t : Text) : fold (fold t) = fold t := by
  show lower (trim (fold t)) = fold t
  rw [trim_fold]
  exact lower_lower (trim t)

theorem fold_eq_nil_iff (t : Text) : fold t = [] ↔ trim t = [] := by
  rw [fold, lower, List.map_eq_nil_iff]

end Text
end LedPattern
