import LedPattern.Text.Basic
/-!
Text taken apart at a separator.
-/
namespace LedPattern
namespace Text

/-- A text of lines that all end in the separator, and the empty piece after the last. -/
theorem flatMap_eq_intercalate (separator : Char) (lines : List Text) :
    (lines.flatMap fun line => line ++ [separator]) =
      List.intercalate [separator] (lines ++ [[]]) := by
  induction lines with
  | nil => rfl
  | cons line rest ih =>
    obtain ⟨next, pieces, hrest⟩ := List.exists_cons_of_ne_nil (l := rest ++ [[]]) (by simp)
    rw [List.flatMap_cons, ih, List.cons_append, hrest, List.intercalate_cons_cons]

theorem splitOn_flatMap {separator : Char} {lines : List Text}
    (h : ∀ line ∈ lines, separator ∉ line) :
    List.splitOn separator (lines.flatMap fun line => line ++ [separator]) = lines ++ [[]] := by
  rw [flatMap_eq_intercalate]
  refine List.splitOn_intercalate separator ?_ (by simp)
  intro piece hpiece
  rcases List.mem_append.mp hpiece with hline | hlast
  · exact h piece hline
  · rw [List.mem_singleton.mp hlast]
    exact List.not_mem_nil

theorem splitFirst_append {separator : Char} {before : Text} (h : separator ∉ before)
    (after : Text) :
    splitFirst separator (before ++ separator :: after) = some (before, after) := by
  induction before with
  | nil => rw [List.nil_append, splitFirst, if_pos rfl]
  | cons c rest ih =>
    have hc : c ≠ separator := fun hc => h (hc ▸ List.mem_cons_self)
    have hrest : separator ∉ rest := fun hmem => h (List.mem_cons_of_mem c hmem)
    rw [List.cons_append, splitFirst, if_neg hc, ih hrest]
    rfl

theorem splitFirst_of_notMem {separator : Char} {t : Text} (h : separator ∉ t) :
    splitFirst separator t = none := by
  induction t with
  | nil => rfl
  | cons c rest ih =>
    have hc : c ≠ separator := fun hc => h (hc ▸ List.mem_cons_self)
    have hrest : separator ∉ rest := fun hmem => h (List.mem_cons_of_mem c hmem)
    rw [splitFirst, if_neg hc, ih hrest]
    rfl

end Text
end LedPattern
