import LedPattern.Text.Basic
import Mathlib.Data.List.DropRight
/-!
Stripping a text of a class of characters at both ends. A text keeps itself exactly when neither end
belongs to the class, so stripping twice is stripping once, and characters of the class that are
added at either end change nothing.
-/
namespace LedPattern
namespace Text

/-- What is said of the characters of a text is decided on these alone, ahead of any instance that
goes through all characters there are. -/
instance (priority := high) decidableForallMem (P : Char → Prop) [DecidablePred P] (t : Text) :
    Decidable (∀ c ∈ t, P c) :=
  List.decidableBAll P t

theorem dropEndWhile_eq_rdropWhile (p : Char → Bool) (t : Text) :
    dropEndWhile p t = t.rdropWhile p := rfl

/-- Neither the first nor the last character of a text belongs to the class. -/
structure Stripped (p : Char → Bool) (t : Text) : Prop where
  first : ∀ c ∈ t.head?, p c = false
  last : ∀ c ∈ t.getLast?, p c = false

theorem stripped_of_forall {p : Char → Bool} {t : Text} (h : ∀ c ∈ t, p c = false) :
    Stripped p t where
  first := fun c hc => h c (List.mem_of_head? hc)
  last := fun c hc => h c (List.mem_of_getLast? hc)

/-- A text that begins and ends with given characters, neither of them in the class. -/
theorem stripped_between {p : Char → Bool} {first last : Char} (hfirst : p first = false)
    (hlast : p last = false) (t : Text) : Stripped p (first :: (t ++ [last])) where
  first := by
    intro c hc
    obtain rfl : first = c := by simpa using hc
    exact hfirst
  last := by
    intro c hc
    obtain rfl : last = c := by simpa [List.getLast?_cons, List.getLast?_append] using hc
    exact hlast

/-- What stands between two stripped texts does not matter. -/
theorem Stripped.append {p : Char → Bool} {a b : Text} (ha : Stripped p a) (hane : a ≠ [])
    (hb : Stripped p b) (hbne : b ≠ []) (middle : Text) : Stripped p (a ++ (middle ++ b)) where
  first := by
    intro c hc
    rw [List.head?_append_of_ne_nil _ hane] at hc
    exact ha.first c hc
  last := by
    intro c hc
    rw [← List.append_assoc, List.getLast?_append_of_ne_nil _ hbne] at hc
    exact hb.last c hc

theorem dropWhile_eq_self_of_head {p : Char → Bool} {t : Text}
    (h : ∀ c ∈ t.head?, p c = false) : t.dropWhile p = t := by
  cases t with
  | nil => rfl
  | cons c rest =>
    have hc : p c = false := h c rfl
    rw [List.dropWhile_cons, hc]
    simp

theorem rdropWhile_eq_self_of_getLast {p : Char → Bool} {t : Text}
    (h : ∀ c ∈ t.getLast?, p c = false) : t.rdropWhile p = t := by
  rw [List.rdropWhile_eq_self_iff]
  intro hne
  rw [h (t.getLast hne) (List.getLast?_eq_getLast_of_ne_nil hne)]
  decide

theorem strip_eq_self {p : Char → Bool} {t : Text} (h : Stripped p t) : strip p t = t := by
  rw [strip, dropWhile_eq_self_of_head h.first, dropEndWhile_eq_rdropWhile,
    rdropWhile_eq_self_of_getLast h.last]

theorem first_dropWhile (p : Char → Bool) (t : Text) :
    ∀ c ∈ (t.dropWhile p).head?, p c = false := by
  intro c hc
  have h := List.head?_dropWhile_not p t
  rw [Option.mem_def.mp hc] at h
  exact h

/-- What is left of a text is stripped: a character at its front was at the front before the end was
looked at. -/
theorem stripped_strip (p : Char → Bool) (t : Text) : Stripped p (strip p t) := by
  rw [strip, dropEndWhile_eq_rdropWhile]
  constructor
  · intro c hc
    apply first_dropWhile p t c
    obtain ⟨rest, hrest⟩ := List.rdropWhile_prefix p (t.dropWhile p)
    rw [← hrest]
    simp only [Option.mem_def] at hc ⊢
    rw [List.head?_append, hc, Option.some_or]
  · intro c hc
    have hne : (t.dropWhile p).rdropWhile p ≠ [] := by
      rintro hnil
      rw [hnil] at hc
      simp at hc
    have hlast := List.rdropWhile_last_not p (t.dropWhile p) hne
    rw [List.getLast?_eq_getLast_of_ne_nil hne, Option.mem_some_iff] at hc
    rw [hc] at hlast
    simpa using hlast

theorem strip_strip (p : Char → Bool) (t : Text) : strip p (strip p t) = strip p t :=
  strip_eq_self (stripped_strip p t)

theorem trim_trim (t : Text) : trim (trim t) = trim t := strip_strip isBlank t

theorem fold_trim (t : Text) : fold (trim t) = fold t := by rw [fold, trim_trim, fold]

theorem rdropWhile_append_of_all {p : Char → Bool} {a b : Text} (h : ∀ c ∈ b, p c = true) :
    (a ++ b).rdropWhile p = a.rdropWhile p := by
  induction b using List.reverseRecOn with
  | nil => rw [List.append_nil]
  | append_singleton b c ih =>
    rw [← List.append_assoc, List.rdropWhile_concat_pos _ _ _ (h c (by simp))]
    exact ih fun d hd => h d (by simp [hd])

/-- Characters of the class after a text are taken away again. -/
theorem strip_append_right {p : Char → Bool} {b : Text} (hb : ∀ c ∈ b, p c = true) (a : Text) :
    strip p (a ++ b) = strip p a := by
  by_cases ha : ∀ c ∈ a, p c = true
  · have hempty : b.dropWhile p = [] := List.dropWhile_eq_nil_iff.mpr hb
    have hempty' : a.dropWhile p = [] := List.dropWhile_eq_nil_iff.mpr ha
    rw [strip, strip, List.dropWhile_append_of_pos ha, hempty, hempty']
  · have hkept : (a ++ b).dropWhile p = a.dropWhile p ++ b := by
      rw [List.dropWhile_append, if_neg]
      rw [List.isEmpty_iff, List.dropWhile_eq_nil_iff]
      exact ha
    rw [strip, strip, hkept, dropEndWhile_eq_rdropWhile, dropEndWhile_eq_rdropWhile,
      rdropWhile_append_of_all hb]

theorem strip_append {p : Char → Bool} {a b : Text} (ha : Stripped p a)
    (hb : ∀ c ∈ b, p c = true) : strip p (a ++ b) = a := by
  rw [strip_append_right hb, strip_eq_self ha]

/-- So are characters of the class before any text. -/
theorem strip_append_left {p : Char → Bool} {a : Text} (ha : ∀ c ∈ a, p c = true) (t : Text) :
    strip p (a ++ t) = strip p t := by
  rw [strip, strip, List.dropWhile_append_of_pos ha]

theorem dropWhile_append_cons {p : Char → Bool} {c : Char} (hc : p c = false) (a b : Text) :
    (a ++ c :: b).dropWhile p = a.dropWhile p ++ c :: b := by
  have hstop : (c :: b).dropWhile p = c :: b := by
    rw [List.dropWhile_cons, if_neg (by rw [hc]; decide)]
  rw [List.dropWhile_append, hstop]
  split_ifs with hempty
  · rw [List.isEmpty_iff.mp hempty, List.nil_append]
  · rfl

/-- A character outside the class stays, and parts what is stripped from the left and from the right. -/
theorem strip_append_cons {p : Char → Bool} {c : Char} (hc : p c = false) (a b : Text) :
    strip p (a ++ c :: b) = a.dropWhile p ++ c :: dropEndWhile p b := by
  rw [strip, dropWhile_append_cons hc, dropEndWhile, List.reverse_append, List.reverse_cons,
    List.append_assoc, List.singleton_append, dropWhile_append_cons hc, List.reverse_append,
    List.reverse_cons, List.reverse_reverse, List.append_assoc, List.singleton_append]
  rfl

theorem head?_trim_cons {c : Char} (h : isBlank c = false) (rest : Text) :
    (trim (c :: rest)).head? = some c := by
  have hfirst : (c :: rest).dropWhile isBlank = c :: rest := by
    apply dropWhile_eq_self_of_head
    intro d hd
    obtain rfl : c = d := by simpa using hd
    exact h
  rw [trim, strip, hfirst, dropEndWhile_eq_rdropWhile]
  obtain ⟨after, hafter⟩ := List.rdropWhile_prefix isBlank (c :: rest)
  cases hleft : (c :: rest).rdropWhile isBlank with
  | nil =>
    have hall := List.rdropWhile_eq_nil_iff.mp hleft c List.mem_cons_self
    rw [h] at hall
    exact absurd hall (by decide)
  | cons d left =>
    rw [hleft, List.cons_append] at hafter
    rw [List.head?_cons, (List.cons.inj hafter).1]

theorem exists_eq_append_strip (p : Char → Bool) (t : Text) :
    ∃ before after, t = before ++ (strip p t ++ after) ∧ (∀ c ∈ before, p c = true) ∧
      ∀ c ∈ after, p c = true := by
  have hend (u : Text) : u = dropEndWhile p u ++ (u.reverse.takeWhile p).reverse := by
    rw [dropEndWhile, ← List.reverse_append, List.takeWhile_append_dropWhile, List.reverse_reverse]
  refine ⟨t.takeWhile p, ((t.dropWhile p).reverse.takeWhile p).reverse, ?_, ?_, ?_⟩
  · rw [strip, ← hend, List.takeWhile_append_dropWhile]
  · intro c hc
    exact List.mem_takeWhile_imp hc
  · intro c hc
    exact List.mem_takeWhile_imp (List.mem_reverse.mp hc)

/-- The text is its body between blanks, and the body neither begins nor ends with one. -/
structure Trims (t body : Text) : Prop where
  between : ∃ before after, t = before ++ (body ++ after) ∧ (∀ c ∈ before, isBlank c = true) ∧
    ∀ c ∈ after, isBlank c = true
  stripped : Stripped isBlank body

theorem trims_iff {t body : Text} : Trims t body ↔ trim t = body := by
  constructor
  · rintro ⟨⟨before, after, rfl, hbefore, hafter⟩, hbody⟩
    rw [trim, strip_append_left hbefore, strip_append hbody hafter]
  · intro h
    subst h
    exact ⟨exists_eq_append_strip isBlank t, stripped_strip isBlank t⟩

theorem trim_eq_nil_iff {t : Text} : trim t = [] ↔ ∀ c ∈ t, isBlank c = true := by
  constructor
  · intro h
    obtain ⟨⟨before, after, heq, hbefore, hafter⟩, -⟩ := trims_iff.mpr h
    intro c hc
    rw [heq, List.nil_append] at hc
    rcases List.mem_append.mp hc with hmem | hmem
    · exact hbefore c hmem
    · exact hafter c hmem
  · intro h
    have hstrip := strip_append_left h []
    rw [List.append_nil] at hstrip
    exact hstrip

theorem mem_of_mem_strip {p : Char → Bool} {t : Text} {c : Char} (h : c ∈ strip p t) : c ∈ t := by
  obtain ⟨before, after, heq, -, -⟩ := exists_eq_append_strip p t
  rw [heq]
  exact List.mem_append_right before (List.mem_append_left after h)

end Text
end LedPattern
