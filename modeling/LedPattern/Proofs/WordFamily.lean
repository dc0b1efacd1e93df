import LedPattern.Proofs.Text.Decimal
import LedPattern.WordFamily
/-!
What a value means to a word family. After trimming and folding it is a word of the table, or else a
numeral of 32 bits, or else neither, and the three readings stand for these three cases. A table
names each word once, so the order of its rows does not matter, and no word has a digit, so no
numeral is taken for a word.
-/
namespace LedPattern

/-- In a table with one row to a key, looking up a key is finding its row. -/
theorem lookup_eq_some_iff_mem {α β : Type} [BEq α] [LawfulBEq α] {table : List (α × β)}
    (h : (table.map Prod.fst).Nodup) {a : α} {b : β} :
    table.lookup a = some b ↔ (a, b) ∈ table := by
  induction table with
  | nil => simp
  | cons row rest ih =>
    obtain ⟨key, value⟩ := row
    rw [List.map_cons, List.nodup_cons] at h
    rw [List.lookup_cons, List.mem_cons, Prod.mk.injEq]
    by_cases hkey : a = key
    · subst hkey
      have hrest : (a, b) ∉ rest := fun hmem => h.1 (List.mem_map.mpr ⟨(a, b), hmem, rfl⟩)
      rw [beq_self_eq_true, Option.some.injEq]
      constructor
      · intro hvalue
        exact .inl ⟨rfl, hvalue.symm⟩
      · intro hrow
        exact (hrow.resolve_right hrest).2.symm
    · rw [beq_false_of_ne hkey]
      constructor
      · intro hvalue
        exact .inr ((ih h.2).mp hvalue)
      · intro hrow
        exact (ih h.2).mpr (hrow.resolve_left fun hrow => hkey hrow.1)

theorem lookup_eq_none_iff_not_mem {α β : Type} [BEq α] [LawfulBEq α] {table : List (α × β)}
    {a : α} : table.lookup a = none ↔ ∀ b, (a, b) ∉ table := by
  rw [List.lookup_eq_none_iff]
  constructor
  · intro h b hmem
    exact bne_iff_ne.mp (h (a, b) hmem) rfl
  · intro h row hrow
    rw [bne_iff_ne]
    rintro rfl
    exact h row.2 hrow

theorem lookup_perm {α β : Type} [BEq α] [LawfulBEq α] {table table' : List (α × β)}
    (hperm : table'.Perm table) (h : (table.map Prod.fst).Nodup) (a : α) :
    table'.lookup a = table.lookup a := by
  have h' : (table'.map Prod.fst).Nodup := (hperm.map Prod.fst).nodup_iff.mpr h
  apply Option.ext
  intro b
  rw [lookup_eq_some_iff_mem h, lookup_eq_some_iff_mem h', hperm.mem_iff]

namespace WordFamily

theorem nodup_words {family : WordFamily} (h : family ∈ all) :
    (family.words.map Prod.fst).Nodup := by
  have hall : ∀ family ∈ all, (family.words.map Prod.fst).Nodup := by decide
  exact hall family h

theorem isDigit_eq_false_of_mem_words {family : WordFamily} (h : family ∈ all) {row : Text × Int32}
    (hrow : row ∈ family.words) : ∀ c ∈ row.1, c.isDigit = false := by
  have hall : ∀ family ∈ all, ∀ row ∈ family.words, ∀ c ∈ row.1, c.isDigit = false := by decide
  exact hall family h row hrow

section Resolve

variable {family : WordFamily} {s : Text}

theorem resolve_eq_word_iff (h : (family.words.map Prod.fst).Nodup) {v : Int32} :
    family.resolve s = .word v ↔ (Text.fold s, v) ∈ family.words := by
  rw [← lookup_eq_some_iff_mem h, resolve, word?]
  cases family.words.lookup (Text.fold s) with
  | some w => simp
  | none => cases Text.readInt32? (Text.fold s) <;> simp

theorem resolve_eq_number_iff {k : Int32} :
    family.resolve s = .number k ↔
      (∀ v, (Text.fold s, v) ∉ family.words) ∧ Text.Signed (Text.fold s) k.toInt := by
  rw [← lookup_eq_none_iff_not_mem, ← Text.readInt32?_eq_some_iff, resolve, word?]
  cases family.words.lookup (Text.fold s) with
  | some w => simp
  | none => cases Text.readInt32? (Text.fold s) <;> simp

theorem resolve_eq_fallback_iff {d : Int32} :
    family.resolve s = .fallback d ↔ d = family.default ∧
      (∀ v, (Text.fold s, v) ∉ family.words) ∧
      ∀ k, Text.Signed (Text.fold s) k → k < -2147483648 ∨ 2147483647 < k := by
  rw [← lookup_eq_none_iff_not_mem, ← Text.readInt32?_eq_none_iff, resolve, word?]
  cases family.words.lookup (Text.fold s) with
  | some w => simp
  | none => cases Text.readInt32? (Text.fold s) <;> simp [eq_comm]

/-- A numeral is no word, since it has a digit. -/
theorem not_mem_words_of_signed (hfamily : family ∈ all) {t : Text} {k : Int}
    (ht : Text.Signed t k) (v : Int32) : (t, v) ∉ family.words := by
  intro hrow
  obtain ⟨c, hc, hdigit⟩ := ht.exists_digit
  rw [isDigit_eq_false_of_mem_words hfamily hrow c hc] at hdigit
  cases hdigit

end Resolve

theorem resolve_perm {family : WordFamily} (h : (family.words.map Prod.fst).Nodup)
    {words : List (Text × Int32)} (hperm : words.Perm family.words) (s : Text) :
    ({ family with words := words } : WordFamily).resolve s = family.resolve s := by
  rw [resolve, resolve, word?, word?, lookup_perm hperm h]

theorem resolve_numeral {family : WordFamily} (hfamily : family ∈ all) {s t : Text} {k : Int32}
    (ht : Text.Signed t k.toInt) (hs : Text.Trims s t) : family.resolve s = .number k := by
  rw [resolve_eq_number_iff, ht.fold_eq hs]
  exact ⟨not_mem_words_of_signed hfamily ht, ht⟩

end WordFamily

/-- A value is read as a word, as a number or not at all according to what is left of it between
blanks and in lower case. In particular every integer of 32 bits is read from its digits, whatever
blanks, zeros and optional plus are written with them. -/
theorem words_resolve (family : WordFamily) (hfamily : family ∈ WordFamily.all) (s : Text) :
    (family.words.map Prod.fst).Nodup ∧
    (∀ words : List (Text × Int32), words.Perm family.words →
      ({ family with words := words } : WordFamily).resolve s = family.resolve s) ∧
    (∃ body n : Text, Text.Trims s body ∧ n = body.map Char.toLower ∧
      (∀ v, family.resolve s = .word v ↔ (n, v) ∈ family.words) ∧
      (∀ k : Int32, family.resolve s = .number k ↔
        (∀ v, (n, v) ∉ family.words) ∧ Text.Signed n k.toInt) ∧
      (∀ d, family.resolve s = .fallback d ↔ d = family.default ∧
        (∀ v, (n, v) ∉ family.words) ∧
        ∀ k, Text.Signed n k → k < -2147483648 ∨ 2147483647 < k)) ∧
    ∀ (k : Int32) (before sign zeros after : Text), (∀ c ∈ before, Text.isBlank c = true) →
      (∀ c ∈ after, Text.isBlank c = true) → (∀ c ∈ zeros, c = '0') → Text.SignOf sign k.toInt →
      s = before ++ (sign ++ (zeros ++ Text.ofNat k.toInt.natAbs) ++ after) →
      family.resolve s = .number k := by
  have hnodup := WordFamily.nodup_words hfamily
  refine ⟨hnodup, ?_, ?_, ?_⟩
  · intro words hperm
    exact WordFamily.resolve_perm hnodup hperm s
  · refine ⟨Text.trim s, Text.fold s, Text.trims_iff.mpr rfl, rfl, ?_, ?_, ?_⟩
    · exact fun v => WordFamily.resolve_eq_word_iff hnodup
    · exact fun k => WordFamily.resolve_eq_number_iff
    · exact fun d => WordFamily.resolve_eq_fallback_iff
  · intro k before sign zeros after hbefore hafter hzeros hsign hs
    have hsigned := hsign.signed ((Text.decimal_ofNat k.toInt.natAbs).zeros hzeros)
    exact WordFamily.resolve_numeral hfamily hsigned
      ⟨⟨before, after, hs, hbefore, hafter⟩, hsigned.stripped⟩

/-- A word in mixed case, a table from back to front, the greatest integer with a plus and zeros,
and the first integer too low to be read. -/
theorem words_resolve_speed :
    WordFamily.speed ∈ WordFamily.all ∧
    WordFamily.speed.resolve " FroZen\n".toList = .word 0 ∧
    ({ WordFamily.speed with words := WordFamily.speed.words.reverse } : WordFamily).resolve
      " FroZen\n".toList = WordFamily.speed.resolve " FroZen\n".toList ∧
    WordFamily.speed.resolve "\t+002147483647\u2003".toList = .number 2147483647 ∧
    WordFamily.speed.resolve "-2147483649".toList = .fallback 128 := by
  have hmem : WordFamily.speed ∈ WordFamily.all := .head _
  refine ⟨hmem, ?_, ?_, ?_, ?_⟩
  · obtain ⟨-, -, ⟨body, n, hbody, rfl, hword, -⟩, -⟩ :=
      words_resolve .speed hmem " FroZen\n".toList
    obtain rfl := Text.trims_iff.mp hbody
    exact (hword 0).mpr (by decide)
  · obtain ⟨-, hperm, -, -⟩ := words_resolve .speed hmem " FroZen\n".toList
    exact hperm _ (List.reverse_perm _)
  · obtain ⟨-, -, -, hnumeral⟩ := words_resolve .speed hmem "\t+002147483647\u2003".toList
    exact hnumeral 2147483647 ['\t'] ['+'] ['0', '0'] ['\u2003'] (by decide) (by decide) (by decide)
      (.inr ⟨by decide, .inr rfl⟩) (by decide)
  · obtain ⟨-, -, ⟨body, n, hbody, rfl, -, -, hfallback⟩, -⟩ :=
      words_resolve .speed hmem "-2147483649".toList
    obtain rfl := Text.trims_iff.mp hbody
    refine (hfallback 128).mpr ⟨rfl, ?_, Text.readInt32?_eq_none_iff.mp (by decide)⟩
    exact WordFamily.not_mem_words_of_signed hmem (Text.readInt?_eq_some_iff.mp rfl)

end LedPattern
