import LedPattern.Proofs.Program.Listing
/-!
A listing in colour without its colours. `Terminal.unpaint` takes away the sequences by which a text sets
colours. What is left of a line is the line without colour and, after a colour, the cells of its swatch,
which are spaces at the end of the line.
-/
namespace LedPattern
namespace Terminal

/-- The text less the sequences of the terminal, each of which begins with an escape and `[` and ends
with the next `m`. The flag says whether the text begins inside of one. -/
def skipSequences : Bool → Text → Text
  | _, [] => []
  | true, c :: rest => skipSequences (c ≠ 'm') rest
  | false, c :: rest =>
    if c = escape ∧ rest.head? = some '[' ∧ 'm' ∈ rest then skipSequences true rest
    else c :: skipSequences false rest

def unpaint (t : Text) : Text := skipSequences false t

theorem unpaint_append {t : Text} (h : escape ∉ t) (rest : Text) :
    unpaint (t ++ rest) = t ++ unpaint rest := by
  induction t with
  | nil => rfl
  | cons c t ih =>
    have hc : c ≠ escape := fun hc => h (hc ▸ List.mem_cons_self)
    have ht := ih fun hmem => h (List.mem_cons_of_mem c hmem)
    rw [List.cons_append, unpaint, skipSequences, if_neg fun hseq => hc hseq.1]
    exact congrArg (c :: ·) ht

/-- The sequence is over at its first `m`. -/
theorem skipSequences_append {codes : Text} (h : 'm' ∉ codes) (rest : Text) :
    skipSequences true (codes ++ 'm' :: rest) = unpaint rest := by
  induction codes with
  | nil => rfl
  | cons c codes ih =>
    have hc : c ≠ 'm' := fun hc => h (hc ▸ List.mem_cons_self)
    rw [List.cons_append, skipSequences, decide_eq_true hc]
    exact ih fun hmem => h (List.mem_cons_of_mem c hmem)

theorem unpaint_sequence (codes : Text) (h : 'm' ∉ codes) (rest : Text) :
    unpaint (escape :: '[' :: (codes ++ 'm' :: rest)) = unpaint rest := by
  have hend : 'm' ∈ '[' :: (codes ++ 'm' :: rest) := by simp
  have hcodes : 'm' ∉ '[' :: codes := by
    rw [List.mem_cons, not_or]
    exact ⟨by decide, h⟩
  rw [unpaint, skipSequences, if_pos ⟨rfl, rfl, hend⟩]
  exact skipSequences_append hcodes rest

theorem unpaint_code (ink : Ink) (rest : Text) : unpaint (ink.code ++ rest) = unpaint rest := by
  cases ink with
  | blue => exact unpaint_sequence "34".toList (by decide) rest
  | green => exact unpaint_sequence "32".toList (by decide) rest
  | dim => exact unpaint_sequence "2".toList (by decide) rest

theorem unpaint_reset (rest : Text) : unpaint (reset ++ rest) = unpaint rest :=
  unpaint_sequence "0".toList (by decide) rest

theorem unpaint_paint (ink : Ink) {t : Text} (h : escape ∉ t) (rest : Text) :
    unpaint (paint true ink t ++ rest) = t ++ unpaint rest := by
  show unpaint (ink.code ++ t ++ reset ++ rest) = t ++ unpaint rest
  rw [List.append_assoc, List.append_assoc, unpaint_code, unpaint_append h, unpaint_reset]

/-- A swatch is two cells between sequences, whatever its colour. -/
theorem exists_swatch_append (c : Rgb) : ∃ codes : Text, 'm' ∉ codes ∧ ∀ rest,
    swatch true c ++ rest =
      escape :: '[' :: (codes ++ 'm' :: ("  ".toList ++ (reset ++ rest))) := by
  have hnumber (n : Nat) : 'm' ∉ Text.ofNat n :=
    fun hmem => absurd (Text.isDigit_of_mem_ofNat hmem) (by decide)
  refine ⟨"48;2;".toList ++ (Text.ofNat c.red.toNat ++ (";".toList ++
    (Text.ofNat c.green.toNat ++ (";".toList ++ Text.ofNat c.blue.toNat)))), ?_, fun rest => ?_⟩
  · simp only [List.mem_append, not_or]
    exact ⟨by decide, hnumber _, by decide, hnumber _, by decide, hnumber _⟩
  · rw [swatch, if_pos rfl]
    simp only [List.append_assoc]
    rfl

theorem unpaint_swatch (c : Rgb) (rest : Text) :
    unpaint (swatch true c ++ rest) = "  ".toList ++ unpaint rest := by
  obtain ⟨codes, hcodes, hswatch⟩ := exists_swatch_append c
  rw [hswatch, unpaint_sequence codes hcodes, unpaint_append (by decide), unpaint_reset]

end Terminal

namespace Text

/-- The text less the spaces at the end of every line. -/
def dropTrailing (t : Text) : Text :=
  List.intercalate ['\n'] ((t.splitOn '\n').map (dropEndWhile (· = ' ')))

theorem dropTrailing_flatMap {lines : List Text} (h : ∀ line ∈ lines, '\n' ∉ line) :
    dropTrailing (lines.flatMap fun line => line ++ ['\n']) =
      (lines.map (dropEndWhile (· = ' '))).flatMap fun line => line ++ ['\n'] := by
  rw [dropTrailing, splitOn_flatMap h, List.map_append, flatMap_eq_intercalate]
  rfl

end Text

namespace Program
namespace ListingLine

/-- What is left of the swatch of a colour. -/
def cells : ListingLine → Text
  | color _ _ => "   ".toList
  | _ => []

theorem escape_notMem {t : Text} (h : ∀ c ∈ t, Text.isPlain c = true) : Terminal.escape ∉ t :=
  fun hmem => absurd (h _ hmem) (by decide)

theorem unpaint_row {label value : Text} (hlabel : Label label) (hvalue : Text.Word value)
    (rest : Text) : Terminal.unpaint (row true label value rest) =
      row false label value (Terminal.unpaint rest) := by
  have hcolumn := escape_notMem fun _ => isPlain_of_mem_column hlabel
  show Terminal.unpaint (column label ++ (Terminal.Ink.green.code ++
    (value ++ (Terminal.reset ++ rest)))) = column label ++ (value ++ Terminal.unpaint rest)
  rw [Terminal.unpaint_append hcolumn, Terminal.unpaint_code,
    Terminal.unpaint_append (escape_notMem hvalue.phrase.plain), Terminal.unpaint_reset]

theorem row_append (colored : Bool) (label value rest after : Text) :
    row colored label value rest ++ after = row colored label value (rest ++ after) := by
  simp only [row, List.append_assoc]

/-- A line in colour keeps its text, and the cells of a swatch. -/
theorem unpaint_text {line : ListingLine} (h : Proper line) (rest : Text) :
    Terminal.unpaint (line.text true ++ rest) =
      line.text false ++ (line.cells ++ Terminal.unpaint rest) := by
  cases h with
  | heading h =>
    apply Terminal.unpaint_paint .blue
    apply escape_notMem
    simp only [List.forall_mem_append]
    exact ⟨⟨by decide, h⟩, by decide⟩
  | field hlabel hvalue =>
    rw [text, text, row_eq, row_eq, row_append, row_append, unpaint_row hlabel hvalue]
    rfl
  | remarked hlabel hvalue hremark =>
    have hspaced : ∀ c ∈ "  ; ".toList, Text.isPlain c = true := by decide
    have hplain := escape_notMem (Text.Phrase.append hspaced hremark).plain
    rw [text, text, row_eq, row_eq, row_append, row_append, unpaint_row hlabel hvalue,
      Terminal.unpaint_paint .dim hplain]
    rfl
  | color hlabel value =>
    rw [text, text, row_eq, row_eq, row_append, row_append, unpaint_row hlabel (word_text value),
      if_pos rfl, List.append_assoc, Terminal.unpaint_append (by decide), Terminal.unpaint_swatch]
    rfl
  | blank => rfl

theorem unpaint_lines {lines : List ListingLine} (h : ∀ line ∈ lines, Proper line) :
    Terminal.unpaint (lines.flatMap fun line => line.text true ++ ['\n']) =
      lines.flatMap fun line => line.text false ++ line.cells ++ ['\n'] := by
  induction lines with
  | nil => rfl
  | cons line rest ih =>
    rw [List.forall_mem_cons] at h
    rw [List.flatMap_cons, List.flatMap_cons, List.append_assoc, unpaint_text h.1,
      Terminal.unpaint_append (by decide), ih h.2]
    simp only [List.append_assoc]

/-- Without colour a line ends in a mark, unless it is blank. -/
theorem phrase_text {line : ListingLine} (h : Proper line) :
    line.text false = [] ∨ Text.Phrase (line.text false) := by
  have hrow {label value : Text} (hlabel : Label label) (hvalue : Text.Word value) :
      Text.Phrase (row false label value []) := by
    show Text.Phrase (column label ++ (value ++ []))
    rw [List.append_nil]
    exact .append (fun _ => isPlain_of_mem_column hlabel) hvalue.phrase
  cases h with
  | heading h =>
    have hbracket : Text.Word "]".toList := by decide
    exact .inr (.append (List.forall_mem_append.mpr ⟨by decide, h⟩) hbracket.phrase)
  | field hlabel hvalue =>
    rw [text, row_eq]
    exact .inr (hrow hlabel hvalue)
  | @remarked label value remark hlabel hvalue hremark =>
    rw [text, row_eq]
    right
    show Text.Phrase (column label ++ (value ++ ("  ; ".toList ++ remark)))
    exact .append (fun _ => isPlain_of_mem_column hlabel)
      (.append hvalue.phrase.plain (.append (by decide) hremark))
  | color hlabel value =>
    rw [text, row_eq]
    exact .inr (hrow hlabel (word_text value))
  | blank => exact .inl rfl

theorem last_text {line : ListingLine} (h : Proper line) :
    ∀ c ∈ (line.text false).getLast?, decide (c = ' ') = false := by
  intro c hc
  rcases phrase_text h with hblank | hphrase
  · rw [hblank] at hc
    cases hc
  · obtain ⟨d, hlast, hmark⟩ := hphrase.last
    obtain rfl : d = c := Option.some.inj (hlast.symm.trans hc)
    rw [decide_eq_false_iff_not]
    rintro rfl
    exact absurd hmark (by decide)

theorem eq_space_of_mem_cells {line : ListingLine} {c : Char} (h : c ∈ line.cells) : c = ' ' := by
  cases line with
  | color label value => exact List.eq_of_mem_replicate (n := 3) h
  | heading | field | blank => exact absurd h List.not_mem_nil

theorem dropEndWhile_cells {line : ListingLine} (h : Proper line) :
    Text.dropEndWhile (· = ' ') (line.text false ++ line.cells) = line.text false := by
  rw [Text.dropEndWhile_eq_rdropWhile,
    Text.rdropWhile_append_of_all fun c hc => decide_eq_true (eq_space_of_mem_cells hc),
    Text.rdropWhile_eq_self_of_getLast (last_text h)]

/-- The cells end their lines, so that they go with the spaces there. -/
theorem dropTrailing_lines {lines : List ListingLine} (h : ∀ line ∈ lines, Proper line) :
    Text.dropTrailing (lines.flatMap fun line => line.text false ++ line.cells ++ ['\n']) =
      lines.flatMap fun line => line.text false ++ ['\n'] := by
  have hlines : lines.flatMap (fun line => line.text false ++ line.cells ++ ['\n']) =
      (lines.map fun line => line.text false ++ line.cells).flatMap fun line => line ++ ['\n'] := by
    rw [List.flatMap_map]
  have hkept : (lines.map fun line => line.text false ++ line.cells).map
      (Text.dropEndWhile (· = ' ')) = lines.map (text false) := by
    rw [List.map_map]
    apply List.map_congr_left
    intro line hline
    exact dropEndWhile_cells (h line hline)
  rw [hlines, Text.dropTrailing_flatMap, hkept, List.flatMap_map]
  intro t ht hnewline
  obtain ⟨line, hline, rfl⟩ := List.mem_map.mp ht
  rcases List.mem_append.mp hnewline with hmem | hmem
  · exact newline_notMem false (h line hline) hmem
  · exact absurd (eq_space_of_mem_cells hmem) (by decide)

end ListingLine

open ListingLine

theorem escape_notMem_listing (p : Program) : Terminal.escape ∉ p.listing false := by
  intro hmem
  obtain ⟨line, hline, htext⟩ := List.mem_flatMap.mp hmem
  rcases List.mem_append.mp htext with htext | hnewline
  · have hdrawn := isDrawn_text false (proper_listingLines p line hline) Terminal.escape htext
    exact absurd hdrawn (by decide)
  · exact absurd hnewline (by decide)

end Program

theorem listing_unpainted (p : Program) :
    Text.dropTrailing (Terminal.unpaint (p.listing true)) = p.listing false ∧
      Terminal.escape ∉ p.listing false ∧
        ∀ line ∈ List.splitOn '\n' (p.listing false), line.getLast? ≠ some ' ' := by
  have hproper := Program.proper_listingLines p
  refine ⟨?_, Program.escape_notMem_listing p, ?_⟩
  · rw [Program.listing, Program.ListingLine.unpaint_lines hproper,
      Program.ListingLine.dropTrailing_lines hproper, Program.listing]
  · intro t ht hspace
    rw [Program.splitOn_listing, List.mem_append, List.mem_map] at ht
    rcases ht with ⟨line, hline, rfl⟩ | hend
    · exact absurd (Program.ListingLine.last_text (hproper line hline) ' ' hspace) (by decide)
    · rw [List.mem_singleton.mp hend] at hspace
      cases hspace

theorem listing_unpainted_cloaked :
    Terminal.escape ∈ (cloaked (.replicate 8 1)).listing true ∧
      Text.dropTrailing (Terminal.unpaint ((cloaked (.replicate 8 1)).listing true)) =
        (cloaked (.replicate 8 1)).listing false ∧
      "primary     #010203".toList ∈
        List.splitOn '\n' ((cloaked (.replicate 8 1)).listing false) ∧
      "primary     #010203".toList.getLast? ≠ some ' ' := by
  obtain ⟨hsame, -, hlast⟩ := listing_unpainted (cloaked (.replicate 8 1))
  have hline : "primary     #010203".toList ∈
      List.splitOn '\n' ((cloaked (.replicate 8 1)).listing false) := by
    rw [Program.splitOn_listing]
    decide
  exact ⟨List.mem_cons_self, hsame, hline, hlast _ hline⟩

end LedPattern
