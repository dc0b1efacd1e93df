import LedPattern.Intent.Line
import LedPattern.Proofs.Text.Split
import LedPattern.Proofs.Text.Strip
/-!
Single lines of intent text. A comment is looked for from left to right, and all that the search
remembers of what it has passed is which quote is open and whether the last character was blank; so a
line can be taken apart anywhere. What a line means is decided by what is left of it after trimming
and by whether it was indented, which makes blanks at its end, a carriage return among them,
meaningless, and a text the sequence of what stands between its line feeds.
-/
namespace LedPattern
namespace Text

/-- Nothing but blanks. -/
def Blank (t : Text) : Prop := ∀ c ∈ t, isBlank c = true

instance : DecidablePred Blank := fun t => inferInstanceAs (Decidable (∀ c ∈ t, _))

/-- The quote that is open after a character. -/
def quoteAfter (quote : Option Char) (c : Char) : Option Char :=
  match quote with
  | some q => if c = q then none else some q
  | none => if isQuote c then some c else none

/-- The quote that a text leaves open, if it begins with the given one open. -/
def openQuote (quote : Option Char) (t : Text) : Option Char := t.foldl quoteAfter quote

/-- Whether the last character of a text is blank; the answer for no character is given. -/
def endsBlank (afterBlank : Bool) (t : Text) : Bool := (t.getLast?.map isBlank).getD afterBlank

theorem endsBlank_cons (afterBlank : Bool) (c : Char) (t : Text) :
    endsBlank afterBlank (c :: t) = endsBlank (isBlank c) t := by
  rw [endsBlank, endsBlank, List.getLast?_cons]
  cases t.getLast? <;> rfl

theorem openQuote_none {t : Text} (h : ∀ c ∈ t, isQuote c = false) : openQuote none t = none := by
  induction t with
  | nil => rfl
  | cons c rest ih =>
    have hc : quoteAfter none c = none := by simp [quoteAfter, h c List.mem_cons_self]
    show openQuote (quoteAfter none c) rest = none
    rw [hc]
    exact ih fun d hd => h d (List.mem_cons_of_mem c hd)

theorem openQuote_some {q : Char} {t : Text} (h : q ∉ t) : openQuote (some q) t = some q := by
  induction t with
  | nil => rfl
  | cons c rest ih =>
    have hne : c ≠ q := fun hc => h (hc ▸ List.mem_cons_self)
    have hc : quoteAfter (some q) c = some q := if_neg hne
    show openQuote (quoteAfter (some q) c) rest = some q
    rw [hc]
    exact ih fun hmem => h (List.mem_cons_of_mem c hmem)

/-- A text that neither begins nor ends with a quote is what stands between the quotes. -/
theorem unquote_between {t : Text} (h : Stripped isQuote t) : unquote ('"' :: (t ++ ['"'])) = t := by
  show strip isQuote (['"'] ++ (t ++ ['"'])) = t
  rw [strip_append_left (by decide), strip_append h (by decide)]

end Text

namespace Intent

/-! ## Comments -/

/-- A character that neither opens a quote nor a comment. -/
def Plain (c : Char) : Prop := Text.isQuote c = false ∧ c ≠ '#'

instance : DecidablePred Plain := fun _ => inferInstanceAs (Decidable (_ ∧ _))

theorem plain_of_isBlank {c : Char} (h : Text.isBlank c = true) : Plain c := by
  refine ⟨?_, ?_⟩
  · by_contra hquote
    simp only [Bool.not_eq_false, Text.isQuote, Bool.or_eq_true, beq_iff_eq] at hquote
    rcases hquote with rfl | rfl <;> exact absurd h (by decide)
  · intro hc
    rw [hc] at h
    exact absurd h (by decide)

theorem hash_notMem_of_blank {t : Text} (h : Text.Blank t) : '#' ∉ t :=
  fun hmem => (plain_of_isBlank (h _ hmem)).2 rfl

namespace Line

/-- One character: it begins a comment, or the rest is looked through in the state after it. -/
theorem dropComment_cons (quote : Option Char) (afterBlank : Bool) (c : Char) (rest : Text) :
    dropComment quote afterBlank (c :: rest) =
      if quote = none ∧ c = '#' ∧ afterBlank = true then []
      else c :: dropComment (Text.quoteAfter quote c) (Text.isBlank c) rest := by
  cases quote with
  | some q => simp [dropComment, Text.quoteAfter]
  | none =>
    by_cases hquote : Text.isQuote c = true
    · have hhash : c ≠ '#' := by
        rintro rfl
        exact absurd hquote (by decide)
      simp [dropComment, Text.quoteAfter, hquote, hhash]
    · simp [dropComment, Text.quoteAfter, hquote]

theorem dropComment_sublist (quote : Option Char) (afterBlank : Bool) (t : Text) :
    List.Sublist (dropComment quote afterBlank t) t := by
  induction t generalizing quote afterBlank with
  | nil => exact List.Sublist.refl []
  | cons c rest ih =>
    rw [dropComment_cons]
    split_ifs with hcomment
    · exact List.nil_sublist _
    · exact (ih _ _).cons_cons c

theorem dropComment_append {quote : Option Char} {afterBlank : Bool} {a : Text}
    (h : dropComment quote afterBlank a = a) (rest : Text) :
    dropComment quote afterBlank (a ++ rest) =
      a ++ dropComment (Text.openQuote quote a) (Text.endsBlank afterBlank a) rest := by
  induction a generalizing quote afterBlank with
  | nil => rfl
  | cons c a ih =>
    rw [dropComment_cons] at h
    rw [List.cons_append, dropComment_cons]
    split_ifs at h ⊢ with hcomment
    rw [ih (List.cons.inj h).2, Text.endsBlank_cons]
    rfl

/-- A comment takes everything with it that comes after. -/
theorem dropComment_append_of_ne {quote : Option Char} {afterBlank : Bool} {a : Text}
    (h : dropComment quote afterBlank a ≠ a) (rest : Text) :
    dropComment quote afterBlank (a ++ rest) = dropComment quote afterBlank a := by
  induction a generalizing quote afterBlank with
  | nil => exact absurd rfl h
  | cons c a ih =>
    rw [dropComment_cons] at h
    rw [List.cons_append, dropComment_cons, dropComment_cons]
    split_ifs at h ⊢ with hcomment
    · rfl
    · have hrest : dropComment (Text.quoteAfter quote c) (Text.isBlank c) a ≠ a :=
        fun heq => h (congrArg (c :: ·) heq)
      rw [ih hrest]

theorem dropComment_of_notMem {t : Text} (h : '#' ∉ t) (quote : Option Char) (afterBlank : Bool) :
    dropComment quote afterBlank t = t := by
  induction t generalizing quote afterBlank with
  | nil => rfl
  | cons c rest ih =>
    have hc : c ≠ '#' := fun hc => h (hc ▸ List.mem_cons_self)
    rw [dropComment_cons, if_neg fun hcomment => hc hcomment.2.1,
      ih fun hmem => h (List.mem_cons_of_mem c hmem)]

theorem dropComment_some {q : Char} {t : Text} (h : q ∉ t) (afterBlank : Bool) :
    dropComment (some q) afterBlank t = t := by
  induction t generalizing afterBlank with
  | nil => rfl
  | cons c rest ih =>
    have hne : c ≠ q := fun hc => h (hc ▸ List.mem_cons_self)
    have hc : Text.quoteAfter (some q) c = some q := if_neg hne
    rw [dropComment_cons, if_neg fun hcomment => Option.some_ne_none q hcomment.1, hc,
      ih fun hmem => h (List.mem_cons_of_mem c hmem)]

end Line

/-- A text that no comment cuts short, whatever stands before it. -/
def Uncommented (t : Text) : Prop := ∀ afterBlank, Line.dropComment none afterBlank t = t

theorem uncommented_plain {a : Text} (h : ∀ c ∈ a, Plain c) : Uncommented a :=
  Line.dropComment_of_notMem (fun hmem => (h _ hmem).2 rfl) none

theorem uncommented_append {a b : Text} (ha : ∀ c ∈ a, Plain c) (hb : Uncommented b) :
    Uncommented (a ++ b) := by
  intro afterBlank
  rw [Line.dropComment_append (uncommented_plain ha afterBlank),
    Text.openQuote_none fun c hc => (ha c hc).1, hb]

/-- Nothing between two quotes is a comment. -/
theorem uncommented_quoted {t : Text} (h : '"' ∉ t) {rest : Text} (hrest : Uncommented rest) :
    Uncommented ('"' :: (t ++ '"' :: rest)) := by
  intro afterBlank
  have hopen : Text.quoteAfter none '"' = some '"' := rfl
  have hclose : Text.quoteAfter (some '"') '"' = none := rfl
  rw [Line.dropComment_cons, if_neg fun hcomment => absurd hcomment.2.1 (by decide), hopen,
    Line.dropComment_append (Line.dropComment_some h _), Text.openQuote_some h,
    Line.dropComment_cons, if_neg fun hcomment => Option.some_ne_none _ hcomment.1, hclose, hrest]

/-! ## What a line means -/

namespace Line

/-- A line is judged by what is left of it after trimming, and by whether it was indented. -/
theorem classify_congr {l l' : Text}
    (htrim : Text.trim (dropComment none true l) = Text.trim (dropComment none true l'))
    (hindented : Text.trim (dropComment none true l) ≠ [] →
      isIndented (dropComment none true l) = isIndented (dropComment none true l')) :
    classify l = classify l' := by
  by_cases hempty : Text.trim (dropComment none true l) = []
  · have hempty' : Text.trim (dropComment none true l') = [] := htrim ▸ hempty
    simp only [classify, hempty, hempty', List.isEmpty_nil, if_true]
  · simp only [classify, htrim, hindented hempty]

/-- A line without a colon has no meaning. -/
theorem classify_of_notMem {l : Text} (h : ':' ∉ l) : classify l = none := by
  have hline : ':' ∉ Text.trim (dropComment none true l) := fun hmem =>
    h ((dropComment_sublist none true l).subset (Text.mem_of_mem_strip hmem))
  simp only [classify]
  split_ifs with hempty hheading
  · rfl
  · rw [Bool.and_eq_true, beq_iff_eq] at hheading
    exact absurd (List.mem_of_getLast? hheading.2) hline
  · rw [Text.splitFirst_of_notMem hline]
    rfl

theorem isIndented_append {t : Text} (h : Text.trim t ≠ []) (rest : Text) :
    isIndented (t ++ rest) = isIndented t := by
  cases t with
  | nil => exact absurd rfl h
  | cons c t => rfl

theorem classify_append_blank {blanks : Text} (h : Text.Blank blanks) (l : Text) :
    classify (l ++ blanks) = classify l := by
  by_cases hcut : dropComment none true l = l
  · have hline : dropComment none true (l ++ blanks) = dropComment none true l ++ blanks := by
      rw [dropComment_append hcut, dropComment_of_notMem (hash_notMem_of_blank h), hcut]
    have htrim : Text.trim (dropComment none true l ++ blanks) = _ := Text.strip_append_right h _
    symm
    apply classify_congr
    · rw [hline, htrim]
      rfl
    · intro hne
      rw [hline, isIndented_append hne]
  · simp only [classify, dropComment_append_of_ne hcut]

theorem classify_dropReturn (l : Text) : classify (Text.dropReturn l) = classify l := by
  rw [Text.dropReturn]
  split
  next hlast =>
    have hreturn : Text.Blank ['\r'] := by decide
    rw [← classify_append_blank hreturn, List.dropLast_append_getLast? _ hlast]
  next => rfl

theorem filterMap_classify_linesOfPieces (pieces : List Text) :
    (Text.linesOfPieces pieces).filterMap classify = pieces.filterMap classify := by
  induction pieces with
  | nil => rfl
  | cons piece rest ih =>
    cases rest with
    | nil =>
      cases piece with
      | nil => rfl
      | cons c piece => rfl
    | cons next rest =>
      rw [Text.linesOfPieces, List.filterMap_cons, List.filterMap_cons, classify_dropReturn, ih]
      intro h
      cases h

/-- The lines of a text are what stands between its line feeds, whatever the line ends are. -/
theorem scan_eq (text : Text) : scan text = (text.splitOn '\n').filterMap classify :=
  filterMap_classify_linesOfPieces _

theorem scan_append_newline (a b : Text) : scan (a ++ '\n' :: b) = scan a ++ scan b := by
  rw [scan_eq, scan_eq, scan_eq, List.splitOn_append_cons_self, List.filterMap_append]

theorem scan_line {l : Text} (h : '\n' ∉ l) : scan l = (classify l).toList := by
  rw [scan_eq, List.splitOn_eq_singleton h]
  cases hline : classify l <;> simp [hline]

theorem scan_joined (rows : List Text) :
    scan (List.intercalate ['\n'] rows) = rows.flatMap scan := by
  induction rows with
  | nil => rfl
  | cons r rest ih =>
    cases rest with
    | nil => rw [List.intercalate_singleton, List.flatMap_singleton]
    | cons next rest =>
      rw [List.flatMap_cons, List.intercalate_cons_cons, List.append_assoc, List.singleton_append,
        scan_append_newline, ih]

/-- A line feed after the last row adds an empty row, which means nothing. -/
theorem scan_ended (rows : List Text) :
    scan (rows.flatMap fun r => r ++ ['\n']) = rows.flatMap scan := by
  have hempty : scan [] = [] := rfl
  rw [Text.flatMap_eq_intercalate, scan_joined, List.flatMap_append, List.flatMap_singleton,
    hempty, List.append_nil]

theorem classify_entry {line key value : Text} (hcomment : Uncommented line)
    (htrim : Text.trim line = key ++ ':' :: value) (hkey : ':' ∉ key)
    (hentry : isIndented line = true ∨ (key ++ ':' :: value).getLast? ≠ some ':') :
    classify line = some (.entry (Text.trim key) (Text.unquote (Text.trim value))) := by
  have hempty : (key ++ ':' :: value).isEmpty = false := by
    rw [List.isEmpty_eq_false_iff]
    exact List.append_ne_nil_of_right_ne_nil _ (List.cons_ne_nil _ _)
  have hheading :
      (!isIndented line && (key ++ ':' :: value).getLast? == some ':') = false := by
    rcases hentry with hindented | hlast
    · rw [hindented, Bool.not_true, Bool.false_and]
    · rw [beq_false_of_ne hlast, Bool.and_false]
  simp only [classify, hcomment true, htrim, hempty, hheading, Bool.false_eq_true, if_false,
    Text.splitFirst_append hkey, Option.map_some]

/-- An indented row with a key and a value is the entry that it looks like. -/
theorem classify_row {key value : Text} (hkey : Text.Stripped Text.isBlank key)
    (hplain : ∀ c ∈ key, Plain c ∧ c ≠ ':') (hvalue : Text.Stripped Text.isBlank value)
    (hne : value ≠ []) (hcomment : Uncommented value) :
    classify ("  ".toList ++ (key ++ (": ".toList ++ value))) =
      some (.entry key (Text.unquote value)) := by
  have hline : Uncommented ("  ".toList ++ (key ++ (": ".toList ++ value))) := by
    apply uncommented_append (by decide)
    apply uncommented_append fun c hc => (hplain c hc).1
    exact uncommented_append (by decide) hcomment
  have hbody : Text.Stripped Text.isBlank (key ++ (": ".toList ++ value)) := by
    by_cases hempty : key = []
    · rw [hempty]
      exact Text.Stripped.append (Text.stripped_of_forall (t := [':']) (by decide))
        (List.cons_ne_nil _ _) hvalue hne [' ']
    · exact hkey.append hempty hvalue hne _
  have htrim : Text.trim ("  ".toList ++ (key ++ (": ".toList ++ value))) =
      key ++ ':' :: (' ' :: value) := by
    rw [Text.trim, Text.strip_append_left (by decide), Text.strip_eq_self hbody]
    rfl
  have hspace : Text.trim (' ' :: value) = value := by
    show Text.strip Text.isBlank ([' '] ++ value) = value
    rw [Text.strip_append_left (by decide), Text.strip_eq_self hvalue]
  have hkeytrim : Text.trim key = key := Text.strip_eq_self hkey
  rw [classify_entry hline htrim (fun hmem => (hplain _ hmem).2 rfl) (.inl rfl), hspace, hkeytrim]

end Line

/-- A row of text is read as a line. -/
def Stands (r : Text) (line : Line) : Prop := '\n' ∉ r ∧ Line.classify r = some line

theorem scan_rows {rows : List Text} {lines : List Line} (h : List.Forall₂ Stands rows lines) :
    Line.scan (rows.flatMap fun r => r ++ ['\n']) = lines := by
  rw [Line.scan_ended]
  induction h with
  | nil => rfl
  | @cons r line rows lines hrow hrows ih =>
    rw [List.flatMap_cons, Line.scan_line hrow.1, hrow.2, ih]
    rfl

end Intent

/-- Scanning is local to the lines. A text that is cut at a line feed is scanned part by part,
although the cut gives the line before it another end: its carriage return stays on it, and it is
no line at all if it is empty. A row means the same wherever it stands, so no quote and no comment
of the rows before reaches into it. -/
theorem scan_line_local (before after : Text) :
    Intent.Line.scan (before ++ '\n' :: after) =
        Intent.Line.scan before ++ Intent.Line.scan after ∧
      ∀ row, '\n' ∉ row →
        Intent.Line.scan (before ++ '\n' :: (row ++ '\n' :: after)) =
          Intent.Line.scan before ++
            ((Intent.Line.classify row).toList ++ Intent.Line.scan after) := by
  refine ⟨Intent.Line.scan_append_newline before after, ?_⟩
  intro row hrow
  rw [Intent.Line.scan_append_newline, Intent.Line.scan_append_newline,
    Intent.Line.scan_line hrow]

/-- A quote that is left open before a carriage return, a comment with a quote in it, and a line feed
at the very end. -/
theorem scan_line_local_ragged :
    '\n' ∉ "speed: 9 # it's".toList ∧
      Intent.Line.scan ("name: \"lamp # 1\r".toList ++
          '\n' :: ("speed: 9 # it's".toList ++ '\n' :: "timing:\n".toList)) =
        [.entry "name".toList "lamp # 1".toList, .entry "speed".toList "9".toList,
          .heading "timing".toList] := by
  have hrow : '\n' ∉ "speed: 9 # it's".toList := by decide
  refine ⟨hrow, ?_⟩
  exact ((scan_line_local "name: \"lamp # 1\r".toList "timing:\n".toList).2 _ hrow).trans
    (by decide +kernel)

end LedPattern
