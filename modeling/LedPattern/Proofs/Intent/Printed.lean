import LedPattern.Proofs.Intent.Line
import Mathlib.Data.List.Forall2
/-!
Lines that are printed and scanned again. A heading is its name and a colon, an entry an indented row
with its value between double quotes. Between the quotes nearly everything is left alone: a `#` there
is no comment, a colon comes after the first one, and blanks are kept from the trimming; only quotes
at the ends would be taken for more of the quotes around them.
-/
namespace LedPattern
namespace Intent
namespace Line

/-- A line written so that it is read back: entries are indented and their values quoted. -/
def text : Line → Text
  | heading name => name ++ ":".toList
  | entry key value => "  ".toList ++ key ++ ": \"".toList ++ value ++ "\"".toList

/-- A line that can be printed. The name and the key are trimmed and plain, and the key has no
colon; the value has no double quote and no single one at either end. -/
def Printable : Line → Prop
  | heading name => Text.trim name = name ∧ ∀ c ∈ name, Plain c ∧ c ≠ '\n'
  | entry key value =>
    (Text.trim key = key ∧ ∀ c ∈ key, Plain c ∧ c ≠ ':' ∧ c ≠ '\n') ∧
      (∀ c ∈ value, c ≠ '"' ∧ c ≠ '\n') ∧
      value.head? ≠ some '\'' ∧ value.getLast? ≠ some '\''

instance : DecidablePred Printable
  | heading _ => inferInstanceAs (Decidable (_ ∧ _))
  | entry _ _ => inferInstanceAs (Decidable ((_ ∧ _) ∧ _ ∧ _ ∧ _))

theorem stripped_of_trim {t : Text} (h : Text.trim t = t) : Text.Stripped Text.isBlank t :=
  h ▸ Text.stripped_strip Text.isBlank t

theorem classify_heading {name : Text} (htrim : Text.trim name = name)
    (hplain : ∀ c ∈ name, Plain c) : classify (name ++ [':']) = some (.heading name) := by
  have hline : Uncommented (name ++ [':']) :=
    uncommented_append hplain (uncommented_plain (by decide))
  have hstripped : Text.Stripped Text.isBlank (name ++ [':']) := by
    by_cases hempty : name = []
    · rw [hempty]
      exact Text.stripped_of_forall (by decide)
    · exact (stripped_of_trim htrim).append hempty (Text.stripped_of_forall (t := [':']) (by decide))
        (List.cons_ne_nil _ _) []
  have hindented : isIndented (name ++ [':']) = false := by
    cases hname : name ++ [':'] with
    | nil => rfl
    | cons c rest => exact hstripped.first c (hname ▸ rfl)
  have hkept : Text.trim (name ++ [':']) = name ++ [':'] := Text.strip_eq_self hstripped
  simp [classify, hline true, hkept, hindented, htrim]

theorem stripped_value {value : Text} (hvalue : ∀ c ∈ value, c ≠ '"' ∧ c ≠ '\n')
    (hfirst : value.head? ≠ some '\'') (hlast : value.getLast? ≠ some '\'') :
    Text.Stripped Text.isQuote value := by
  have hquote {c : Char} (hmem : c ∈ value) (hc : c ≠ '\'') : Text.isQuote c = false := by
    simp [Text.isQuote, hc, (hvalue c hmem).1]
  constructor
  · intro c hc
    exact hquote (List.mem_of_head? hc) fun heq => hfirst (heq ▸ hc)
  · intro c hc
    exact hquote (List.mem_of_getLast? hc) fun heq => hlast (heq ▸ hc)

theorem text_entry (key value : Text) :
    text (.entry key value) =
      "  ".toList ++ (key ++ (": ".toList ++ '"' :: (value ++ ['"']))) := by
  simp [text]

theorem classify_text {line : Line} (h : line.Printable) : classify line.text = some line := by
  cases line with
  | heading name => exact classify_heading h.1 fun c hc => (h.2 c hc).1
  | entry key value =>
    obtain ⟨⟨htrim, hkey⟩, hvalue, hfirst, hlast⟩ := h
    have hcomment : Uncommented ('"' :: (value ++ ['"'])) :=
      uncommented_quoted (fun hmem => (hvalue _ hmem).1 rfl) fun _ => rfl
    have hquoted : Text.Stripped Text.isBlank ('"' :: (value ++ ['"'])) :=
      Text.stripped_between (by decide) (by decide) value
    rw [text_entry, classify_row (stripped_of_trim htrim)
      (fun c hc => ⟨(hkey c hc).1, (hkey c hc).2.1⟩) hquoted (List.cons_ne_nil _ _) hcomment,
      Text.unquote_between (stripped_value hvalue hfirst hlast)]

theorem newline_notMem_text {line : Line} (h : line.Printable) : '\n' ∉ line.text := by
  cases line with
  | heading name =>
    intro hmem
    rcases List.mem_append.mp hmem with hname | hcolon
    · exact (h.2 _ hname).2 rfl
    · exact absurd hcolon (by decide)
  | entry key value =>
    obtain ⟨⟨-, hkey⟩, hvalue, -⟩ := h
    intro hmem
    simp only [text_entry, List.mem_append, List.mem_cons, List.not_mem_nil, or_false] at hmem
    rcases hmem with hindent | hname | hcolon | hquote | hmem | hquote
    · exact absurd hindent (by decide)
    · exact (hkey _ hname).2.2 rfl
    · exact absurd hcolon (by decide)
    · exact absurd hquote (by decide)
    · exact (hvalue _ hmem).2 rfl
    · exact absurd hquote (by decide)

/-- The lines with a line feed after each of them. -/
def printed (lines : List Line) : Text := lines.flatMap fun line => line.text ++ ['\n']

theorem scan_printed {lines : List Line} (h : ∀ line ∈ lines, line.Printable) :
    scan (printed lines) = lines := by
  have hrows : List.Forall₂ Stands (lines.map text) lines :=
    List.forall₂_map_left_iff.mpr (List.forall₂_same.mpr fun line hline =>
      ⟨newline_notMem_text (h line hline), classify_text (h line hline)⟩)
  have hprinted : printed lines = (lines.map text).flatMap fun r => r ++ ['\n'] := by
    rw [printed, List.flatMap_map]
  rw [hprinted, scan_rows hrows]

/-- The line feed after the last line makes no difference. -/
theorem scan_intercalate (rows : List Text) :
    scan (List.intercalate ['\n'] rows) = scan (rows.flatMap fun r => r ++ ['\n']) := by
  rw [scan_joined, scan_ended]

end Line
end Intent

/-- Scanning undoes printing, whether or not a line feed ends the last line. -/
theorem scan_undoes_printing (lines : List Intent.Line) (h : ∀ line ∈ lines, line.Printable) :
    Intent.Line.scan (Intent.Line.printed lines) = lines ∧
      Intent.Line.scan (List.intercalate ['\n'] (lines.map Intent.Line.text)) = lines := by
  have hscan := Intent.Line.scan_printed h
  refine ⟨hscan, ?_⟩
  rw [Intent.Line.scan_intercalate, List.flatMap_map]
  exact hscan

/-- Names and keys that are empty or have blanks inside, and values that look like comments, entries
and quoted texts. -/
def trickyLines : List Intent.Line :=
  [.heading [], .entry [] [], .heading "a: b:".toList, .entry "c\td".toList " # 'e': f\r".toList,
    .entry "g".toList "#".toList, .heading "timing".toList, .entry "h".toList " ' ".toList]

theorem scan_undoes_printing_tricky :
    (∀ line ∈ trickyLines, line.Printable) ∧
      Intent.Line.scan (Intent.Line.printed trickyLines) = trickyLines ∧
      Intent.Line.scan (List.intercalate ['\n'] (trickyLines.map Intent.Line.text)) =
        trickyLines := by
  have hprintable : ∀ line ∈ trickyLines, line.Printable := by decide
  exact ⟨hprintable, scan_undoes_printing trickyLines hprintable⟩

end LedPattern
