import LedPattern.Intent.Basic
import LedPattern.Proofs.Intent.Line
import LedPattern.Proofs.Text.Case
import Mathlib.Logic.Relation
/-!
The layout of intent text. Blank lines, comments, blanks at the end of a line, the kind of line end,
the width of an indentation and the case of headings and keys can be changed without a change of
meaning. Each change is made to one line, and what matters of a line is its `gist`: the line with its
name or key in lower case. Reading goes by the gists alone, so it is enough that a change leaves the
gist of its line as it is, or puts in a line that has none.
-/
namespace LedPattern

/-! ## Lower case on a line -/

namespace Text

theorem toLower_eq_sign_iff {d : Char} (hd : d ∈ ['"', '\'', '#', ':']) (c : Char) :
    c.toLower = d ↔ c = d := by
  have hsame : decide (c.toLower = d) = decide (c = d) := by
    simp only [List.mem_cons, List.not_mem_nil, or_false] at hd
    rcases hd with rfl | rfl | rfl | rfl <;>
      exact apply_toLower (f := fun c => decide (c = _)) (by decide) c
  simpa using hsame

theorem eq_quote_of_isQuote {c : Char} (h : isQuote c = true) : c = '"' ∨ c = '\'' := by
  simpa [isQuote] using h

/-- Only a quote can be open. -/
def QuoteOrNone (quote : Option Char) : Prop := ∀ q, quote = some q → isQuote q = true

theorem quoteOrNone_none : QuoteOrNone none := by
  intro q hq
  cases hq

theorem quoteOrNone_quoteAfter {quote : Option Char} (h : QuoteOrNone quote) (c : Char) :
    QuoteOrNone (quoteAfter quote c) := by
  intro q hq
  cases quote with
  | none =>
    rw [quoteAfter] at hq
    split_ifs at hq with hc
    exact Option.some.inj hq ▸ hc
  | some r =>
    rw [quoteAfter] at hq
    split_ifs at hq with hc
    exact h q hq

theorem quoteAfter_toLower {quote : Option Char} (h : QuoteOrNone quote) (c : Char) :
    quoteAfter quote c.toLower = quoteAfter quote c := by
  cases quote with
  | none =>
    rw [quoteAfter, quoteAfter, isQuote_toLower]
    by_cases hc : isQuote c = true
    · have hsame : c.toLower = c := by
        rcases eq_quote_of_isQuote hc with rfl | rfl <;> decide
      rw [hsame]
    · rw [if_neg hc, if_neg hc]
  | some q =>
    have hq : q ∈ ['"', '\'', '#', ':'] := by
      rcases eq_quote_of_isQuote (h q rfl) with rfl | rfl <;> decide
    rw [quoteAfter, quoteAfter]
    exact if_congr (toLower_eq_sign_iff hq c) rfl rfl

theorem openQuote_lower {quote : Option Char} (h : QuoteOrNone quote) (t : Text) :
    openQuote quote (lower t) = openQuote quote t := by
  induction t generalizing quote with
  | nil => rfl
  | cons c rest ih =>
    show openQuote (quoteAfter quote c.toLower) (lower rest) = openQuote (quoteAfter quote c) rest
    rw [quoteAfter_toLower h, ih (quoteOrNone_quoteAfter h c)]

theorem splitFirst_lower (t : Text) :
    splitFirst ':' (lower t) = (splitFirst ':' t).map fun (a, b) => (lower a, lower b) := by
  induction t with
  | nil => rfl
  | cons c rest ih =>
    show splitFirst ':' (c.toLower :: lower rest) = _
    rw [splitFirst, splitFirst, ih]
    by_cases hc : c = ':'
    · rw [if_pos hc, if_pos ((toLower_eq_sign_iff (by decide) c).mpr hc)]
      rfl
    · rw [if_neg hc, if_neg fun h => hc ((toLower_eq_sign_iff (by decide) c).mp h)]
      cases splitFirst ':' rest <;> rfl

end Text

namespace Intent
namespace Line

theorem dropComment_lower {quote : Option Char} (h : Text.QuoteOrNone quote) (afterBlank : Bool)
    (t : Text) :
    dropComment quote afterBlank (Text.lower t) = Text.lower (dropComment quote afterBlank t) := by
  induction t generalizing quote afterBlank with
  | nil => rfl
  | cons c rest ih =>
    have hhash : c.toLower = '#' ↔ c = '#' := Text.toLower_eq_sign_iff (by decide) c
    show dropComment quote afterBlank (c.toLower :: Text.lower rest) = _
    rw [dropComment_cons, dropComment_cons, Text.quoteAfter_toLower h, Text.isBlank_toLower,
      ih (Text.quoteOrNone_quoteAfter h c)]
    by_cases hcomment : quote = none ∧ c = '#' ∧ afterBlank = true
    · rw [if_pos hcomment, if_pos ⟨hcomment.1, hhash.mpr hcomment.2.1, hcomment.2.2⟩]
      rfl
    · rw [if_neg hcomment, if_neg fun h => hcomment ⟨h.1, hhash.mp h.2.1, h.2.2⟩]
      rfl

theorem isIndented_lower (t : Text) : isIndented (Text.lower t) = isIndented t := by
  cases t with
  | nil => rfl
  | cons c rest => exact Text.isBlank_toLower c

def lowered : Line → Line
  | heading name => heading (Text.lower name)
  | entry key value => entry (Text.lower key) (Text.lower value)

theorem getLast?_lower_eq_colon_iff (t : Text) :
    (Text.lower t).getLast? = some ':' ↔ t.getLast? = some ':' := by
  rw [Text.lower, List.getLast?_map]
  cases t.getLast? with
  | none => rw [Option.map_none]
  | some c =>
    rw [Option.map_some, Option.some.injEq, Option.some.injEq]
    exact Text.toLower_eq_sign_iff (by decide) c

/-- A line in lower case is the same line in lower case. -/
theorem classify_lower (l : Text) : classify (Text.lower l) = (classify l).map lowered := by
  have hline : dropComment none true (Text.lower l) = Text.lower (dropComment none true l) :=
    dropComment_lower Text.quoteOrNone_none true l
  simp only [classify, hline, Text.trim_lower, isIndented_lower]
  generalize dropComment none true l = line
  have hempty : (Text.lower (Text.trim line)).isEmpty = (Text.trim line).isEmpty :=
    List.isEmpty_map
  have hcolon : ((Text.lower (Text.trim line)).getLast? == some ':') =
      ((Text.trim line).getLast? == some ':') := by
    rw [Bool.eq_iff_iff, beq_iff_eq, beq_iff_eq, getLast?_lower_eq_colon_iff]
  rw [hempty, hcolon]
  split_ifs
  · rfl
  · have hname : (Text.lower (Text.trim line)).dropLast = Text.lower (Text.trim line).dropLast :=
      (List.map_dropLast ..).symm
    rw [hname, Text.trim_lower]
    rfl
  · rw [Text.splitFirst_lower]
    cases Text.splitFirst ':' (Text.trim line) with
    | none => rfl
    | some pair =>
      simp only [Option.map_some, lowered, Text.trim_lower, Text.unquote_lower]

/-! ## The gist of a line -/

/-- What reading keeps of a line: names and keys in lower case, values as they are. -/
def folded : Line → Line
  | heading name => heading (Text.lower name)
  | entry key value => entry (Text.lower key) value

def gist (l : Text) : Option Line := (classify l).map folded

theorem gist_of_classify {l l' : Text} (h : classify l = classify l') : gist l = gist l' := by
  rw [gist, gist, h]

theorem map_folded_scan (text : Text) :
    (scan text).map folded = (text.splitOn '\n').filterMap gist := by
  rw [scan_eq, List.map_filterMap]
  rfl

end Line

theorem entries_map_folded (s : Section) (lines : List Line) :
    entries s (lines.map Line.folded) = entries s lines := by
  induction lines generalizing s with
  | nil => rfl
  | cons line rest ih =>
    cases line with
    | heading name =>
      show entries (Section.ofHeading (Text.lower name)) (rest.map Line.folded) = _
      rw [ih, entries, Section.ofHeading, Section.ofHeading, Text.lower_lower]
    | entry key value =>
      show (s, Text.lower (Text.lower key), value) :: entries s (rest.map Line.folded) = _
      rw [ih, entries, Text.lower_lower]

/-- Reading goes by the gists of the lines. -/
theorem read_of_gists {text text' : Text}
    (h : (text.splitOn '\n').filterMap Line.gist =
      (text'.splitOn '\n').filterMap Line.gist) : read text = read text' := by
  have hmeanings : meanings text = meanings text' := by
    rw [meanings, meanings, ← entries_map_folded, ← entries_map_folded .root (Line.scan text'),
      Line.map_folded_scan, Line.map_folded_scan, h]
  have hpattern : pattern text = pattern text' := by
    rw [pattern, pattern, changes, changes, hmeanings]
  have hwarnings : warnings text = warnings text' := by rw [warnings, warnings, hmeanings]
  show (if (pattern text).effect.isEmpty then none else some (pattern text, warnings text)) = _
  rw [hpattern, hwarnings]
  rfl

namespace Line

/-- What stands before the colon matters to the value only by the quote that it leaves open. -/
theorem entry_value {a rest key value : Text} (ha : ':' ∉ a)
    (h : classify (a ++ ':' :: rest) = some (.entry key value)) :
    value = Text.unquote (Text.trim (Text.dropEndWhile Text.isBlank
      (dropComment (Text.quoteAfter (Text.openQuote none a) ':') false rest))) := by
  by_cases hcut : dropComment none true a = a
  · have hline : dropComment none true (a ++ ':' :: rest) =
        a ++ ':' :: dropComment (Text.quoteAfter (Text.openQuote none a) ':') false rest := by
      rw [dropComment_append hcut, dropComment_cons, if_neg fun hc => absurd hc.2.1 (by decide)]
      rfl
    have hfront : ':' ∉ a.dropWhile Text.isBlank := fun hmem =>
      ha ((List.dropWhile_suffix Text.isBlank).subset hmem)
    have hcolon : Text.isBlank ':' = false := rfl
    simp only [classify, hline, Text.trim, Text.strip_append_cons hcolon,
      Text.splitFirst_append hfront, Option.map_some] at h
    split_ifs at h
    · cases h
    · exact (Line.entry.inj (Option.some.inj h)).2.symm
  · -- The comment begins before the colon and takes it along.
    have hline : classify (a ++ ':' :: rest) = classify a := by
      simp only [classify, dropComment_append_of_ne hcut]
    rw [hline, classify_of_notMem ha] at h
    cases h

/-- Lines that differ in the case of letters have one gist, if this leaves their values alone. -/
theorem gist_of_lower_eq {l l' : Text} (h : Text.lower l = Text.lower l')
    (hvalue : ∀ key value key' value', classify l = some (.entry key value) →
      classify l' = some (.entry key' value') → value = value') : gist l = gist l' := by
  have hlowered : (classify l).map lowered = (classify l').map lowered := by
    rw [← classify_lower, ← classify_lower, h]
  cases hl : classify l with
  | none =>
    rw [hl, Option.map_none, eq_comm, Option.map_eq_none_iff] at hlowered
    rw [gist, gist, hl, hlowered]
  | some line =>
    rw [hl, Option.map_some, eq_comm, Option.map_eq_some_iff] at hlowered
    obtain ⟨line', hl', hlower⟩ := hlowered
    rw [gist, gist, hl, hl', Option.map_some, Option.map_some]
    cases line with
    | heading name =>
      cases line' with
      | heading name' => exact congrArg some hlower.symm
      | entry key' value' => cases hlower
    | entry key value =>
      cases line' with
      | heading name' => cases hlower
      | entry key' value' =>
        have hkey : Text.lower key' = Text.lower key := (Line.entry.inj hlower).1
        rw [folded, folded, hkey, hvalue key value key' value' hl hl']

theorem gist_key {a a' : Text} (ha : ':' ∉ a) (h : Text.lower a = Text.lower a') (rest : Text) :
    gist (a ++ ':' :: rest) = gist (a' ++ ':' :: rest) := by
  have ha' : ':' ∉ a' := by
    intro hmem
    have hcolon : ':' ∈ Text.lower a := h ▸ List.mem_map_of_mem (f := Char.toLower) hmem
    obtain ⟨c, hc, hlower⟩ := List.mem_map.mp hcolon
    exact ha ((Text.toLower_eq_sign_iff (by decide) c).mp hlower ▸ hc)
  have hquote : Text.openQuote none a = Text.openQuote none a' := by
    rw [← Text.openQuote_lower Text.quoteOrNone_none a, h,
      Text.openQuote_lower Text.quoteOrNone_none]
  apply gist_of_lower_eq
  · rw [Text.lower, Text.lower, List.map_append, List.map_append]
    exact congrArg (· ++ _) h
  · intro key value key' value' hl hl'
    rw [entry_value ha hl, entry_value ha' hl', hquote]

theorem gist_heading {l l' name : Text} (hl : classify l = some (.heading name))
    (h : Text.lower l = Text.lower l') : gist l = gist l' := by
  apply gist_of_lower_eq h
  intro key value key' value' hentry
  rw [hl] at hentry
  cases hentry

/-! ## Comments and blanks -/

/-- A `#` outside quotes, at the start of the line or after a blank. -/
def HasComment (l : Text) : Prop :=
  ∃ a b, l = a ++ '#' :: b ∧ Text.openQuote none a = none ∧ Text.endsBlank true a = true

theorem dropComment_ne_of_hasComment {l : Text} (h : HasComment l) :
    dropComment none true l ≠ l := by
  obtain ⟨a, b, rfl, hquote, hblank⟩ := h
  by_cases hcut : dropComment none true a = a
  · rw [dropComment_append hcut, hquote, hblank, dropComment_cons, if_pos ⟨rfl, rfl, rfl⟩]
    simp
  · intro heq
    have hlength := congrArg List.length heq
    have hkept := (dropComment_sublist none true a).length_le
    rw [dropComment_append_of_ne hcut, List.length_append, List.length_cons] at hlength
    omega

theorem endsBlank_of_blank {w : Text} (hw : Text.Blank w) {afterBlank : Bool}
    (h : w = [] → afterBlank = true) : Text.endsBlank afterBlank w = true := by
  rw [Text.endsBlank]
  cases hlast : w.getLast? with
  | none => exact h (List.getLast?_eq_none_iff.mp hlast)
  | some c => exact hw c (List.mem_of_getLast? hlast)

theorem dropComment_blank_append {w : Text} (hw : Text.Blank w) (afterBlank : Bool) (rest : Text) :
    dropComment none afterBlank (w ++ rest) =
      w ++ dropComment none (Text.endsBlank afterBlank w) rest := by
  have hplain : ∀ c ∈ w, Plain c := fun c hc => plain_of_isBlank (hw c hc)
  rw [dropComment_append (uncommented_plain hplain afterBlank),
    Text.openQuote_none fun c hc => (hplain c hc).1]

/-- What is left of blanks and a comment, whether or not they begin the line. -/
theorem dropComment_blank_hash {w : Text} (hw : Text.Blank w) {afterBlank : Bool}
    (h : w = [] → afterBlank = true) (t : Text) :
    dropComment none afterBlank (w ++ '#' :: t) = w := by
  rw [dropComment_blank_append hw, endsBlank_of_blank hw h, dropComment_cons,
    if_pos ⟨rfl, rfl, rfl⟩, List.append_nil]

theorem classify_append_comment {l w : Text}
    (h : HasComment l ∨ Text.openQuote none l = none) (hw : Text.Blank w) (hne : w ≠ [])
    (t : Text) : classify (l ++ (w ++ '#' :: t)) = classify l := by
  by_cases hcut : dropComment none true l = l
  · have hquote : Text.openQuote none l = none :=
      h.resolve_left fun hcomment => dropComment_ne_of_hasComment hcomment hcut
    have hline : dropComment none true (l ++ (w ++ '#' :: t)) = dropComment none true (l ++ w) := by
      rw [dropComment_append hcut, dropComment_append hcut, hquote,
        dropComment_blank_hash hw fun hnil => absurd hnil hne,
        dropComment_of_notMem (hash_notMem_of_blank hw)]
    rw [← classify_append_blank hw l]
    simp only [classify, hline]
  · -- A comment that is there already takes in the new one, whatever quotes it has.
    simp only [classify, dropComment_append_of_ne hcut]

/-- How far a line is indented does not matter, only that it is. -/
theorem classify_indentation {w w' : Text} (hw : Text.Blank w) (hne : w ≠ [])
    (hw' : Text.Blank w') (hne' : w' ≠ []) (l : Text) :
    classify (w ++ l) = classify (w' ++ l) := by
  have hline {w : Text} (hw : Text.Blank w) (hne : w ≠ []) :
      dropComment none true (w ++ l) = w ++ dropComment none true l := by
    rw [dropComment_blank_append hw, endsBlank_of_blank hw fun hnil => absurd hnil hne]
  have hindented {w : Text} (hw : Text.Blank w) (hne : w ≠ []) (t : Text) :
      isIndented (w ++ t) = true := by
    cases w with
    | nil => exact absurd rfl hne
    | cons c w => exact hw c List.mem_cons_self
  apply classify_congr
  · rw [hline hw hne, hline hw' hne', Text.trim, Text.trim, Text.strip_append_left hw,
      Text.strip_append_left hw']
  · intro
    rw [hline hw hne, hline hw' hne', hindented hw hne, hindented hw' hne']

/-- A line of blanks, or one with nothing but a comment. -/
def Ignored (l : Text) : Prop :=
  Text.Blank l ∨ ∃ w t, l = w ++ '#' :: t ∧ Text.Blank w

theorem classify_blank {l : Text} (h : Text.Blank l) : classify l = none :=
  classify_append_blank h []

theorem classify_ignored {l : Text} (h : Ignored l) : classify l = none := by
  rcases h with hblank | ⟨w, t, rfl, hw⟩
  · exact classify_blank hblank
  · have hline : dropComment none true (w ++ '#' :: t) = dropComment none true w := by
      rw [dropComment_blank_hash hw fun _ => rfl, dropComment_of_notMem (hash_notMem_of_blank hw)]
    rw [← classify_blank hw]
    simp only [classify, hline]

end Line

/-! ## Changes of layout -/

/-- A line rewritten. The last case lets every change be made before a carriage return. -/
inductive Respelled : Text → Text → Prop
  | blanks (l w : Text) (hw : Text.Blank w) : Respelled l (l ++ w)
  | comment (l w t : Text) (h : Line.HasComment l ∨ Text.openQuote none l = none)
      (hw : Text.Blank w) (hne : w ≠ []) : Respelled l (l ++ (w ++ '#' :: t))
  | indentation (w w' l : Text) (hw : Text.Blank w) (hne : w ≠ []) (hw' : Text.Blank w')
      (hne' : w' ≠ []) : Respelled (w ++ l) (w' ++ l)
  | key (a a' rest : Text) (ha : ':' ∉ a) (h : Text.lower a = Text.lower a') :
      Respelled (a ++ ':' :: rest) (a' ++ ':' :: rest)
  | heading (l l' name : Text) (hl : Line.classify l = some (.heading name))
      (h : Text.lower l = Text.lower l') : Respelled l l'
  | beforeReturn (l l' : Text) (h : Respelled l l') : Respelled (l ++ ['\r']) (l' ++ ['\r'])

/-- One change to what stands between the line feeds of a text. -/
inductive Relaid : List Text → List Text → Prop
  | insert (before after : List Text) (l : Text) (h : Line.Ignored l) :
      Relaid (before ++ after) (before ++ l :: after)
  | respell (before after : List Text) (l l' : Text) (h : Respelled l l') :
      Relaid (before ++ l :: after) (before ++ l' :: after)
  | carriageReturn (before after : List Text) (l : Text) (hne : after ≠ []) :
      Relaid (before ++ l :: after) (before ++ (l ++ ['\r']) :: after)

/-- A text with one change of layout. -/
def Edit (text text' : Text) : Prop :=
  Relaid (text.splitOn '\n') (text'.splitOn '\n')

/-- Every change to the lines of a text is a change to the text. -/
theorem Relaid.edit {lines lines' : List Text} (h : Relaid lines lines') (hne : lines ≠ [])
    (hlines : ∀ l ∈ lines, '\n' ∉ l) (hlines' : ∀ l ∈ lines', '\n' ∉ l) :
    Edit (List.intercalate ['\n'] lines) (List.intercalate ['\n'] lines') := by
  have hne' : lines' ≠ [] := by
    cases h <;> exact List.append_ne_nil_of_right_ne_nil _ (List.cons_ne_nil _ _)
  rw [Edit, List.splitOn_intercalate '\n' hlines hne, List.splitOn_intercalate '\n' hlines' hne']
  exact h

theorem gist_append_return (l : Text) : Line.gist (l ++ ['\r']) = Line.gist l :=
  Line.gist_of_classify (Line.classify_append_blank (by decide) l)

theorem Respelled.gist_eq {l l' : Text} (h : Respelled l l') : Line.gist l = Line.gist l' := by
  induction h with
  | blanks l w hw => exact Line.gist_of_classify (Line.classify_append_blank hw l).symm
  | comment l w t h hw hne =>
    exact Line.gist_of_classify (Line.classify_append_comment h hw hne t).symm
  | indentation w w' l hw hne hw' hne' =>
    exact Line.gist_of_classify (Line.classify_indentation hw hne hw' hne' l)
  | key a a' rest ha h => exact Line.gist_key ha h rest
  | heading l l' name hl h => exact Line.gist_heading hl h
  | beforeReturn l l' h ih => rw [gist_append_return, gist_append_return, ih]

theorem Relaid.gists_eq {lines lines' : List Text} (h : Relaid lines lines') :
    lines.filterMap Line.gist = lines'.filterMap Line.gist := by
  cases h with
  | insert before after l h =>
    have hgist : Line.gist l = none := by
      rw [Line.gist, Line.classify_ignored h]
      rfl
    rw [List.filterMap_append, List.filterMap_append, List.filterMap_cons_none hgist]
  | respell before after l l' h =>
    rw [List.filterMap_append, List.filterMap_append, List.filterMap_cons, List.filterMap_cons,
      h.gist_eq]
  | carriageReturn before after l hne =>
    rw [List.filterMap_append, List.filterMap_append, List.filterMap_cons, List.filterMap_cons,
      gist_append_return]

end Intent

/-- However often its layout is changed, a text is read as before, with the same warnings, or still
names no effect. -/
theorem layout_does_not_matter {text text' : Text}
    (h : Relation.ReflTransGen Intent.Edit text text') :
    Intent.read text = Intent.read text' := by
  induction h with
  | refl => rfl
  | tail _ hlast ih => rw [ih, Intent.read_of_gists hlast.gists_eq]

theorem layout_does_not_matter_timing :
    (Intent.read (List.intercalate ['\n']
        ["effect: fire".toList, "timing: # it's".toList, "  speed: fast".toList])).isSome = true ∧
      Intent.read (List.intercalate ['\n']
          ["effect: fire".toList, "timing: # it's".toList, "  speed: fast".toList]) =
        Intent.read (List.intercalate ['\n']
          ["# lamp".toList, "EFFECT: fire\r".toList, "Timing: # it's # slow".toList,
            "\t\u00a0speed: fast".toList]) := by
  have hinsert : Intent.Relaid
      ["effect: fire".toList, "timing: # it's".toList, "  speed: fast".toList]
      ["# lamp".toList, "effect: fire".toList, "timing: # it's".toList, "  speed: fast".toList] :=
    .insert [] _ "# lamp".toList (.inr ⟨[], " lamp".toList, rfl, by decide⟩)
  have hkey : Intent.Relaid
      ["# lamp".toList, "effect: fire".toList, "timing: # it's".toList, "  speed: fast".toList]
      ["# lamp".toList, "EFFECT: fire".toList, "timing: # it's".toList, "  speed: fast".toList] :=
    .respell ["# lamp".toList] _ _ _
      (.key "effect".toList "EFFECT".toList " fire".toList (by decide) (by decide))
  have hreturn : Intent.Relaid
      ["# lamp".toList, "EFFECT: fire".toList, "timing: # it's".toList, "  speed: fast".toList]
      ["# lamp".toList, "EFFECT: fire\r".toList, "timing: # it's".toList, "  speed: fast".toList] :=
    .carriageReturn ["# lamp".toList] _ "EFFECT: fire".toList (by decide)
  have hheading : Intent.Relaid
      ["# lamp".toList, "EFFECT: fire\r".toList, "timing: # it's".toList, "  speed: fast".toList]
      ["# lamp".toList, "EFFECT: fire\r".toList, "Timing: # it's".toList, "  speed: fast".toList] :=
    .respell ["# lamp".toList, "EFFECT: fire\r".toList] _ _ _
      (.heading _ _ "timing".toList (by decide) (by decide))
  have hcomment : Intent.Relaid
      ["# lamp".toList, "EFFECT: fire\r".toList, "Timing: # it's".toList, "  speed: fast".toList]
      ["# lamp".toList, "EFFECT: fire\r".toList, "Timing: # it's # slow".toList,
        "  speed: fast".toList] :=
    .respell ["# lamp".toList, "EFFECT: fire\r".toList] _ _ _
      (.comment "Timing: # it's".toList [' '] " slow".toList
        (.inl ⟨"Timing: ".toList, " it's".toList, rfl, rfl, rfl⟩) (by decide) (by decide))
  have hindentation : Intent.Relaid
      ["# lamp".toList, "EFFECT: fire\r".toList, "Timing: # it's # slow".toList,
        "  speed: fast".toList]
      ["# lamp".toList, "EFFECT: fire\r".toList, "Timing: # it's # slow".toList,
        "\t\u00a0speed: fast".toList] :=
    .respell ["# lamp".toList, "EFFECT: fire\r".toList, "Timing: # it's # slow".toList] [] _ _
      (.indentation "  ".toList "\t\u00a0".toList "speed: fast".toList (by decide) (by decide)
        (by decide) (by decide))
  refine ⟨by decide +kernel, ?_⟩
  apply layout_does_not_matter
  apply Relation.ReflTransGen.head (hinsert.edit (by decide) (by decide) (by decide))
  apply Relation.ReflTransGen.head (hkey.edit (by decide) (by decide) (by decide))
  apply Relation.ReflTransGen.head (hreturn.edit (by decide) (by decide) (by decide))
  apply Relation.ReflTransGen.head (hheading.edit (by decide) (by decide) (by decide))
  apply Relation.ReflTransGen.head (hcomment.edit (by decide) (by decide) (by decide))
  exact Relation.ReflTransGen.single (hindentation.edit (by decide) (by decide) (by decide))

end LedPattern
