import LedPattern.Proofs.Intent.LastWriter
import LedPattern.Proofs.Intent.Line
import LedPattern.Proofs.Pattern.Encode
import LedPattern.Proofs.Text.Numeral
/-!
Settings written as intent text are read back. Each row of the text stands for one line, whatever
the tokens in it are, as long as they have no quotes, commas or line breaks; and the lines lead to
the pattern of the settings, with the colours resolved.
-/
namespace LedPattern

/-- What can be said about a pattern in both forms of input. The style is not among the quantities
that are written. -/
structure Settings where
  effect : Text
  colors : List Text
  background : Text
  quantity : Quantity → Int32

namespace Settings

/-- A token that can stand between double quotes as an item of a list. -/
def IsToken (t : Text) : Prop := ∀ c ∈ t, Text.isQuote c = false ∧ c ≠ ',' ∧ c ≠ '\n'

instance : DecidablePred IsToken := fun t => inferInstanceAs (Decidable (∀ c ∈ t, _))

/-- The effect has a name, which fits on a line, and the colours are tokens. The background may be
blank. -/
structure Writable (s : Settings) : Prop where
  effect : ∃ e, Effect.ofName? s.effect = some e
  line : '\n' ∉ s.effect
  colors : ∀ t ∈ s.colors, t ≠ [] ∧ IsToken t
  background : IsToken s.background

def quoted (t : Text) : Text := '"' :: (t ++ ['"'])

/-- The items of a list after its first, each behind a comma and a space. -/
def further (texts : List Text) : Text := texts.flatMap fun u => ", ".toList ++ quoted u

def listed : List Text → Text
  | [] => []
  | t :: rest => quoted t ++ further rest

def bracketed (texts : List Text) : Text := '[' :: (listed texts ++ [']'])

/-- A row of a section. -/
def row (key value : Text) : Text := "  ".toList ++ (key ++ (": ".toList ++ value))

def number (s : Settings) (q : Quantity) : Text := Text.ofInt (s.quantity q).toInt

def rows (s : Settings) : List Text :=
  ["effect: ".toList ++ s.effect,
    "behavior:".toList,
    row "flame_height".toList (s.number .cooling),
    row "spark_frequency".toList (s.number .sparking),
    row "density".toList (s.number .density),
    row "wave_count".toList (s.number .waveCount),
    row "rhythm".toList (s.number .rhythm),
    row "eye_size".toList (s.number .eyeSize),
    row "tail_length".toList (s.number .tailLength),
    "appearance:".toList,
    row "colors".toList (bracketed s.colors),
    row "background".toList (quoted s.background),
    row "brightness".toList (s.number .brightness),
    "timing:".toList,
    row "speed".toList (s.number .speed),
    "spatial:".toList,
    row "direction".toList (s.number .direction)]

def intentText (s : Settings) : Text := s.rows.flatMap fun r => r ++ ['\n']

end Settings

/-! ## Single rows -/

namespace Intent

def Keyword (key : Text) : Prop :=
  key ≠ [] ∧ ∀ c ∈ key, Plain c ∧ Text.isBlank c = false ∧ c ≠ ':'

instance : DecidablePred Keyword := fun _ => inferInstanceAs (Decidable (_ ∧ _))

theorem stands_row {key value : Text} (hkey : Keyword key)
    (hvalue : Text.Stripped Text.isBlank value) (hne : value ≠ []) (hcomment : Uncommented value)
    (hbreak : '\n' ∉ value) :
    Stands (Settings.row key value) (.entry key (Text.unquote value)) := by
  obtain ⟨-, hkeys⟩ := hkey
  constructor
  · intro hmem
    rcases List.mem_append.mp hmem with hindent | hmem
    · exact absurd hindent (by decide)
    · rcases List.mem_append.mp hmem with hname | hmem
      · exact absurd (hkeys _ hname).2.1 (by decide)
      · rcases List.mem_append.mp hmem with hcolon | hmem
        · exact absurd hcolon (by decide)
        · exact hbreak hmem
  · have hstripped : Text.Stripped Text.isBlank key :=
      Text.stripped_of_forall fun c hc => (hkeys c hc).2.1
    exact Line.classify_row hstripped (fun c hc => ⟨(hkeys c hc).1, (hkeys c hc).2.2⟩) hvalue hne
      hcomment

theorem stands_number {key : Text} (hkey : Keyword key) (s : Settings) (q : Quantity) :
    Stands (Settings.row key (s.number q)) (.entry key (s.number q)) := by
  have hchar {c : Char} (hc : c ∈ s.number q) :=
    Text.of_sign_or_digit (Text.sign_or_digit_of_mem_ofInt hc)
  have hunquote : Text.unquote (s.number q) = s.number q :=
    Text.strip_eq_self (Text.stripped_of_forall fun c hc => (hchar hc).2.1)
  have hrow := stands_row hkey (Text.stripped_of_forall fun c hc => (hchar hc).1)
    (Text.ofInt_ne_nil _) (uncommented_plain fun c hc => ⟨(hchar hc).2.1, (hchar hc).2.2.1⟩)
    (fun hmem => absurd (hchar hmem).1 (by decide))
  rw [hunquote] at hrow
  exact hrow

theorem notMem_between {d first last : Char} (hfirst : d ≠ first) (hlast : d ≠ last) {t : Text}
    (h : d ∉ t) : d ∉ first :: (t ++ [last]) := by
  intro hmem
  rcases List.mem_cons.mp hmem with hd | hmem
  · exact hfirst hd
  · rcases List.mem_append.mp hmem with hd | hd
    · exact h hd
    · exact hlast (List.mem_singleton.mp hd)

theorem stripped_quoted (t : Text) : Text.Stripped Text.isBlank (Settings.quoted t) :=
  Text.stripped_between (by decide) (by decide) t

theorem stripped_bracketed (texts : List Text) :
    Text.Stripped Text.isBlank (Settings.bracketed texts) :=
  Text.stripped_between (by decide) (by decide) _

theorem unquote_quoted {t : Text} (h : Settings.IsToken t) :
    Text.unquote (Settings.quoted t) = t :=
  Text.unquote_between (Text.stripped_of_forall fun c hc => (h c hc).1)

/-- Whatever is in a token, no comment begins there. -/
theorem uncommented_token {t : Text} (h : Settings.IsToken t) {rest : Text}
    (hrest : Uncommented rest) : Uncommented (Settings.quoted t ++ rest) := by
  have htext : Settings.quoted t ++ rest = '"' :: (t ++ '"' :: rest) := by
    simp [Settings.quoted]
  rw [htext]
  exact uncommented_quoted (fun hmem => absurd (h _ hmem).1 (by decide)) hrest

theorem newline_notMem_quoted {t : Text} (h : Settings.IsToken t) : '\n' ∉ Settings.quoted t :=
  notMem_between (by decide) (by decide) fun hmem => (h _ hmem).2.2 rfl

theorem stands_quoted {key t : Text} (hkey : Keyword key) (h : Settings.IsToken t) :
    Stands (Settings.row key (Settings.quoted t)) (.entry key t) := by
  have hcomment : Uncommented (Settings.quoted t) := by
    rw [← List.append_nil (Settings.quoted t)]
    exact uncommented_token h fun _ => rfl
  have hrow := stands_row hkey (stripped_quoted t) (List.cons_ne_nil _ _) hcomment
    (newline_notMem_quoted h)
  rw [unquote_quoted h] at hrow
  exact hrow

section Listed

variable {texts : List Text} (h : ∀ t ∈ texts, Settings.IsToken t)
include h

theorem uncommented_listed {rest : Text} (hrest : Uncommented rest) :
    Uncommented (Settings.listed texts ++ rest) := by
  have hmore {more : List Text} (hmore : ∀ t ∈ more, Settings.IsToken t) :
      Uncommented (Settings.further more ++ rest) := by
    induction more with
    | nil => exact hrest
    | cons u more ih =>
      rw [Settings.further, List.flatMap_cons, List.append_assoc, List.append_assoc]
      apply uncommented_append (by decide)
      exact uncommented_token (hmore u List.mem_cons_self)
        (ih fun t ht => hmore t (List.mem_cons_of_mem u ht))
  cases texts with
  | nil => exact hrest
  | cons t more =>
    rw [Settings.listed, List.append_assoc]
    exact uncommented_token (h t List.mem_cons_self)
      (hmore fun u hu => h u (List.mem_cons_of_mem t hu))

theorem newline_notMem_listed : '\n' ∉ Settings.listed texts := by
  cases texts with
  | nil => exact List.not_mem_nil
  | cons t more =>
    intro hmem
    rcases List.mem_append.mp hmem with hfirst | hmore
    · exact newline_notMem_quoted (h t List.mem_cons_self) hfirst
    · obtain ⟨u, hu, hmem⟩ := List.mem_flatMap.mp hmore
      rcases List.mem_append.mp hmem with hcomma | hmem
      · exact absurd hcomma (by decide)
      · exact newline_notMem_quoted (h u (List.mem_cons_of_mem t hu)) hmem

theorem stands_bracketed {key : Text} (hkey : Keyword key) :
    Stands (Settings.row key (Settings.bracketed texts))
      (.entry key (Settings.bracketed texts)) := by
  have hcomment : Uncommented (Settings.bracketed texts) := by
    have hopen : ∀ c ∈ ['['], Plain c := by decide
    exact uncommented_append hopen (uncommented_listed h (uncommented_plain (by decide)))
  have hbreak : '\n' ∉ Settings.bracketed texts :=
    notMem_between (by decide) (by decide) (newline_notMem_listed h)
  have hunquote : Text.unquote (Settings.bracketed texts) = Settings.bracketed texts :=
    Text.strip_eq_self (Text.stripped_between (by decide) (by decide) _)
  have hrow := stands_row hkey (stripped_bracketed texts) (List.cons_ne_nil _ _) hcomment hbreak
  rw [hunquote] at hrow
  exact hrow

end Listed

/-! ## The effect -/

/-- A name may have blanks around it; between them there is nothing that could be taken for anything
else. -/
theorem exists_eq_append_name {name : Text} {e : Effect} (h : Effect.ofName? name = some e) :
    ∃ before word after, name = before ++ (word ++ after) ∧ Text.trim name = word ∧ word ≠ [] ∧
      (∀ c ∈ before, Text.isBlank c = true) ∧ (∀ c ∈ after, Text.isBlank c = true) ∧
      ∀ c ∈ word, Plain c ∧ c ≠ ':' := by
  obtain ⟨before, after, hname, hbefore, hafter⟩ := Text.exists_eq_append_strip Text.isBlank name
  refine ⟨before, Text.trim name, after, hname, rfl, ?_, hbefore, hafter, ?_⟩
  · intro hnil
    rw [← Effect.ofName?_trim, hnil, Effect.ofName?_nil] at h
    cases h
  · have hspellings : ∀ p ∈ Effect.spellings, ∀ c ∈ p.1, Plain c ∧ c ≠ ':' := by decide
    have hsigns : ∀ c ∈ ['"', '\'', '#', ':'], c.toLower = c := by decide
    obtain ⟨front, back, hmem, -⟩ := List.lookup_eq_some_iff.mp h
    have hword := hspellings (Text.fold name, e)
      (hmem ▸ List.mem_append_right front List.mem_cons_self)
    intro c hc
    have hlower := hword c.toLower (List.mem_map_of_mem hc)
    -- None of the signs is a letter, so it would be found in the spelling as it is.
    by_cases hsign : c ∈ ['"', '\'', '#', ':']
    · rw [hsigns c hsign] at hlower
      exact hlower
    · simp only [List.mem_cons, List.not_mem_nil, or_false, not_or] at hsign
      obtain ⟨hdouble, hsingle, hhash, hcolon⟩ := hsign
      refine ⟨⟨?_, hhash⟩, hcolon⟩
      simp only [Text.isQuote, Bool.or_eq_false_iff, beq_eq_false_iff_ne]
      exact ⟨hdouble, hsingle⟩

section EffectRow

variable {before word : Text} (hbefore : Text.Blank before) (hne : word ≠ [])
  (hstripped : Text.Stripped Text.isBlank word) (hword : ∀ c ∈ word, Plain c ∧ c ≠ ':')

include hstripped hne in
theorem stripped_effectRow :
    Text.Stripped Text.isBlank ("effect:".toList ++ (' ' :: before ++ word)) := by
  have hkey : Text.Stripped Text.isBlank ('e' :: ("ffect".toList ++ [':'])) :=
    Text.stripped_between (by decide) (by decide) _
  exact hkey.append (List.cons_ne_nil _ _) hstripped hne _

include hbefore hword in
theorem uncommented_effectRow :
    Uncommented ("effect:".toList ++ (' ' :: before ++ word)) := by
  have hkey : ∀ c ∈ "effect:".toList, Plain c := by decide
  have hspace : ∀ c ∈ ' ' :: before, Plain c :=
    List.forall_mem_cons.mpr ⟨by decide, fun c hc => plain_of_isBlank (hbefore c hc)⟩
  apply uncommented_append hkey
  apply uncommented_append hspace
  exact uncommented_plain fun c hc => (hword c hc).1

include hbefore hne hstripped hword in
theorem classify_effectRow :
    Line.classify ("effect:".toList ++ (' ' :: before ++ word)) =
      some (.entry "effect".toList word) := by
  have htrim : Text.trim ("effect:".toList ++ (' ' :: before ++ word)) =
      "effect".toList ++ ':' :: (' ' :: before ++ word) :=
    Text.strip_eq_self (stripped_effectRow hne hstripped)
  have hlast : ("effect".toList ++ ':' :: (' ' :: before ++ word)).getLast? ≠ some ':' := by
    rw [List.getLast?_append_of_ne_nil _ (List.cons_ne_nil _ _), ← List.cons_append,
      List.getLast?_append_of_ne_nil _ hne]
    intro hlast
    exact (hword _ (List.mem_of_getLast? hlast)).2 rfl
  have hvalue : Text.trim (' ' :: before ++ word) = word := by
    rw [Text.trim, Text.strip_append_left, Text.strip_eq_self hstripped]
    exact List.forall_mem_cons.mpr ⟨by decide, hbefore⟩
  have hunquote : Text.unquote word = word :=
    Text.strip_eq_self (Text.stripped_of_forall fun c hc => (hword c hc).1.1)
  have hkey : Text.trim "effect".toList = "effect".toList := by decide
  rw [Line.classify_entry (uncommented_effectRow hbefore hword) htrim (by decide) (.inr hlast),
    hvalue, hunquote, hkey]

end EffectRow

theorem stands_effect {name : Text} {e : Effect} (h : Effect.ofName? name = some e)
    (hbreak : '\n' ∉ name) :
    Stands ("effect: ".toList ++ name) (.entry "effect".toList (Text.trim name)) := by
  obtain ⟨before, word, after, hname, htrim, hne, hbefore, hafter, hword⟩ :=
    exists_eq_append_name h
  have hstripped : Text.Stripped Text.isBlank word := by
    rw [← htrim]
    exact Text.stripped_strip _ _
  have htext : "effect: ".toList ++ name =
      "effect:".toList ++ (' ' :: before ++ word) ++ after := by
    rw [hname]
    simp
  constructor
  · intro hmem
    rcases List.mem_append.mp hmem with hkey | hmem
    · exact absurd hkey (by decide)
    · exact hbreak hmem
  · rw [htext, Line.classify_append_blank hafter,
      classify_effectRow hbefore hne hstripped hword, htrim]

/-! ## Lists of colours -/

/-- Quotes and what stands around them are removed from an item. -/
theorem unquote_trim_quoted {t : Text} (h : Settings.IsToken t) (blanks : Text)
    (hblanks : ∀ c ∈ blanks, Text.isBlank c = true) :
    Text.unquote (Text.trim (blanks ++ Settings.quoted t)) = t := by
  rw [Text.trim, Text.strip_append_left hblanks, Text.strip_eq_self (stripped_quoted t),
    unquote_quoted h]

theorem comma_notMem_quoted {t : Text} (h : Settings.IsToken t) : ',' ∉ Settings.quoted t :=
  notMem_between (by decide) (by decide) fun hmem => (h _ hmem).2.1 rfl

theorem splitOn_further {texts : List Text} (h : ∀ t ∈ texts, Settings.IsToken t) {item : Text}
    (hitem : ',' ∉ item) :
    List.splitOn ',' (item ++ Settings.further texts) =
      item :: texts.map fun u => [' '] ++ Settings.quoted u := by
  induction texts generalizing item with
  | nil =>
    rw [Settings.further, List.flatMap_nil, List.append_nil, List.splitOn_eq_singleton hitem]
    rfl
  | cons u more ih =>
    have hu : ',' ∉ [' '] ++ Settings.quoted u := by
      intro hmem
      rcases List.mem_append.mp hmem with hspace | hmem
      · exact absurd hspace (by decide)
      · exact comma_notMem_quoted (h u List.mem_cons_self) hmem
    have hmore := ih (fun v hv => h v (List.mem_cons_of_mem u hv)) hu
    have htext : item ++ Settings.further (u :: more) =
        item ++ ',' :: ([' '] ++ Settings.quoted u ++ Settings.further more) := by
      rw [Settings.further, List.flatMap_cons, ← Settings.further]
      simp
    rw [htext, List.splitOn_append_cons_self, List.splitOn_eq_singleton hitem, hmore]
    rfl

theorem getLast?_quoted (t : Text) : (Settings.quoted t).getLast? = some '"' := by
  simp [Settings.quoted, List.getLast?_cons, List.getLast?_append]

theorem getLast?_further (texts : List Text) {t : Text} (h : t.getLast? = some '"') :
    (t ++ Settings.further texts).getLast? = some '"' := by
  induction texts generalizing t with
  | nil =>
    rw [Settings.further, List.flatMap_nil, List.append_nil]
    exact h
  | cons u more ih =>
    rw [Settings.further, List.flatMap_cons, ← Settings.further, ← List.append_assoc]
    apply ih
    have hquoted : Settings.quoted u ≠ [] := List.cons_ne_nil _ _
    rw [← List.append_assoc, List.getLast?_append_of_ne_nil _ hquoted]
    exact getLast?_quoted u

/-- The brackets are taken away, and nothing else. -/
theorem inner_bracketed (texts : List Text) :
    Text.dropEndWhile (· == ']')
        ((Text.trim (Settings.bracketed texts)).dropWhile (· == '[')) = Settings.listed texts := by
  have htrim : Text.trim (Settings.bracketed texts) = Settings.bracketed texts :=
    Text.strip_eq_self (stripped_bracketed texts)
  have hopen :
      (Settings.bracketed texts).dropWhile (· == '[') = Settings.listed texts ++ [']'] := by
    show (['['] ++ (Settings.listed texts ++ [']'])).dropWhile (· == '[') = _
    rw [List.dropWhile_append_of_pos (by decide)]
    apply Text.dropWhile_eq_self_of_head
    intro c hc
    cases texts with
    | nil =>
      obtain rfl : ']' = c := by simpa [Settings.listed] using hc
      decide
    | cons t more =>
      obtain rfl : '"' = c := by simpa [Settings.listed, Settings.quoted] using hc
      decide
  rw [htrim, hopen, Text.dropEndWhile_eq_rdropWhile, Text.rdropWhile_append_of_all (by decide)]
  apply Text.rdropWhile_eq_self_of_getLast
  intro c hc
  cases texts with
  | nil => exact absurd hc (by simp [Settings.listed])
  | cons t more =>
    have hlast : (Settings.listed (t :: more)).getLast? = some '"' :=
      getLast?_further more (getLast?_quoted t)
    rw [hlast] at hc
    obtain rfl : '"' = c := Option.some.inj hc
    decide

theorem items_listed {t : Text} {more : List Text}
    (h : ∀ u ∈ t :: more, Settings.IsToken u) :
    ((Settings.listed (t :: more)).splitOn ',').map
      (fun item => Text.unquote (Text.trim item)) = t :: more := by
  obtain ⟨ht, hmore⟩ := List.forall_mem_cons.mp h
  have hfirst : Text.unquote (Text.trim (Settings.quoted t)) = t :=
    unquote_trim_quoted ht [] (List.forall_mem_nil _)
  have hothers : more.map (fun u => Text.unquote (Text.trim ([' '] ++ Settings.quoted u))) =
      more.map id :=
    List.map_congr_left fun u hu => unquote_trim_quoted (hmore u hu) [' '] (by decide)
  rw [Settings.listed, splitOn_further hmore (comma_notMem_quoted ht), List.map_cons, List.map_map,
    hfirst]
  exact congrArg (t :: ·) (hothers.trans (List.map_id more))

theorem colorList_bracketed {texts : List Text}
    (h : ∀ t ∈ texts, t ≠ [] ∧ Settings.IsToken t) :
    colorList (Settings.bracketed texts) = texts.map Color.resolve := by
  simp only [colorList, inner_bracketed]
  cases texts with
  | nil => rfl
  | cons t more =>
    rw [items_listed fun u hu => (h u hu).2, List.filter_eq_self.mpr]
    intro u hu
    rw [Bool.not_eq_true', List.isEmpty_eq_false_iff]
    exact (h u hu).1

end Intent

/-! ## Numbers -/

/-- No word of the family has a sign or a digit in it, so a number is read as one. -/
theorem WordFamily.resolve_ofInt {family : WordFamily}
    (h : ∀ w ∈ family.words, ∀ c ∈ w.1, c ≠ '-' ∧ c.isDigit = false) (n : Int32) :
    family.resolve (Text.ofInt n.toInt) = .number n := by
  obtain ⟨c, rest, hcons⟩ := List.exists_cons_of_ne_nil (Text.ofInt_ne_nil n.toInt)
  have hc : c = '-' ∨ c.isDigit = true :=
    Text.sign_or_digit_of_mem_ofInt (hcons ▸ List.mem_cons_self)
  have hword : family.word? (Text.ofInt n.toInt) = none := by
    rw [word?, List.lookup_eq_none_iff]
    intro w hw
    rw [bne_iff_ne]
    intro heq
    obtain ⟨hminus, hdigit⟩ := h w hw c (by rw [← heq, hcons]; exact List.mem_cons_self)
    rcases hc with hc | hc
    · exact hminus hc
    · rw [hdigit] at hc
      exact Bool.false_ne_true hc
  simp only [resolve, Text.fold_ofInt, hword, Text.readInt32?_ofInt]

namespace Intent

theorem after_heading {s : Section} {name : Text} (opened : Section)
    (h : Section.ofHeading name = opened) (p : Pattern) (rest : List Line) :
    after s p (.heading name :: rest) = after opened p rest := by
  rw [← h]
  rfl

/-- A number under the key of a knob is the quantity itself. -/
theorem after_knob {s : Section} {key : Text} (knob : Knob)
    (hmeaning : ∀ value, s.meaning (Text.lower key) value = knob.meaning value)
    (hwords : ∀ w ∈ knob.family.words, ∀ c ∈ w.1, c ≠ '-' ∧ c.isDigit = false) (n : Int32)
    (p : Pattern) (rest : List Line) :
    after s p (.entry key (Text.ofInt n.toInt) :: rest) = after s (p.set knob.quantity n) rest := by
  show after s ((s.meaning (Text.lower key) (Text.ofInt n.toInt)).apply p) rest = _
  rw [hmeaning, Knob.meaning, WordFamily.resolve_ofInt hwords]
  rfl

theorem after_rhythm (n : Int32) (p : Pattern) (rest : List Line) :
    after .behavior p (.entry "rhythm".toList (Text.ofInt n.toInt) :: rest) =
      after .behavior (p.set .rhythm n) rest := by
  have hmeaning (value : Text) : Section.meaning .behavior (Text.lower "rhythm".toList) value =
      Section.rhythmMeaning value := rfl
  show after .behavior ((Section.meaning .behavior (Text.lower "rhythm".toList) _).apply p) rest = _
  rw [hmeaning, Section.rhythmMeaning, WordFamily.resolve_ofInt (by decide)]
  rfl

end Intent

namespace Settings

/-- What the rows stand for. -/
def lines (s : Settings) : List Intent.Line :=
  [.entry "effect".toList (Text.trim s.effect),
    .heading "behavior".toList,
    .entry "flame_height".toList (s.number .cooling),
    .entry "spark_frequency".toList (s.number .sparking),
    .entry "density".toList (s.number .density),
    .entry "wave_count".toList (s.number .waveCount),
    .entry "rhythm".toList (s.number .rhythm),
    .entry "eye_size".toList (s.number .eyeSize),
    .entry "tail_length".toList (s.number .tailLength),
    .heading "appearance".toList,
    .entry "colors".toList (bracketed s.colors),
    .entry "background".toList s.background,
    .entry "brightness".toList (s.number .brightness),
    .heading "timing".toList,
    .entry "speed".toList (s.number .speed),
    .heading "spatial".toList,
    .entry "direction".toList (s.number .direction)]

/-- The pattern of the settings, as given. -/
def pattern (s : Settings) : Pattern where
  effect := s.effect
  colors := s.colors
  background := some s.background
  brightness := s.quantity .brightness
  speed := s.quantity .speed
  density := s.quantity .density
  cooling := s.quantity .cooling
  sparking := s.quantity .sparking
  waveCount := s.quantity .waveCount
  rhythm := s.quantity .rhythm
  eyeSize := s.quantity .eyeSize
  tailLength := s.quantity .tailLength
  direction := s.quantity .direction

theorem scan_intentText {s : Settings} (h : s.Writable) :
    Intent.Line.scan s.intentText = s.lines := by
  obtain ⟨e, heffect⟩ := h.effect
  have htokens : ∀ t ∈ s.colors, IsToken t := fun t ht => (h.colors t ht).2
  apply Intent.scan_rows
  refine .cons (Intent.stands_effect heffect h.line) ?_
  refine .cons ⟨by decide, by decide⟩ ?_
  refine .cons (Intent.stands_number (by decide) s _) ?_
  refine .cons (Intent.stands_number (by decide) s _) ?_
  refine .cons (Intent.stands_number (by decide) s _) ?_
  refine .cons (Intent.stands_number (by decide) s _) ?_
  refine .cons (Intent.stands_number (by decide) s _) ?_
  refine .cons (Intent.stands_number (by decide) s _) ?_
  refine .cons (Intent.stands_number (by decide) s _) ?_
  refine .cons ⟨by decide, by decide⟩ ?_
  refine .cons (Intent.stands_bracketed htokens (by decide)) ?_
  refine .cons (Intent.stands_quoted (by decide) h.background) ?_
  refine .cons (Intent.stands_number (by decide) s _) ?_
  refine .cons ⟨by decide, by decide⟩ ?_
  refine .cons (Intent.stands_number (by decide) s _) ?_
  refine .cons ⟨by decide, by decide⟩ ?_
  exact .cons (Intent.stands_number (by decide) s _) .nil

/-- The pattern as the rows give it, with the effect trimmed and the colours resolved. -/
def resolved (s : Settings) : Pattern :=
  { s.pattern with
    effect := Text.trim s.effect
    colors := s.colors.map Color.resolve
    background := some (Color.resolve s.background) }

theorem after_lines {s : Settings} (h : s.Writable) :
    Intent.after .root Intent.start s.lines = s.resolved := by
  have hcolors (p : Pattern) (rest : List Intent.Line) :
      Intent.after .appearance p (.entry "colors".toList (bracketed s.colors) :: rest) =
        Intent.after .appearance { p with colors := s.colors.map Color.resolve } rest := by
    rw [← Intent.colorList_bracketed h.colors]
    rfl
  have heffect (rest : List Intent.Line) :
      Intent.after .root Intent.start (.entry "effect".toList (Text.trim s.effect) :: rest) =
        Intent.after .root { Intent.start with effect := Text.trim s.effect } rest := rfl
  have hbackground (p : Pattern) (rest : List Intent.Line) :
      Intent.after .appearance p (.entry "background".toList s.background :: rest) =
        Intent.after .appearance { p with background := some (Color.resolve s.background) } rest :=
    rfl
  rw [lines, heffect]
  simp only [number]
  rw [Intent.after_heading .behavior rfl,
    Intent.after_knob ⟨"flame_height".toList, .cooling, .flameHeight⟩ (fun _ => rfl) (by decide),
    Intent.after_knob ⟨"spark_frequency".toList, .sparking, .sparkFrequency⟩ (fun _ => rfl)
      (by decide),
    Intent.after_knob ⟨"density".toList, .density, .density⟩ (fun _ => rfl) (by decide),
    Intent.after_knob ⟨"wave_count".toList, .waveCount, .waveCount⟩ (fun _ => rfl) (by decide),
    Intent.after_rhythm,
    Intent.after_knob ⟨"eye_size".toList, .eyeSize, .eyeSize⟩ (fun _ => rfl) (by decide),
    Intent.after_knob ⟨"tail_length".toList, .tailLength, .tailLength⟩ (fun _ => rfl) (by decide)]
  rw [Intent.after_heading .appearance rfl, hcolors, hbackground,
    Intent.after_knob ⟨"brightness".toList, .brightness, .brightness⟩ (fun _ => rfl) (by decide)]
  rw [Intent.after_heading .timing rfl,
    Intent.after_knob ⟨"speed".toList, .speed, .speed⟩ (fun _ => rfl) (by decide),
    Intent.after_heading .spatial rfl,
    Intent.after_knob ⟨"direction".toList, .direction, .direction⟩ (fun _ => rfl) (by decide)]
  rfl

end Settings
end LedPattern
