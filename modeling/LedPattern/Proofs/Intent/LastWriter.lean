import LedPattern.Intent.Basic
import Mathlib.Data.List.Basic
/-!
The last writer of a field. A slot is a field of the pattern with the entries that write to it, said
as a table over sections and keys. Reading an intent text gives every slot the value of the last
line that writes to it, and the value it starts with if no line does.
-/
namespace LedPattern
namespace Intent

/-! ## The table -/

/-- A field of the pattern: how it is read, where it starts, and what an entry writes to it. The key
is in lower case. -/
structure Slot (α : Type) where
  get : Pattern → α
  initial : α
  written : Section → Text → Text → Option α

namespace Slot

/-- An empty effect is written like any other. -/
def effect : Slot Text where
  get p := p.effect
  initial := []
  written s key value := if s = .root ∧ key = "effect".toList then some value else none

def name : Slot (Option Text) where
  get p := p.name
  initial := none
  written s key value :=
    if s = .root ∧ (key = "name".toList ∨ key = "description".toList) ∧ value ≠ [] then
      some (some value)
    else none

def colors : Slot (List Text) where
  get p := p.colors
  initial := []
  written s key value :=
    if s = .appearance then
      if key = "color".toList then some [Color.resolve value]
      else if key = "colors".toList then some (colorList value)
      else if key = "color_scheme".toList ∨ key = "palette".toList then some (Color.scheme value)
      else none
    else none

def background : Slot (Option Text) where
  get p := p.background
  initial := none
  written s key value :=
    if s = .appearance ∧ (key = "background".toList ∨ key = "background_color".toList) then
      some (some (Color.resolve value))
    else none

/-- An entry of one section that writes to a quantity through a word family. -/
def dial (home : Section) (keys : List Text) (family : WordFamily) (s : Section)
    (key value : Text) : Option Int32 :=
  if s = home ∧ key ∈ keys then some (family.resolve value).value else none

/-- The rhythm is written by numbers only. -/
def rhythmNumber (s : Section) (key value : Text) : Option Int32 :=
  if s = .behavior ∧ key = "rhythm".toList then
    match WordFamily.rhythm.resolve value with
    | .number v => some v
    | .word _ | .fallback _ => none
  else none

/-- A rhythm that is not a number is a speed. -/
def rhythmWord (s : Section) (key value : Text) : Option Int32 :=
  if s = .behavior ∧ key = "rhythm".toList then
    match WordFamily.rhythm.resolve value with
    | .number _ => none
    | .word v | .fallback v => some v
  else none

def initialQuantity : Quantity → Int32
  | .brightness => 200
  | .speed => 128
  | _ => 0

def writtenQuantity : Quantity → Section → Text → Text → Option Int32
  | .cooling => dial .behavior ["flame_height".toList] .flameHeight
  | .sparking => dial .behavior ["spark_frequency".toList] .sparkFrequency
  | .density => dial .behavior ["density".toList] .density
  | .waveCount => dial .behavior ["wave_count".toList] .waveCount
  | .eyeSize => dial .behavior ["eye_size".toList, "head_size".toList] .eyeSize
  | .tailLength => dial .behavior ["tail_length".toList] .tailLength
  | .rhythm => rhythmNumber
  | .brightness => dial .appearance ["brightness".toList] .brightness
  | .speed => fun s key value =>
      (dial .timing ["speed".toList] .speed s key value).or (rhythmWord s key value)
  | .direction => dial .spatial ["direction".toList] .direction
  | .style => fun _ _ _ => none

def quantity (q : Quantity) : Slot Int32 where
  get p := p.get q
  initial := initialQuantity q
  written := writtenQuantity q

end Slot

/-- The keys whose values are read through a word family. -/
def families : List (Section × Text × WordFamily) :=
  [(.behavior, "flame_height".toList, .flameHeight),
    (.behavior, "spark_frequency".toList, .sparkFrequency),
    (.behavior, "density".toList, .density),
    (.behavior, "wave_count".toList, .waveCount),
    (.behavior, "rhythm".toList, .rhythm),
    (.behavior, "eye_size".toList, .eyeSize),
    (.behavior, "head_size".toList, .eyeSize),
    (.behavior, "tail_length".toList, .tailLength),
    (.appearance, "brightness".toList, .brightness),
    (.timing, "speed".toList, .speed),
    (.spatial, "direction".toList, .direction)]

/-- An entry warns of a word that its family does not know, or of an unknown scheme. -/
def entryWarning (s : Section) (key value : Text) : Option Warning :=
  match families.find? fun (home, word, _) => home = s ∧ word = key with
  | some (_, _, family) =>
    match family.resolve value with
    | .fallback v => some (.unknownWord key value v)
    | .word _ | .number _ => none
  | none =>
    if s = .appearance ∧ (key = "color_scheme".toList ∨ key = "palette".toList) ∧
        Color.scheme? value = none then
      some (.unknownScheme value)
    else none

/-- The headings that open a section, in lower case. -/
def headings : List (Text × Section) :=
  [([], .root), ("root".toList, .root), ("behavior".toList, .behavior),
    ("appearance".toList, .appearance), ("timing".toList, .timing), ("spatial".toList, .spatial)]

theorem ofHeading_eq (name : Text) :
    Section.ofHeading name = (headings.lookup (Text.lower name)).getD .other := by
  simp only [Section.ofHeading, headings, List.lookup_cons, List.lookup_nil]
  generalize Text.lower name = word
  by_cases hnil : word = []
  · subst hnil; rfl
  by_cases hroot : word = "root".toList
  · subst hroot; rfl
  by_cases hbehavior : word = "behavior".toList
  · subst hbehavior; rfl
  by_cases happearance : word = "appearance".toList
  · subst happearance; rfl
  by_cases htiming : word = "timing".toList
  · subst htiming; rfl
  by_cases hspatial : word = "spatial".toList
  · subst hspatial; rfl
  rw [if_neg (not_or.mpr ⟨hnil, hroot⟩), if_neg hbehavior, if_neg happearance, if_neg htiming,
    if_neg hspatial, beq_false_of_ne hnil, beq_false_of_ne hroot, beq_false_of_ne hbehavior,
    beq_false_of_ne happearance, beq_false_of_ne htiming, beq_false_of_ne hspatial]
  rfl

/-! ## Lines and what they write -/

def Line.heading? : Line → Option Text
  | .heading name => some name
  | .entry _ _ => none

/-- The section in force after some lines that begin in a given one: what the last heading opens. -/
def inForce (s : Section) (before : List Line) : Section :=
  match (before.filterMap Line.heading?).getLast? with
  | some name => (headings.lookup (Text.lower name)).getD .other
  | none => s

theorem inForce_heading (s : Section) (name : Text) (before : List Line) :
    inForce s (.heading name :: before) = inForce (Section.ofHeading name) before := by
  have hnames : (Line.heading name :: before).filterMap Line.heading? =
      name :: before.filterMap Line.heading? := rfl
  unfold inForce
  rw [hnames, List.getLast?_cons]
  cases (before.filterMap Line.heading?).getLast? with
  | none => exact (ofHeading_eq name).symm
  | some last => rfl

theorem inForce_entry (s : Section) (key value : Text) (before : List Line) :
    inForce s (.entry key value :: before) = inForce s before := rfl

/-- What the line at a position says, by the section in force there; headings say nothing. -/
def said {β : Type} (f : Section → Text → Text → Option β) (s : Section) (lines : List Line)
    (i : Nat) : Option β :=
  match lines[i]? with
  | some (.entry key value) => f (inForce s (lines.take i)) (Text.lower key) value
  | some (.heading _) | none => none

section Said

variable {β : Type} (f : Section → Text → Text → Option β) (s : Section) (lines : List Line)

theorem said_nil (i : Nat) : said f s [] i = none := rfl

theorem said_heading_zero (name : Text) : said f s (.heading name :: lines) 0 = none := rfl

theorem said_heading_succ (name : Text) (i : Nat) :
    said f s (.heading name :: lines) (i + 1) = said f (Section.ofHeading name) lines i := by
  unfold said
  rw [List.getElem?_cons_succ, List.take_succ_cons, inForce_heading]

theorem said_entry_zero (key value : Text) :
    said f s (.entry key value :: lines) 0 = f s (Text.lower key) value := rfl

theorem said_entry_succ (key value : Text) (i : Nat) :
    said f s (.entry key value :: lines) (i + 1) = said f s lines i := by
  unfold said
  rw [List.getElem?_cons_succ, List.take_succ_cons, inForce_entry]

end Said

/-! ## One entry -/

def Meaning.apply (m : Meaning) (p : Pattern) : Pattern :=
  match m.change with
  | some change => change.apply p
  | none => p

/-- A meaning gives the slot what the entry writes to it and leaves it alone otherwise. -/
def Slot.Takes {α : Type} (slot : Slot α) (s : Section) (key value : Text) (m : Meaning) : Prop :=
  ∀ p, slot.get (m.apply p) = (slot.written s key value).getD (slot.get p)

/-- A meaning is the one that the table gives to an entry. -/
structure Follows (s : Section) (key value : Text) (m : Meaning) : Prop where
  effect : Slot.effect.Takes s key value m
  name : Slot.name.Takes s key value m
  colors : Slot.colors.Takes s key value m
  background : Slot.background.Takes s key value m
  quantity (q : Quantity) : (Slot.quantity q).Takes s key value m
  warnings : m.warnings = (entryWarning s key value).toList

theorem Slot.takes_nothing {α : Type} {slot : Slot α} {s : Section} {key value : Text}
    (h : slot.written s key value = none) : slot.Takes s key value {} := by
  intro p
  rw [h]
  rfl

theorem entryWarning_of_family {s : Section} {key : Text} {family : WordFamily} (value : Text)
    (h : families.find? (fun (home, word, _) => home = s ∧ word = key) = some (s, key, family)) :
    entryWarning s key value =
      if (family.resolve value).isFallback then
        some (.unknownWord key value (family.resolve value).value)
      else none := by
  simp only [entryWarning, h]
  cases family.resolve value <;> rfl

theorem warnings_knob {s : Section} {knob : Knob} (value : Text)
    (h : families.find? (fun (home, word, _) => home = s ∧ word = knob.key) =
      some (s, knob.key, knob.family)) :
    (knob.meaning value).warnings = (entryWarning s knob.key value).toList := by
  rw [entryWarning_of_family value h, Knob.meaning]
  cases (knob.family.resolve value).isFallback <;> rfl

theorem follows_knob {s : Section} {knob : Knob} (h : knob ∈ s.knobs) (value : Text) :
    Follows s knob.key value (knob.meaning value) := by
  cases s with
  | root | other => cases h
  | behavior =>
    simp only [Section.knobs, List.mem_cons, List.not_mem_nil, or_false] at h
    rcases h with rfl | rfl | rfl | rfl | rfl | rfl | rfl
    all_goals
      exact ⟨fun _ => rfl, fun _ => rfl, fun _ => rfl, fun _ => rfl,
        fun q _ => by cases q <;> rfl, warnings_knob value rfl⟩
  | appearance | timing | spatial =>
    simp only [Section.knobs, List.mem_cons, List.not_mem_nil, or_false] at h
    subst h
    exact ⟨fun _ => rfl, fun _ => rfl, fun _ => rfl, fun _ => rfl,
      fun q _ => by cases q <;> rfl, warnings_knob value rfl⟩

section NoKnob

variable {s : Section} {key : Text} (value : Text)
  (hrhythm : ¬(s = .behavior ∧ key = "rhythm".toList))
  (hknob : ∀ knob ∈ s.knobs, knob.key ≠ key)

include hknob in
theorem dial_no_knob {home : Section} {keys : List Text} (family : WordFamily)
    (hkeys : ∀ word ∈ keys, ∃ knob ∈ home.knobs, knob.key = word) :
    Slot.dial home keys family s key value = none := by
  refine if_neg ?_
  rintro ⟨rfl, hkey⟩
  obtain ⟨knob, hmem, heq⟩ := hkeys key hkey
  exact hknob knob hmem heq

include hrhythm hknob in
theorem writtenQuantity_no_knob (q : Quantity) : Slot.writtenQuantity q s key value = none := by
  cases q with
  | rhythm => exact if_neg hrhythm
  | speed =>
    have hdial : Slot.dial .timing ["speed".toList] .speed s key value = none :=
      dial_no_knob value hknob _ (by decide)
    have hword : Slot.rhythmWord s key value = none := if_neg hrhythm
    show (Slot.dial .timing _ _ s key value).or (Slot.rhythmWord s key value) = none
    rw [hdial, hword]
    rfl
  | style => rfl
  | _ => exact dial_no_knob value hknob _ (by decide)

/-- Every key that is read through a family is a knob, but for the rhythm. -/
theorem family_knob : ∀ row ∈ families,
    (row.1 = .behavior ∧ row.2.1 = "rhythm".toList) ∨ ∃ knob ∈ row.1.knobs, knob.key = row.2.1 := by
  decide

include hrhythm hknob in
theorem find?_families_no_knob :
    families.find? (fun (home, word, _) => home = s ∧ word = key) = none := by
  refine List.find?_eq_none.mpr ?_
  rintro ⟨home, word, family⟩ hrow hhere
  obtain ⟨rfl, rfl⟩ : home = s ∧ word = key := by simpa using hhere
  rcases family_knob _ hrow with h | ⟨knob, hmem, heq⟩
  · exact hrhythm h
  · exact hknob knob hmem heq

end NoKnob

theorem follows_knobMeaning {s : Section} {key value : Text}
    (heffect : Slot.effect.written s key value = none)
    (hname : Slot.name.written s key value = none)
    (hcolors : Slot.colors.written s key value = none)
    (hbackground : Slot.background.written s key value = none)
    (hrhythm : ¬(s = .behavior ∧ key = "rhythm".toList)) :
    Follows s key value (s.knobMeaning key value) := by
  unfold Section.knobMeaning
  cases hfind : s.knobs.find? fun knob => knob.key = key with
  | some knob =>
    have hkey : knob.key = key := by simpa using List.find?_some hfind
    subst hkey
    exact follows_knob (List.mem_of_find?_eq_some hfind) value
  | none =>
    have hknob : ∀ knob ∈ s.knobs, knob.key ≠ key := fun knob hmem => by
      simpa using List.find?_eq_none.mp hfind knob hmem
    -- An unknown scheme is warned of only where colours are written, and here none are.
    have hscheme : ¬(s = .appearance ∧
        (key = "color_scheme".toList ∨ key = "palette".toList) ∧ Color.scheme? value = none) := by
      rintro ⟨rfl, rfl | rfl, -⟩ <;> cases hcolors
    have hwarning : entryWarning s key value = none := by
      simp only [entryWarning, find?_families_no_knob hrhythm hknob, if_neg hscheme]
    exact ⟨Slot.takes_nothing heffect, Slot.takes_nothing hname, Slot.takes_nothing hcolors,
      Slot.takes_nothing hbackground,
      fun q => Slot.takes_nothing (writtenQuantity_no_knob value hrhythm hknob q),
      by rw [hwarning]; rfl⟩

theorem follows_root (key value : Text) :
    Follows .root key value (Section.rootMeaning key value) := by
  by_cases heffect : key = "effect".toList
  · subst heffect
    exact ⟨fun _ => rfl, fun _ => rfl, fun _ => rfl, fun _ => rfl,
      fun q _ => by cases q <;> rfl, rfl⟩
  have hnoEffect : Slot.effect.written .root key value = none := if_neg fun h => heffect h.2
  unfold Section.rootMeaning
  rw [if_neg heffect]
  by_cases hname : (key = "name".toList ∨ key = "description".toList) ∧ value ≠ []
  · have hwritten : Slot.name.written .root key value = some (some value) := if_pos ⟨rfl, hname⟩
    rw [if_pos hname]
    refine ⟨fun p => ?_, fun p => ?_, fun _ => rfl, fun _ => rfl,
      fun q _ => by cases q <;> rfl, rfl⟩
    · rw [hnoEffect]; rfl
    · rw [hwritten]; rfl
  · rw [if_neg hname]
    exact follows_knobMeaning hnoEffect (if_neg fun h => hname h.2) rfl rfl (by rintro ⟨⟨⟩, -⟩)

theorem follows_rhythm (value : Text) :
    Follows .behavior "rhythm".toList value (Section.rhythmMeaning value) := by
  have hwarning : entryWarning .behavior "rhythm".toList value = _ :=
    entryWarning_of_family value rfl
  have hnumber : (Slot.quantity .rhythm).written .behavior "rhythm".toList value =
      match WordFamily.rhythm.resolve value with
      | .number v => some v
      | .word _ | .fallback _ => none := rfl
  have hword : (Slot.quantity .speed).written .behavior "rhythm".toList value =
      match WordFamily.rhythm.resolve value with
      | .number _ => none
      | .word v | .fallback v => some v := rfl
  -- Which of the two slots is written depends on how the value was read.
  unfold Section.rhythmMeaning
  cases hread : WordFamily.rhythm.resolve value
  all_goals
    rw [hread] at hwarning hnumber hword
    refine ⟨fun _ => rfl, fun _ => rfl, fun _ => rfl, fun _ => rfl, fun q p => ?_, ?_⟩
    · cases q with
      | rhythm => rw [hnumber]; rfl
      | speed => rw [hword]; rfl
      | _ => rfl
    · rw [hwarning]; rfl

theorem follows_scheme {key : Text} (hkey : key = "color_scheme".toList ∨ key = "palette".toList)
    (value : Text) : Follows .appearance key value (Section.schemeMeaning value) := by
  have hwarning : entryWarning .appearance key value =
      if Color.scheme? value = none then some (.unknownScheme value) else none := by
    have hfind : families.find? (fun (home, word, _) => home = .appearance ∧ word = key) = none := by
      rcases hkey with rfl | rfl <;> rfl
    rw [entryWarning, hfind]
    exact if_congr ⟨fun h => h.2.2, fun h => ⟨rfl, hkey, h⟩⟩ rfl rfl
  rcases hkey with rfl | rfl
  all_goals
    refine ⟨fun _ => rfl, fun _ => rfl, fun _ => rfl, fun _ => rfl,
      fun q _ => by cases q <;> rfl, ?_⟩
    rw [hwarning, Section.schemeMeaning]
    cases Color.scheme? value <;> rfl

theorem follows_appearance (key value : Text) :
    Follows .appearance key value (Section.appearanceMeaning key value) := by
  unfold Section.appearanceMeaning
  split_ifs with hcolor hcolors hscheme hbackground
  · subst hcolor
    exact ⟨fun _ => rfl, fun _ => rfl, fun _ => rfl, fun _ => rfl,
      fun q _ => by cases q <;> rfl, rfl⟩
  · subst hcolors
    exact ⟨fun _ => rfl, fun _ => rfl, fun _ => rfl, fun _ => rfl,
      fun q _ => by cases q <;> rfl, rfl⟩
  · exact follows_scheme hscheme value
  · rcases hbackground with rfl | rfl
    all_goals
      exact ⟨fun _ => rfl, fun _ => rfl, fun _ => rfl, fun _ => rfl,
        fun q _ => by cases q <;> rfl, rfl⟩
  · have hnoColors : Slot.colors.written .appearance key value = none := by
      simp only [Slot.colors, if_true, if_neg hcolor, if_neg hcolors, if_neg hscheme]
    exact follows_knobMeaning rfl rfl hnoColors (if_neg fun h => hbackground h.2)
      (by rintro ⟨⟨⟩, -⟩)

theorem follows_meaning (s : Section) (key value : Text) :
    Follows s key value (s.meaning key value) := by
  cases s with
  | root => exact follows_root key value
  | behavior =>
    rw [Section.meaning]
    by_cases hrhythm : key = "rhythm".toList
    · rw [if_pos hrhythm, hrhythm]
      exact follows_rhythm value
    · rw [if_neg hrhythm]
      exact follows_knobMeaning rfl rfl rfl rfl fun h => hrhythm h.2
  | appearance => exact follows_appearance key value
  | timing | spatial | other => exact follows_knobMeaning rfl rfl rfl rfl (by rintro ⟨⟨⟩, -⟩)

/-! ## Many lines -/

/-- What the entries of some lines that begin in a given section mean. -/
def meant (s : Section) (lines : List Line) : List Meaning :=
  (entries s lines).map fun (s, key, value) => s.meaning key value

def after (s : Section) (p : Pattern) (lines : List Line) : Pattern :=
  (meant s lines).foldl (fun p m => m.apply p) p

theorem foldl_filterMap_change (ms : List Meaning) (p : Pattern) :
    (ms.filterMap Meaning.change).foldl Change.apply p = ms.foldl (fun p m => m.apply p) p := by
  induction ms generalizing p with
  | nil => rfl
  | cons m rest ih =>
    rw [List.filterMap_cons, List.foldl_cons, ← ih, Meaning.apply]
    cases m.change <;> rfl

theorem pattern_eq_after (text : Text) : pattern text = after .root start (Line.scan text) :=
  foldl_filterMap_change (meanings text) start

namespace Slot

variable {α : Type} (slot : Slot α)

/-- The line at the position writes the value, and no line after it writes to the slot. -/
def LastWriter (s : Section) (lines : List Line) (i : Nat) (x : α) : Prop :=
  said slot.written s lines i = some x ∧ ∀ j, i < j → said slot.written s lines j = none

/-- The lines take the slot from its first value to its last one: to the value of the last writer,
or nowhere if no line writes to it. -/
def Decided (s : Section) (lines : List Line) (first last : α) : Prop :=
  (∃ i, slot.LastWriter s lines i last) ∨
    (∀ i, said slot.written s lines i = none) ∧ last = first

variable {slot} {s : Section} {lines : List Line} {first last : α}

theorem decided_nil : slot.Decided s [] first first :=
  .inr ⟨said_nil slot.written s, rfl⟩

theorem Decided.cons {s' : Section} {line : Line}
    (hsucc : ∀ i, said slot.written s (line :: lines) (i + 1) = said slot.written s' lines i)
    (h : slot.Decided s' lines ((said slot.written s (line :: lines) 0).getD first) last) :
    slot.Decided s (line :: lines) first last := by
  rcases h with ⟨i, hwrites, hlater⟩ | ⟨hnone, rfl⟩
  · refine .inl ⟨i + 1, (hsucc i).trans hwrites, fun j hj => ?_⟩
    obtain ⟨k, rfl⟩ : ∃ k, j = k + 1 := ⟨j - 1, by omega⟩
    rw [hsucc]
    exact hlater k (by omega)
  · -- No later line writes, so it is up to this one.
    have hafter (k : Nat) : said slot.written s (line :: lines) (k + 1) = none :=
      (hsucc k).trans (hnone k)
    cases hzero : said slot.written s (line :: lines) 0 with
    | some x =>
      refine .inl ⟨0, hzero, fun j hj => ?_⟩
      obtain ⟨k, rfl⟩ : ∃ k, j = k + 1 := ⟨j - 1, by omega⟩
      exact hafter k
    | none =>
      refine .inr ⟨fun i => ?_, rfl⟩
      cases i with
      | zero => exact hzero
      | succ k => exact hafter k

theorem decided_after (h : ∀ s key value, slot.Takes s key value (s.meaning key value))
    (s : Section) (p : Pattern) (lines : List Line) :
    slot.Decided s lines (slot.get p) (slot.get (after s p lines)) := by
  -- A heading changes the section and an entry the pattern, so both stay free.
  induction lines generalizing s p with
  | nil => exact decided_nil
  | cons line rest ih =>
    cases line with
    | heading name =>
      exact (ih (Section.ofHeading name) p).cons (said_heading_succ slot.written s rest name)
    | entry key value =>
      refine Decided.cons (said_entry_succ slot.written s rest key value) ?_
      rw [said_entry_zero, ← h s (Text.lower key) value p]
      exact ih s _

theorem LastWriter.unique {i j : Nat} {x y : α} (hi : slot.LastWriter s lines i x)
    (hj : slot.LastWriter s lines j y) : x = y := by
  have hle : ¬i < j := fun h => by simpa [hi.2 j h] using hj.1
  have hge : ¬j < i := fun h => by simpa [hj.2 i h] using hi.1
  obtain rfl : i = j := by omega
  exact Option.some.inj (hi.1.symm.trans hj.1)

variable (slot s lines) in
/-- What the last line that writes to the slot gives it, looking from the last line up. -/
def last? : Option α := (List.range lines.length).reverse.findSome? (said slot.written s lines)

theorem LastWriter.last?_eq {i : Nat} {x : α} (h : slot.LastWriter s lines i x) :
    slot.last? s lines = some x := by
  -- Going up from below the last line, nothing is found before the writer.
  have hfind (n : Nat) (hn : i < n) :
      (List.range n).reverse.findSome? (said slot.written s lines) = some x := by
    induction n with
    | zero => omega
    | succ n ih =>
      rw [List.range_succ, List.reverse_append, List.reverse_singleton, List.singleton_append,
        List.findSome?_cons]
      by_cases hlast : i = n
      · rw [← hlast, h.1]
      · rw [h.2 n (by omega)]
        exact ih (by omega)
  have hlength : i < lines.length := by
    by_contra hle
    have hnone : said slot.written s lines i = none := by
      rw [said, List.getElem?_eq_none (by omega)]
    cases hnone.symm.trans h.1
  exact hfind lines.length hlength

theorem Decided.eq_last? (h : slot.Decided s lines first last) :
    last = (slot.last? s lines).getD first := by
  rcases h with ⟨i, hlast⟩ | ⟨hnone, rfl⟩
  · rw [hlast.last?_eq, Option.getD_some]
  · have hfind : slot.last? s lines = none :=
      List.findSome?_eq_none_iff.mpr fun i _ => hnone i
    rw [hfind, Option.getD_none]

end Slot

theorem flatMap_warnings_meant (s : Section) (lines : List Line) :
    (meant s lines).flatMap Meaning.warnings =
      (List.range lines.length).filterMap (said entryWarning s lines) := by
  induction lines generalizing s with
  | nil => rfl
  | cons line rest ih =>
    rw [List.length_cons, List.range_succ_eq_map, List.filterMap_cons, List.filterMap_map]
    cases line with
    | heading name =>
      have hsucc : said entryWarning s (.heading name :: rest) ∘ Nat.succ =
          said entryWarning (Section.ofHeading name) rest :=
        funext fun i => said_heading_succ entryWarning s rest name i
      rw [said_heading_zero, hsucc, ← ih]
      rfl
    | entry key value =>
      have hsucc : said entryWarning s (.entry key value :: rest) ∘ Nat.succ =
          said entryWarning s rest :=
        funext fun i => said_entry_succ entryWarning s rest key value i
      have hmeant : meant s (.entry key value :: rest) =
          s.meaning (Text.lower key) value :: meant s rest := rfl
      rw [said_entry_zero, hsucc, ← ih, hmeant, List.flatMap_cons,
        (follows_meaning s (Text.lower key) value).warnings]
      cases entryWarning s (Text.lower key) value <;> rfl

/-- Every field of the pattern comes from its last writer among the lines. -/
structure LastWritten (lines : List Line) (p : Pattern) : Prop where
  effect : Slot.effect.Decided .root lines Slot.effect.initial p.effect
  name : Slot.name.Decided .root lines Slot.name.initial p.name
  colors : Slot.colors.Decided .root lines Slot.colors.initial p.colors
  background : Slot.background.Decided .root lines Slot.background.initial p.background
  quantity (q : Quantity) :
    (Slot.quantity q).Decided .root lines (Slot.quantity q).initial (p.get q)

theorem lastWritten_after (lines : List Line) : LastWritten lines (after .root start lines) where
  effect := Slot.decided_after (fun s key value => (follows_meaning s key value).effect) _ _ _
  name := Slot.decided_after (fun s key value => (follows_meaning s key value).name) _ _ _
  colors := Slot.decided_after (fun s key value => (follows_meaning s key value).colors) _ _ _
  background :=
    Slot.decided_after (fun s key value => (follows_meaning s key value).background) _ _ _
  quantity q := by
    have hstart : (Slot.quantity q).get start = (Slot.quantity q).initial := by cases q <;> rfl
    rw [← hstart]
    exact Slot.decided_after (fun s key value => (follows_meaning s key value).quantity q) _ _ _

theorem effect_eq_nil_iff {lines : List Line} {p : Pattern} (h : LastWritten lines p) :
    p.effect = [] ↔ (∃ i, Slot.effect.LastWriter .root lines i []) ∨
      ∀ i, said Slot.effect.written .root lines i = none := by
  constructor
  · intro hnil
    rcases h.effect with hlast | ⟨hnone, -⟩
    · exact .inl (hnil ▸ hlast)
    · exact .inr hnone
  · rintro (⟨i, hlast⟩ | hnone) <;> rcases h.effect with ⟨j, hj⟩ | ⟨-, heq⟩
    · exact hj.unique hlast
    · exact heq
    · cases (hnone j).symm.trans hj.1
    · exact heq

end Intent

/-- Reading intent text: every field has the value of the last line that writes to it and otherwise
the value it starts with, the lines warn in order, and a text is refused only for want of an
effect. -/
theorem intent_last_writer (text : Text) :
    (∀ p warnings, Intent.read text = some (p, warnings) →
      Intent.LastWritten (Intent.Line.scan text) p ∧
        warnings = (List.range (Intent.Line.scan text).length).filterMap
          (Intent.said Intent.entryWarning .root (Intent.Line.scan text))) ∧
      (Intent.read text = none ↔
        (∃ i, Intent.Slot.effect.LastWriter .root (Intent.Line.scan text) i []) ∨
          ∀ i, Intent.said Intent.Slot.effect.written .root (Intent.Line.scan text) i = none) := by
  have hlast : Intent.LastWritten (Intent.Line.scan text) (Intent.pattern text) := by
    rw [Intent.pattern_eq_after]
    exact Intent.lastWritten_after _
  rw [← Intent.effect_eq_nil_iff hlast]
  have hread : Intent.read text =
      if (Intent.pattern text).effect = [] then none
      else some (Intent.pattern text, Intent.warnings text) := by
    rw [Intent.read]
    exact if_congr List.isEmpty_iff rfl rfl
  rw [hread]
  split_ifs with hnil
  · exact ⟨fun p warnings h => (nomatch h), iff_of_true rfl hnil⟩
  · refine ⟨fun p warnings h => ?_, iff_of_false (by simp) hnil⟩
    obtain ⟨rfl, rfl⟩ := Prod.mk.inj (Option.some.inj h)
    exact ⟨hlast, Intent.flatMap_warnings_meant .root _⟩

/-- A rhythm set by a number and then by an unknown word, colours given three ways and last by a list
with a gap in it, a colour outside its section, and the root opened again. -/
def moody : Text :=
  "effect: fire\nBEHAVIOR:\n rhythm: 9\n Rhythm: zippy\n color: red\n".toList ++
    "appearance:\n palette: nope\n color: green\n colors: [Red, , 'blue']\n".toList ++
      "root:\nspeed: fast\nEffect: wave".toList

def moodyPattern : Pattern where
  effect := "wave".toList
  colors := ["#FF0000".toList, "#0000FF".toList]
  brightness := 200
  speed := 128
  rhythm := 9

def moodyWarnings : List Warning :=
  [.unknownWord "rhythm".toList "zippy".toList 128, .unknownScheme "nope".toList]

theorem intent_last_writer_moody :
    Intent.read moody = some (moodyPattern, moodyWarnings) ∧
      Intent.LastWritten (Intent.Line.scan moody) moodyPattern ∧
        moodyWarnings = (List.range (Intent.Line.scan moody).length).filterMap
          (Intent.said Intent.entryWarning .root (Intent.Line.scan moody)) := by
  have hread : Intent.read moody = some (moodyPattern, moodyWarnings) := by decide +kernel
  exact ⟨hread, (intent_last_writer moody).1 moodyPattern moodyWarnings hread⟩

end LedPattern
