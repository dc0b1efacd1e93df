import LedPattern.Proofs.Compile
import LedPattern.Proofs.Intent.LastWriter
import LedPattern.Proofs.Pattern.Labels
import LedPattern.Proofs.Program.Layout
/-!
Words that reach the device. A quantity whose last line gives a word of its family has the value of
that word in the pattern, and the byte of the program is that value, with two exceptions: the words
`frozen` and `none` stand for zero, and zero is what a pattern has where nothing was said. A speed
of zero, and under a scanner a tail of zero, are replaced by their defaults as if the line were not
there.
-/
namespace LedPattern

/-- The byte in which a program holds a quantity, if it holds it. -/
def Program.held? (m : Program) : Quantity → Option UInt8
  | .brightness => some m.brightness
  | .speed => some m.speed
  | q => (m.effect.labels.toList.zip m.params.toList).lookup (some q)

theorem lookup_zip_map {α β : Type} [BEq α] [LawfulBEq α] (f : α → β) {a : α} {l : List α}
    (h : a ∈ l) : (l.zip (l.map f)).lookup a = some (f a) := by
  induction l with
  | nil => cases h
  | cons b rest ih =>
    rw [List.map_cons, List.zip_cons_cons, List.lookup_cons]
    by_cases hab : a = b
    · rw [hab, beq_self_eq_true]
    · rw [beq_false_of_ne hab]
      exact ih ((List.mem_cons.mp h).resolve_left hab)

theorem Pattern.held?_programWith (p : Pattern) {effect : Effect} {q : Quantity}
    (h : q ∈ effect.encoded) :
    (p.programWith effect).held? q = some (p.labelled effect q) := by
  have hparam (hlabel : some q ∈ effect.labels.toList) :
      (effect.labels.toList.zip (p.params effect).toList).lookup (some q) =
        some (p.labelled effect q) := by
    rw [toList_params, lookup_zip_map _ hlabel, slotByte]
  cases q with
  | brightness => rfl
  | speed => rfl
  | _ =>
    have hlabel := Effect.mem_encoded_iff.mp h
    simp only [reduceCtorEq, false_or] at hlabel
    exact hparam hlabel

/-! ## Words and the quantities that they set -/

theorem WordFamily.resolve_of_word {family : WordFamily} {value : Text} {v : Int32}
    (h : family.word? (Text.lower (Text.trim value)) = some v) : family.resolve value = .word v := by
  have hword : family.word? (Text.fold value) = some v := h
  simp only [resolve, hword]

namespace Intent

/-- The quantity that a word of each family sets. Words for a rhythm set the speed. -/
def vocabulary : List (WordFamily × Quantity) :=
  [(.flameHeight, .cooling), (.sparkFrequency, .sparking), (.density, .density),
    (.waveCount, .waveCount), (.rhythm, .speed), (.eyeSize, .eyeSize), (.tailLength, .tailLength),
    (.brightness, .brightness), (.speed, .speed), (.direction, .direction)]

/-- The last line that writes to the quantity has a word of the family that belongs to its key, in
capitals or not and with blanks around it or not, and the family has the value for that word. -/
def LastWord (lines : List Line) (q : Quantity) (v : Int32) : Prop :=
  ∃ (i : Nat) (key value : Text) (family : WordFamily) (x : Int32),
    lines[i]? = some (.entry key value) ∧
    (inForce .root (lines.take i), Text.lower key, family) ∈ families ∧
    family.word? (Text.lower (Text.trim value)) = some v ∧
    (Slot.quantity q).LastWriter .root lines i x

/-- A section and a key belong to one family only. -/
theorem find?_families {row : Section × Text × WordFamily} (h : row ∈ families) :
    families.find? (fun (home, word, _) => home = row.1 ∧ word = row.2.1) = some row := by
  simp only [families, List.mem_cons, List.not_mem_nil, or_false] at h
  rcases h with rfl | rfl | rfl | rfl | rfl | rfl | rfl | rfl | rfl | rfl | rfl <;> rfl

section Written

variable {s : Section} {key value : Text} {family : WordFamily} {x : Int32}
  (hrow : (s, key, family) ∈ families)
include hrow

theorem eq_of_mem_families {family' : WordFamily} (hrow' : (s, key, family') ∈ families) :
    family = family' := by
  have hfind : some (s, key, family) = some (s, key, family') := by
    rw [← find?_families hrow, ← find?_families hrow']
  exact congrArg (fun row => row.2.2) (Option.some.inj hfind)

theorem family_eq_rhythm (h : s = .behavior ∧ key = "rhythm".toList) : family = .rhythm := by
  obtain ⟨rfl, rfl⟩ := h
  exact eq_of_mem_families hrow (by simp [families])

theorem written_dial {home : Section} {keys : List Text} {family' : WordFamily} {q : Quantity}
    (hvocabulary : (family', q) ∈ vocabulary) (hkeys : ∀ k ∈ keys, (home, k, family') ∈ families)
    (h : Slot.dial home keys family' s key value = some x) :
    (family, q) ∈ vocabulary ∧ (family.resolve value).value = x := by
  rw [Slot.dial] at h
  split at h
  next hhere =>
    obtain ⟨rfl, hkey⟩ := hhere
    obtain rfl := eq_of_mem_families hrow (hkeys key hkey)
    exact ⟨hvocabulary, Option.some.inj h⟩
  next => cases h

theorem written_rhythmWord (h : Slot.rhythmWord s key value = some x) :
    (family, .speed) ∈ vocabulary ∧ (family.resolve value).value = x := by
  rw [Slot.rhythmWord] at h
  split at h
  next hhere =>
    obtain rfl := family_eq_rhythm hrow hhere
    refine ⟨by simp [vocabulary], ?_⟩
    split at h
    next => cases h
    next hread => rw [hread]; exact Option.some.inj h
    next hread => rw [hread]; exact Option.some.inj h
  next => cases h

/-- What a word writes is its value, to the quantity of its family. -/
theorem written_word {q : Quantity} {v : Int32} (hword : family.resolve value = .word v)
    (h : Slot.writtenQuantity q s key value = some x) : (family, q) ∈ vocabulary ∧ x = v := by
  have hvalue {r : Quantity} (h : (family, r) ∈ vocabulary ∧ (family.resolve value).value = x) :
      (family, r) ∈ vocabulary ∧ x = v := by
    rw [hword] at h
    exact ⟨h.1, h.2.symm⟩
  cases q with
  | rhythm =>
    have hnumber : Slot.rhythmNumber s key value = some x := h
    rw [Slot.rhythmNumber] at hnumber
    split at hnumber
    next hhere =>
      -- Only a number is written to the rhythm itself.
      obtain rfl := family_eq_rhythm hrow hhere
      rw [hword] at hnumber
      cases hnumber
    next => cases hnumber
  | speed =>
    have heither := Option.or_eq_some_iff.mp h
    rcases heither with hdial | ⟨-, hrhythm⟩
    · exact hvalue (written_dial hrow (by simp [vocabulary]) (by simp [families]) hdial)
    · exact hvalue (written_rhythmWord hrow hrhythm)
  | style => cases h
  | _ => exact hvalue (written_dial hrow (by simp [vocabulary]) (by simp [families]) h)

end Written

theorem LastWord.exists_lastWriter {lines : List Line} {q : Quantity} {v : Int32}
    (h : LastWord lines q v) :
    (∃ i, (Slot.quantity q).LastWriter .root lines i v) ∧
      ∃ family w, (family, q) ∈ vocabulary ∧ (w, v) ∈ family.words := by
  obtain ⟨i, key, value, family, x, hline, hrow, hword, hlast⟩ := h
  have hwritten : Slot.writtenQuantity q (inForce .root (lines.take i)) (Text.lower key) value =
      some x := by
    have hsaid := hlast.1
    rw [said, hline] at hsaid
    exact hsaid
  obtain ⟨hvocabulary, rfl⟩ := written_word hrow (WordFamily.resolve_of_word hword) hwritten
  obtain ⟨before, after, hwords, -⟩ := List.lookup_eq_some_iff.mp hword
  have hmem : (Text.lower (Text.trim value), x) ∈ family.words := by
    rw [hwords]
    exact List.mem_append_right before List.mem_cons_self
  exact ⟨⟨i, hlast⟩, family, _, hvocabulary, hmem⟩

/-- Whether a line is the last writer is seen from the lines that there are. -/
theorem Slot.lastWriter_of_forall_lt {α : Type} {slot : Slot α} {s : Section} {lines : List Line}
    {i : Nat} {x : α} (hwrites : said slot.written s lines i = some x)
    (hlater : ∀ j < lines.length, i < j → said slot.written s lines j = none) :
    slot.LastWriter s lines i x := by
  refine ⟨hwrites, fun j hj => ?_⟩
  by_cases hlength : j < lines.length
  · exact hlater j hlength hj
  · rw [said, List.getElem?_eq_none (by omega)]

theorem get_pattern_of_lastWriter {text : Text} {q : Quantity} {i : Nat} {v : Int32}
    (h : (Slot.quantity q).LastWriter .root (Line.scan text) i v) : (pattern text).get q = v := by
  have hlast := ((lastWritten_after (Line.scan text)).quantity q).eq_last?
  rw [h.last?_eq, ← pattern_eq_after] at hlast
  exact hlast

end Intent

/-! ## Words and bytes -/

/-- A word that stands for zero, where the encoder takes zero for nothing. -/
def Unheard (effect : Effect) (q : Quantity) (v : Int32) : Prop :=
  v = 0 ∧ (q = .speed ∨ q = .tailLength ∧ effect = .scanner)

instance (effect : Effect) (q : Quantity) (v : Int32) : Decidable (Unheard effect q v) :=
  inferInstanceAs (Decidable (_ ∧ _))

/-- The byte that a word leads to. -/
def wordByte (effect : Effect) (q : Quantity) (v : Int32) : Int :=
  if Unheard effect q v then if q = .speed then 128 else 4 else v.toInt

theorem labelled_word : ∀ entry ∈ Intent.vocabulary, ∀ w ∈ entry.1.words,
    ∀ effect ∈ Effect.all, entry.2 ∈ effect.encoded →
      (((({} : Pattern).set entry.2 w.2).labelled effect entry.2).toNat : Int) =
        wordByte effect entry.2 w.2 := by
  decide +kernel

/-- A word for a quantity that the effect holds leads to its byte, whatever else the pattern says. -/
theorem labelled_of_word {p : Pattern} {effect : Effect} {family : WordFamily} {q : Quantity}
    {w : Text} {v : Int32} (hvocabulary : (family, q) ∈ Intent.vocabulary)
    (hword : (w, v) ∈ family.words) (hencoded : q ∈ effect.encoded) (hget : p.get q = v) :
    ((p.labelled effect q).toNat : Int) = wordByte effect q v := by
  have hrhythm : ∀ entry ∈ Intent.vocabulary, entry.2 ≠ .rhythm := by decide
  have hagree : Pattern.AgreeOn q.inputs p (({} : Pattern).set q v) := by
    intro r hr
    rcases Quantity.mem_inputs_iff.mp hr with rfl | ⟨hq, -⟩
    · rw [hget, Pattern.get_set, if_pos rfl]
    · exact absurd hq (hrhythm _ hvocabulary)
  rw [Pattern.labelled_of_agree hagree]
  exact labelled_word _ hvocabulary _ hword effect effect.mem_all hencoded

theorem word_reaches_device {text : Text} {c : Compiled} {q : Quantity} {v : Int32}
    (hbrace : (Text.trim text).head? ≠ some '\x7b') (hcompile : compile text = .ok c)
    (hword : Intent.LastWord (Intent.Line.scan text) q v) :
    ∃ m, Program.decode c.program.bytes = .ok m ∧
      (q ∈ m.effect.encoded → ∃ b, m.held? q = some b ∧
        ((b.toNat : Int) = v.toInt ↔ ¬Unheard m.effect q v) ∧
        (Unheard m.effect q v → b = if q = .speed then 128 else 4)) := by
  obtain ⟨effect, heffect, hprogram⟩ := exists_programWith_of_compile hcompile
  refine ⟨c.program, Program.decode_bytes _, ?_⟩
  rw [hprogram, Intent.pattern_of_compile hbrace hcompile]
  show q ∈ effect.encoded → _
  intro hencoded
  refine ⟨_, Pattern.held?_programWith _ hencoded, ?_⟩
  show (_ ↔ ¬Unheard effect q v) ∧ (Unheard effect q v → _)
  obtain ⟨⟨i, hlast⟩, family, w, hvocabulary, hmem⟩ := hword.exists_lastWriter
  have hbyte := labelled_of_word hvocabulary hmem hencoded
    (Intent.get_pattern_of_lastWriter hlast)
  rw [wordByte] at hbyte
  by_cases hunheard : Unheard effect q v
  · have hzero : v.toInt = 0 := by rw [hunheard.1]; rfl
    rw [if_pos hunheard] at hbyte
    refine ⟨iff_of_false ?_ (not_not_intro hunheard), fun _ => ?_⟩
    · split at hbyte <;> omega
    · rw [← UInt8.toNat_inj]
      split at hbyte
      next hspeed => rw [if_pos hspeed]; exact Int.ofNat_inj.mp hbyte
      next hspeed => rw [if_neg hspeed]; exact Int.ofNat_inj.mp hbyte
  · rw [if_neg hunheard] at hbyte
    exact ⟨iff_of_true hbyte hunheard, fun h => absurd h hunheard⟩

/-- A size that is given twice under two keys, and a speed that a rhythm takes the place of. -/
def prowling : Text :=
  ("effect: Scanner\nbehavior:\n eye_size: 9\n HEAD_SIZE: ' Huge ' # not 9\n" ++
    "timing:\n speed: frozen\nbehavior:\n rhythm: calm").toList

def prowlingPattern : Pattern where
  effect := "Scanner".toList
  brightness := 200
  speed := 70
  eyeSize := 8

theorem scan_prowling : Intent.Line.scan prowling =
    [.entry "effect".toList "Scanner".toList, .heading "behavior".toList,
      .entry "eye_size".toList "9".toList, .entry "HEAD_SIZE".toList " Huge ".toList,
      .heading "timing".toList, .entry "speed".toList "frozen".toList,
      .heading "behavior".toList, .entry "rhythm".toList "calm".toList] := by
  decide +kernel

theorem compile_prowling :
    compile prowling = .ok
      { pattern := prowlingPattern, program := prowlingPattern.programWith .scanner,
        warnings := [] } := by
  have hread : (Source.detect prowling).read = .ok (prowlingPattern, []) := by decide +kernel
  exact compile_of_read_of_ok hread (Pattern.encode_eq_ok_iff.mpr ⟨.scanner, by decide, rfl, rfl⟩)

theorem word_reaches_device_prowling :
    ∃ c m, compile prowling = .ok c ∧ Program.decode c.program.bytes = .ok m ∧
      Intent.LastWord (Intent.Line.scan prowling) .eyeSize 8 ∧ m.held? .eyeSize = some 8 := by
  have hword : Intent.LastWord (Intent.Line.scan prowling) .eyeSize 8 := by
    rw [scan_prowling]
    exact ⟨3, "HEAD_SIZE".toList, " Huge ".toList, .eyeSize, 8, rfl,
      List.mem_of_getElem? (i := 6) rfl, by decide,
      Intent.Slot.lastWriter_of_forall_lt (by decide) (by decide)⟩
  obtain ⟨m, hdecode, hheld⟩ := word_reaches_device (by decide +kernel) compile_prowling hword
  have hm : m.effect = .scanner := by
    rw [Program.decode_bytes] at hdecode
    exact congrArg Program.effect (Except.ok.inj hdecode).symm
  rw [hm] at hheld
  obtain ⟨b, hb, hvalue, -⟩ := hheld (by decide)
  have hbyte : (b.toNat : Int) = 8 := hvalue.mpr (by decide)
  obtain rfl : b = 8 := UInt8.toNat_inj.mp (Int.ofNat_inj.mp hbyte)
  exact ⟨_, m, compile_prowling, hdecode, hword, hb⟩

/-- A light that is asked to stand still, and a scanner that is asked to have no tail. -/
def frozenLight : Text := "effect: solid\ntiming:\n  speed: frozen".toList

def taillessScanner : Text := "effect: scanner\nbehavior:\n  tail_length: none".toList

/-- Both words are known, neither is warned of, and the device is told the default. -/
theorem word_reaches_device_frozen :
    (∃ c m, compile frozenLight = .ok c ∧ c.warnings = [] ∧
      Intent.LastWord (Intent.Line.scan frozenLight) .speed 0 ∧
      Program.decode c.program.bytes = .ok m ∧ m.held? .speed = some 128) ∧
    ∃ c m, compile taillessScanner = .ok c ∧ c.warnings = [] ∧
      Intent.LastWord (Intent.Line.scan taillessScanner) .tailLength 0 ∧
      Program.decode c.program.bytes = .ok m ∧ m.held? .tailLength = some 4 := by
  constructor
  · have hread : (Source.detect frozenLight).read =
        .ok ({ effect := "solid".toList, brightness := 200, speed := 0 }, []) := by decide +kernel
    have hscan : Intent.Line.scan frozenLight =
        [.entry "effect".toList "solid".toList, .heading "timing".toList,
          .entry "speed".toList "frozen".toList] := by decide +kernel
    refine ⟨_, _, compile_of_read_of_ok hread
      (Pattern.encode_eq_ok_iff.mpr ⟨.solid, by decide, rfl, rfl⟩), rfl, ?_,
      Program.decode_bytes _, rfl⟩
    rw [hscan]
    exact ⟨2, "speed".toList, "frozen".toList, .speed, 0, rfl, List.mem_of_getElem? (i := 9) rfl,
      by decide, Intent.Slot.lastWriter_of_forall_lt (by decide) (by decide)⟩
  · have hread : (Source.detect taillessScanner).read =
        .ok ({ effect := "scanner".toList, brightness := 200, speed := 128 }, []) := by
      decide +kernel
    have hscan : Intent.Line.scan taillessScanner =
        [.entry "effect".toList "scanner".toList, .heading "behavior".toList,
          .entry "tail_length".toList "none".toList] := by decide +kernel
    refine ⟨_, _, compile_of_read_of_ok hread
      (Pattern.encode_eq_ok_iff.mpr ⟨.scanner, by decide, rfl, rfl⟩), rfl, ?_,
      Program.decode_bytes _, rfl⟩
    rw [hscan]
    exact ⟨2, "tail_length".toList, "none".toList, .tailLength, 0, rfl,
      List.mem_of_getElem? (i := 7) rfl, by decide,
      Intent.Slot.lastWriter_of_forall_lt (by decide) (by decide)⟩

end LedPattern
