import LedPattern.Proofs.Compile
import LedPattern.Proofs.Intent.LastWriter
import LedPattern.Proofs.Pattern.Encode
/-!
Only the effect can make a text fail. Intent text compiles if the last effect that it gives at the
root is one of the known words, whatever else stands in it; structured text has to be a pattern, and
then the effect of that pattern decides in the same way. The effect is looked at in three places, and
`DecidedBy` says once what they come to.
-/
namespace LedPattern

namespace Effect

/-- The words for the effects: two of them go by two. -/
def words : List Text :=
  ["solid".toList, "pulse".toList, "breathe".toList, "sparkle".toList, "gradient".toList,
    "fire".toList, "candle".toList, "wave".toList, "chase".toList, "rainbow".toList,
    "scanner".toList, "wipe".toList]

theorem isSome_ofName?_iff (name : Text) :
    (ofName? name).isSome = true ↔ Text.lower (Text.trim name) ∈ words := by
  show (spellings.lookup (Text.fold name)).isSome = true ↔ Text.fold name ∈ words
  constructor
  · intro hsome
    obtain ⟨effect, hlookup⟩ := Option.isSome_iff_exists.mp hsome
    obtain ⟨before, after, hspellings, -⟩ := List.lookup_eq_some_iff.mp hlookup
    have hwords : ∀ p ∈ spellings, p.1 ∈ words := by decide
    apply hwords (Text.fold name, effect)
    rw [hspellings]
    exact List.mem_append_right before List.mem_cons_self
  · intro hword
    have hspelled : ∀ w ∈ words, (spellings.lookup w).isSome = true := by decide
    exact hspelled _ hword

end Effect

/-- The result is what a name for the effect leads to, if there is a name at all. -/
structure DecidedBy (effect : Option Text) (result : Except CompileError Compiled) : Prop where
  compiles : (∃ c, result = .ok c) ↔
    ∃ name, effect = some name ∧ Text.lower (Text.trim name) ∈ Effect.words
  missing : result = .error (.badEffect .missing) ↔
    effect = none ∨ ∃ name, effect = some name ∧ Text.trim name = []
  /-- The name is reported without the blanks around it, and otherwise as it was given. -/
  unknown (reported : Text) : result = .error (.badEffect (.unknown reported)) ↔
    ∃ name, effect = some name ∧ Text.trim name ≠ [] ∧
      Text.lower (Text.trim name) ∉ Effect.words ∧ reported = Text.trim name
  structured (fault : Json.Fault) : result ≠ .error (.badStructure fault)

namespace DecidedBy

theorem of_missing {effect : Option Text}
    (h : effect = none ∨ ∃ name, effect = some name ∧ Text.trim name = []) :
    DecidedBy effect (.error (.badEffect .missing)) := by
  have hname (name : Text) (hsome : effect = some name) : Text.trim name = [] := by
    rcases h with hnone | ⟨blank, hblank, htrim⟩
    · cases hnone.symm.trans hsome
    · obtain rfl : blank = name := Option.some.inj (hblank.symm.trans hsome)
      exact htrim
  refine ⟨iff_of_false (by rintro ⟨c, ⟨⟩⟩) ?_, iff_of_true rfl h,
    fun reported => iff_of_false (by rintro ⟨⟩) ?_, by rintro fault ⟨⟩⟩
  · rintro ⟨name, hsome, hword⟩
    rw [hname name hsome] at hword
    exact absurd hword (by decide)
  · rintro ⟨name, hsome, hne, -, -⟩
    exact hne (hname name hsome)

theorem of_word {name : Text} (h : Text.lower (Text.trim name) ∈ Effect.words) (c : Compiled) :
    DecidedBy (some name) (.ok c) := by
  have hne : Text.trim name ≠ [] := by
    intro hnil
    rw [hnil] at h
    exact absurd h (by decide)
  refine ⟨iff_of_true ⟨c, rfl⟩ ⟨name, rfl, h⟩, iff_of_false (by rintro ⟨⟩) ?_,
    fun reported => iff_of_false (by rintro ⟨⟩) ?_, by rintro fault ⟨⟩⟩
  · rintro (hnone | ⟨other, hsome, hnil⟩)
    · cases hnone
    · obtain rfl := Option.some.inj hsome
      exact hne hnil
  · rintro ⟨other, hsome, -, hword, -⟩
    obtain rfl := Option.some.inj hsome
    exact hword h

theorem of_unknown {name : Text} (hne : Text.trim name ≠ [])
    (h : Text.lower (Text.trim name) ∉ Effect.words) :
    DecidedBy (some name) (.error (.badEffect (.unknown (Text.trim name)))) := by
  refine ⟨iff_of_false (by rintro ⟨c, ⟨⟩⟩) ?_, iff_of_false (by rintro ⟨⟩) ?_,
    fun reported => ⟨?_, ?_⟩, by rintro fault ⟨⟩⟩
  · rintro ⟨other, hsome, hword⟩
    obtain rfl := Option.some.inj hsome
    exact h hword
  · rintro (hnone | ⟨other, hsome, hnil⟩)
    · cases hnone
    · obtain rfl := Option.some.inj hsome
      exact hne hnil
  · intro heq
    cases heq
    exact ⟨name, rfl, hne, h, rfl⟩
  · rintro ⟨other, hsome, -, -, rfl⟩
    obtain rfl := Option.some.inj hsome
    rfl

/-- Results that the same name decides are alike: two successes, or the same error twice. -/
theorem alike {effect : Option Text} {result result' : Except CompileError Compiled}
    (h : DecidedBy effect result) (h' : DecidedBy effect result') :
    (∃ c c', result = .ok c ∧ result' = .ok c') ∨ ∃ e, result = .error e ∧ result' = .error e := by
  cases result with
  | ok c =>
    obtain ⟨c', hc'⟩ := h'.compiles.mpr (h.compiles.mp ⟨c, rfl⟩)
    exact .inl ⟨c, c', rfl, hc'⟩
  | error e =>
    refine .inr ⟨e, rfl, ?_⟩
    cases e with
    | badStructure fault => exact absurd rfl (h.structured fault)
    | badEffect e =>
      cases e with
      | missing => exact h'.missing.mpr (h.missing.mp rfl)
      | unknown reported => exact (h'.unknown reported).mpr ((h.unknown reported).mp rfl)

end DecidedBy

/-- Where there is no name, the pattern has an empty one. -/
theorem decidedBy_of_draft {text : Text} {p : Pattern} {w : List Warning} {effect : Option Text}
    (h : (Source.detect text).draft = .ok (p, w)) (heffect : p.effect = effect.getD []) :
    DecidedBy effect (compile text) := by
  rw [compile_of_draft_ok h]
  by_cases hblank : Text.trim p.effect = []
  · have hmissing : p.effectOf = .error .missing := if_pos (List.isEmpty_iff.mpr hblank)
    rw [hmissing]
    apply DecidedBy.of_missing
    cases effect with
    | none => exact .inl rfl
    | some name =>
      obtain rfl : p.effect = name := heffect
      exact .inr ⟨p.effect, rfl, hblank⟩
  · -- Without a name the effect would be blank, so there is one, and the encoder judges it.
    obtain ⟨name, rfl⟩ : ∃ name, effect = some name := by
      cases effect with
      | none => exact absurd (heffect ▸ rfl) hblank
      | some name => exact ⟨name, rfl⟩
    obtain rfl : p.effect = name := heffect
    cases hname : Effect.ofName? p.effect with
    | some e =>
      have hword : Text.lower (Text.trim p.effect) ∈ Effect.words := by
        rw [← Effect.isSome_ofName?_iff, hname]
        rfl
      rw [Pattern.effectOf_eq_ok_iff.mpr hname]
      exact DecidedBy.of_word hword _
    | none =>
      have hword : Text.lower (Text.trim p.effect) ∉ Effect.words := by
        rw [← Effect.isSome_ofName?_iff, hname]
        exact Bool.false_ne_true
      have hunknown : p.effectOf = .error (.unknown (Text.trim p.effect)) := by
        rw [← Effect.ofName?_trim] at hname
        simp only [Pattern.effectOf, List.isEmpty_iff, if_neg hblank, hname]
      rw [hunknown]
      exact DecidedBy.of_unknown hblank hword

namespace Intent

/-- The value of the last entry at the root that gives an effect, if there is one. -/
def lastEffect? (text : Text) : Option Text := Slot.effect.last? .root (Line.scan text)

theorem effect_pattern (text : Text) : (pattern text).effect = (lastEffect? text).getD [] := by
  rw [pattern_eq_after]
  exact (lastWritten_after (Line.scan text)).effect.eq_last?

end Intent

theorem effect_decides :
    (∀ text : Text, (Text.trim text).head? ≠ some '\x7b' →
      DecidedBy (Intent.lastEffect? text) (compile text)) ∧
    (∀ text : Text, (Text.trim text).head? = some '\x7b' →
      ((∃ fault, compile text = .error (.badStructure fault)) ↔
        ∀ p, Pattern.ofJson (Text.trim text) ≠ .ok p) ∧
      ∀ p, Pattern.ofJson (Text.trim text) = .ok p → DecidedBy (some p.effect) (compile text)) ∧
    (∀ text text' : Text, (Text.trim text).head? ≠ some '\x7b' →
      (Text.trim text').head? ≠ some '\x7b' →
      Intent.lastEffect? text = Intent.lastEffect? text' →
        (∃ c c', compile text = .ok c ∧ compile text' = .ok c') ∨
          ∃ e, compile text = .error e ∧ compile text' = .error e) := by
  have hintent (text : Text) (hbrace : (Text.trim text).head? ≠ some '\x7b') :
      DecidedBy (Intent.lastEffect? text) (compile text) := by
    have hdetect : Source.detect text = .intent text := if_neg hbrace
    have hdraft : (Source.detect text).draft = .ok (Intent.pattern text, Intent.warnings text) := by
      rw [hdetect]
      rfl
    exact decidedBy_of_draft hdraft (Intent.effect_pattern text)
  refine ⟨hintent, ?_, ?_⟩
  · intro text hbrace
    have hdetect : Source.detect text = .structured (Text.trim text) := if_pos hbrace
    have hdraft : (Source.detect text).draft =
        (Pattern.ofJson (Text.trim text)).map fun p => (p, []) := by
      rw [hdetect]
      rfl
    cases hjson : Pattern.ofJson (Text.trim text) with
    | error fault =>
      rw [hjson] at hdraft
      exact ⟨iff_of_true ⟨fault, compile_of_draft_error hdraft⟩ (by rintro p ⟨⟩), by rintro p ⟨⟩⟩
    | ok p =>
      rw [hjson] at hdraft
      have hdecided : DecidedBy (some p.effect) (compile text) := decidedBy_of_draft hdraft rfl
      refine ⟨iff_of_false ?_ fun hnone => hnone p rfl, ?_⟩
      · rintro ⟨fault, hfault⟩
        exact hdecided.structured fault hfault
      · intro q hq
        obtain rfl := Except.ok.inj hq
        exact hdecided
  · intro text text' hbrace hbrace' hsame
    exact (hintent text hbrace).alike (hsame ▸ hintent text' hbrace')

/-- An effect that is corrected in the end, after a heading that opens the root again, among all that
can go wrong besides. -/
def stumbling : Text :=
  ("effect: x\nmood:\n effect: y\nappearance:\n color: z\n brightness: 9999999999\n" ++
    "Root:\nstray\n Effect: \" FiRe \" # w").toList

/-- Two texts that have nothing in common but an effect that is none. -/
def blinking : Text := "effect: fire\neffect:  Blink".toList

def blinkingToo : Text := "\n\nbehavior:\n effect: wave\n:\n EFFECT: 'Blink'\nname: x".toList

/-- Structured text with an unknown effect, and one whose effect is no text. -/
def strobing : Text := " \x7b\"effect\":\" Strobe \",\"colors\":[\"nope\"]\x7d".toList

def misfit : Text := "\x7b\"effect\":1\x7d".toList

theorem effect_decides_stumbling :
    (Intent.lastEffect? stumbling = some " FiRe ".toList ∧ ∃ c, compile stumbling = .ok c) ∧
    compile strobing = .error (.badEffect (.unknown "Strobe".toList)) ∧
    (∃ fault, compile misfit = .error (.badStructure fault)) ∧
    Intent.lastEffect? blinking = some "Blink".toList ∧
    compile blinking = .error (.badEffect (.unknown "Blink".toList)) ∧
    ((∃ c c', compile blinking = .ok c ∧ compile blinkingToo = .ok c') ∨
      ∃ e, compile blinking = .error e ∧ compile blinkingToo = .error e) := by
  have hstumbling : Intent.lastEffect? stumbling = some " FiRe ".toList := by decide +kernel
  have hblinking : Intent.lastEffect? blinking = some "Blink".toList := by decide +kernel
  have hblinkingToo : Intent.lastEffect? blinkingToo = some "Blink".toList := by decide +kernel
  refine ⟨⟨hstumbling, ?_⟩, ?_, ?_, hblinking, ?_, ?_⟩
  · exact (effect_decides.1 stumbling (by decide +kernel)).compiles.mpr ⟨_, hstumbling, by decide⟩
  · have hjson : Pattern.ofJson (Text.trim strobing) =
        .ok { effect := " Strobe ".toList, colors := ["nope".toList] } := by decide
    exact (((effect_decides.2.1 strobing (by decide)).2 _ hjson).unknown _).mpr
      ⟨_, rfl, by decide, by decide, by decide⟩
  · refine (effect_decides.2.1 misfit (by decide)).1.mpr ?_
    have hjson : Pattern.ofJson (Text.trim misfit) =
        .error (.wrongKind (.integer 1) .string) := by decide
    intro p hp
    cases hjson.symm.trans hp
  · exact ((effect_decides.1 blinking (by decide)).unknown _).mpr
      ⟨_, hblinking, by decide, by decide, by decide⟩
  · exact effect_decides.2.2 blinking blinkingToo (by decide) (by decide)
      (hblinking.trans hblinkingToo.symm)

end LedPattern
