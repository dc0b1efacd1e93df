import LedPattern.Compile
import LedPattern.Proofs.Pattern.Encode
/-!
Compiling as its two steps: reading a text, and encoding the pattern that was read. What was read is
asked for its effect on the way, and what the encoder says of the effect is what the text is worth.
-/
namespace LedPattern

theorem compile_eq_ok_iff {text : Text} {c : Compiled} :
    compile text = .ok c ↔
      ∃ readWarnings encodeWarnings,
        (Source.detect text).read = .ok (c.pattern, readWarnings) ∧
        c.pattern.encode = .ok (c.program, encodeWarnings) ∧
        c.warnings = readWarnings ++ encodeWarnings := by
  rw [compile]
  constructor
  · intro h
    cases hread : (Source.detect text).read with
    | error e =>
      rw [hread] at h
      cases h
    | ok read =>
      obtain ⟨pattern, readWarnings⟩ := read
      cases hencode : pattern.encode with
      | error e =>
        simp only [hread, hencode] at h
        cases h
      | ok encoded =>
        obtain ⟨program, encodeWarnings⟩ := encoded
        simp only [hread, hencode] at h
        cases h
        exact ⟨readWarnings, encodeWarnings, rfl, hencode, rfl⟩
  · rintro ⟨readWarnings, encodeWarnings, hread, hencode, hwarnings⟩
    obtain ⟨pattern, program, warnings⟩ := c
    simp only at hread hencode hwarnings
    simp only [hread, hencode, hwarnings]

/-- Once a text has been read, its pattern alone decides whether it compiles. -/
theorem compile_of_read_of_error {text : Text} {p : Pattern} {w : List Warning} {e : EffectError}
    (hread : (Source.detect text).read = .ok (p, w)) (hencode : p.encode = .error e) :
    compile text = .error (.badEffect e) := by
  simp only [compile, hread, hencode]

theorem compile_of_read_of_ok {text : Text} {p : Pattern} {w ew : List Warning}
    {program : Program} (hread : (Source.detect text).read = .ok (p, w))
    (hencode : p.encode = .ok (program, ew)) :
    compile text = .ok { pattern := p, program, warnings := w ++ ew } := by
  simp only [compile, hread, hencode]

/-- What a source says, whether or not it says what its effect is. -/
def Source.draft : Source → Except Json.Fault (Pattern × List Warning)
  | structured t => (Pattern.ofJson t).map fun p => (p, [])
  | intent t => .ok (Intent.pattern t, Intent.warnings t)

theorem Source.read_of_draft_error {source : Source} {fault : Json.Fault}
    (h : source.draft = .error fault) : source.read = .error (.badStructure fault) := by
  cases source with
  | intent t => cases h
  | structured t =>
    rw [draft] at h
    cases hjson : Pattern.ofJson t with
    | ok p =>
      rw [hjson] at h
      cases h
    | error other =>
      rw [hjson] at h
      cases h
      simp only [read, hjson]

/-- Intent text without any effect is refused apart, but an empty effect is blank too. -/
theorem Source.read_of_draft_ok {source : Source} {p : Pattern} {w : List Warning}
    (h : source.draft = .ok (p, w)) :
    source.read =
      if (Text.trim p.effect).isEmpty then .error (.badEffect .missing) else .ok (p, w) := by
  cases source with
  | intent t =>
    obtain ⟨rfl, rfl⟩ := Prod.mk.inj (Except.ok.inj h)
    by_cases hempty : (Intent.pattern t).effect = []
    · have hread : Intent.read t = none := if_pos (List.isEmpty_iff.mpr hempty)
      have htrim : (Text.trim (Intent.pattern t).effect).isEmpty = true := by
        rw [hempty]
        rfl
      simp only [read, hread, if_pos htrim]
    · have hread : Intent.read t = some (Intent.pattern t, Intent.warnings t) :=
        if_neg fun hnil => hempty (List.isEmpty_iff.mp hnil)
      simp only [read, hread]
  | structured t =>
    rw [draft] at h
    cases hjson : Pattern.ofJson t with
    | error fault =>
      rw [hjson] at h
      cases h
    | ok q =>
      rw [hjson] at h
      obtain ⟨rfl, rfl⟩ := Prod.mk.inj (Except.ok.inj h)
      simp only [read, hjson]

theorem compile_of_draft_error {text : Text} {fault : Json.Fault}
    (h : (Source.detect text).draft = .error fault) :
    compile text = .error (.badStructure fault) := by
  simp only [compile, Source.read_of_draft_error h]

theorem compile_of_draft_ok {text : Text} {p : Pattern} {w : List Warning}
    (h : (Source.detect text).draft = .ok (p, w)) :
    compile text =
      match p.effectOf with
      | .ok effect =>
        .ok { pattern := p, program := p.programWith effect, warnings := w ++ p.encodeWarnings }
      | .error e => .error (.badEffect e) := by
  by_cases hblank : (Text.trim p.effect).isEmpty = true
  · -- Reading stops at a blank effect, with the error that the encoder would give.
    have hread := Source.read_of_draft_ok h
    have heffect : p.effectOf = .error .missing := if_pos hblank
    rw [if_pos hblank] at hread
    simp only [compile, hread, heffect]
  · have hread := Source.read_of_draft_ok h
    rw [if_neg hblank] at hread
    cases heffect : p.effectOf with
    | error e =>
      have hencode : p.encode = .error e := by
        rw [Pattern.encode, heffect]
        rfl
      exact compile_of_read_of_error hread hencode
    | ok effect =>
      have hencode : p.encode = .ok (p.programWith effect, p.encodeWarnings) := by
        rw [Pattern.encode, heffect]
        rfl
      exact compile_of_read_of_ok hread hencode

theorem Intent.pattern_of_compile {text : Text} {c : Compiled}
    (hbrace : (Text.trim text).head? ≠ some '\x7b') (h : compile text = .ok c) :
    c.pattern = pattern text := by
  have hdetect : Source.detect text = .intent text := if_neg hbrace
  obtain ⟨w, -, hread, -, -⟩ := compile_eq_ok_iff.mp h
  rw [hdetect, Source.read_of_draft_ok rfl] at hread
  split at hread
  · cases hread
  · exact (Prod.mk.inj (Except.ok.inj hread)).1.symm

theorem exists_programWith_of_compile {text : Text} {c : Compiled} (h : compile text = .ok c) :
    ∃ effect, Effect.ofName? c.pattern.effect = some effect ∧
      c.program = c.pattern.programWith effect := by
  obtain ⟨_, _, -, hencode, -⟩ := compile_eq_ok_iff.mp h
  obtain ⟨effect, heffect, hprogram, -⟩ := Pattern.encode_eq_ok_iff.mp hencode
  exact ⟨effect, heffect, hprogram⟩

theorem programWith_of_compile {text : Text} {c : Compiled} {effect : Effect}
    (h : compile text = .ok c) (heffect : Effect.ofName? c.pattern.effect = some effect) :
    c.program = c.pattern.programWith effect := by
  obtain ⟨effect', heffect', hprogram⟩ := exists_programWith_of_compile h
  obtain rfl : effect = effect' := Option.some.inj (heffect.symm.trans heffect')
  exact hprogram

end LedPattern
