import LedPattern.Proofs.Color.Resolve
import LedPattern.Proofs.Intent.Written
import LedPattern.Proofs.Pattern.Json
/-!
The two forms of input agree. Settings written as intent text and the same settings as members of a
JSON object lead to patterns that differ only in how their effect and colours are spelled, and such
patterns have the same program.
-/
namespace LedPattern

/-! ## Settings as an object -/

namespace Settings

/-- The quantities that both forms can give. -/
def quantities : List Quantity :=
  [.brightness, .speed, .cooling, .sparking, .density, .waveCount, .rhythm, .eyeSize, .tailLength,
    .direction]

def members (s : Settings) : List Pattern.Member :=
  [("effect".toList, .string s.effect),
    ("colors".toList, .list (s.colors.map .string)),
    ("background_color".toList, .string s.background)] ++
  quantities.map fun q => (q.key, .number (.ofInt (s.quantity q).toInt))

/-- The fields that both forms can give. -/
def fields : List Pattern.Field := [.effect, .colors, .background] ++ quantities.map .quantity

theorem members_eq (s : Settings) : s.members = fields.map s.pattern.member := rfl

theorem describes_members (s : Settings) : Pattern.Describes s.members s.pattern := by
  rw [members_eq]
  apply Pattern.describes_members (by decide)
  intro f hf
  -- Only the name and the style have no member.
  cases f with
  | name => rfl
  | quantity q =>
    cases q with
    | style => rfl
    | _ => exact absurd (by decide) hf
  | _ => exact absurd (by decide) hf

/-! ## What is read, and what is made of it -/

theorem trim_effect_ne_nil {s : Settings} (h : s.Writable) : Text.trim s.effect ≠ [] := by
  obtain ⟨e, heffect⟩ := h.effect
  intro hnil
  rw [← Effect.ofName?_trim, hnil, Effect.ofName?_nil] at heffect
  cases heffect

theorem detect_intentText (s : Settings) : Source.detect s.intentText = .intent s.intentText := by
  obtain ⟨rest, htext⟩ : ∃ rest, s.intentText = 'e' :: rest := ⟨_, rfl⟩
  have hhead : (Text.trim s.intentText).head? = some 'e' := by
    rw [htext]
    exact Text.head?_trim_cons (by decide) rest
  have hbrace : (Text.trim s.intentText).head? ≠ some '\x7b' := by
    rw [hhead]
    decide
  simp only [Source.detect, if_neg hbrace]

theorem read_intentText {s : Settings} (h : s.Writable) :
    ∃ warnings, (Source.detect s.intentText).read = .ok (s.resolved, warnings) := by
  have hpattern : Intent.pattern s.intentText = s.resolved := by
    rw [Intent.pattern_eq_after, scan_intentText h, after_lines h]
  have heffect : s.resolved.effect.isEmpty = false := by
    rw [List.isEmpty_eq_false_iff]
    exact trim_effect_ne_nil h
  have htrim : (Text.trim s.resolved.effect).isEmpty = false := by
    have hagain : Text.trim s.resolved.effect = s.resolved.effect := Text.trim_trim s.effect
    rw [hagain]
    exact heffect
  have hread : Intent.read s.intentText = some (s.resolved, Intent.warnings s.intentText) := by
    simp only [Intent.read, hpattern, heffect, Bool.false_eq_true, if_false]
  refine ⟨Intent.warnings s.intentText, ?_⟩
  simp only [detect_intentText, Source.read, hread, htrim, Bool.false_eq_true, if_false]

theorem read_object {s : Settings} (h : s.Writable) {members : List Pattern.Member} {text : Text}
    (hmembers : members.Perm s.members) (htext : Json.SpelledObject members text) :
    (Source.detect text).read = .ok (s.pattern, []) := by
  have heffect : (Text.trim s.pattern.effect).isEmpty = false := by
    rw [List.isEmpty_eq_false_iff]
    exact trim_effect_ne_nil h
  rw [Pattern.read_of_describes htext (s.describes_members.perm hmembers.symm), heffect]
  rfl

/-- Spelling the effect and the colours differently makes no difference to the program. -/
theorem programWith_resolved (s : Settings) (e : Effect) :
    s.resolved.programWith e = s.pattern.programWith e := by
  have hpalette :
      Pattern.paletteColors s.resolved.colors = Pattern.paletteColors s.pattern.colors :=
    Pattern.paletteColors_map_resolve s.colors
  have hsecondary : s.resolved.secondaryColor = s.pattern.secondaryColor :=
    Pattern.secondaryColor_resolve rfl rfl
  simp only [Pattern.programWith, hpalette, hsecondary]
  rfl

end Settings

theorem forms_agree (s : Settings) (h : s.Writable) (members : List Pattern.Member) (text : Text)
    (hmembers : members.Perm s.members) (htext : Json.SpelledObject members text) :
    ∃ c c' : Compiled, compile s.intentText = .ok c ∧ compile text = .ok c' ∧
      c.program.bytes = c'.program.bytes := by
  obtain ⟨e, heffect⟩ := h.effect
  have htrimmed : Effect.ofName? s.resolved.effect = some e := by
    show Effect.ofName? (Text.trim s.effect) = some e
    rw [Effect.ofName?_trim, heffect]
  obtain ⟨warnings, hintent⟩ := Settings.read_intentText h
  have hobject := Settings.read_object h hmembers htext
  refine ⟨_, _,
    compile_of_read_of_ok hintent (Pattern.encode_eq_ok_iff.mpr ⟨e, htrimmed, rfl, rfl⟩),
    compile_of_read_of_ok hobject (Pattern.encode_eq_ok_iff.mpr ⟨e, heffect, rfl, rfl⟩), ?_⟩
  rw [s.programWith_resolved]

/-- An older name among blanks, more colours than fit, some of them none, and numbers at both
ends. -/
def oddSettings : Settings where
  effect := [' ', 'B', 'r', 'E', 'a', 't', 'h', 'e', '\t', '\r']
  colors := ["#F00".toList, " Red ".toList, "no #]".toList, "[0f0".toList, " ".toList, "aBc".toList,
    ":".toList, "\r".toList, "navy".toList]
  background := " ".toList
  quantity
    | .brightness => -2147483648
    | .speed => 2147483647
    | _ => -7

theorem writable_oddSettings : oddSettings.Writable where
  effect := ⟨.pulse, by decide⟩
  line := by decide
  colors := by decide
  background := by decide

theorem forms_agree_oddSettings :
    ∃ (text : Text) (c c' : Compiled), Json.SpelledObject oddSettings.members text ∧
      compile oddSettings.intentText = .ok c ∧ compile text = .ok c' ∧
        c.program.bytes = c'.program.bytes := by
  obtain ⟨text, htext⟩ := Json.exists_spelledObject oddSettings.members
  obtain ⟨c, c', hintent, hobject, hbytes⟩ :=
    forms_agree oddSettings writable_oddSettings oddSettings.members text (.refl _) htext
  exact ⟨text, c, c', htext, hintent, hobject, hbytes⟩

end LedPattern
