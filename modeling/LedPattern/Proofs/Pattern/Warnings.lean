import LedPattern.Proofs.Compile
import LedPattern.Proofs.Pattern.Encode
/-!
What the encoder warns of. Every colour that it leaves out or replaces is in its warnings, in the
order of the palette and with the background last, and it warns of nothing else; so it has no
warnings exactly when every colour that was asked for is in the program. Colours that do not fit are
counted and not looked at.
-/
namespace LedPattern

namespace Color

/-- The token stands for a colour. -/
def Usable (token : Text) : Prop := ∃ c, Rgb.parse (Color.resolve token) = .ok c

/-- What there is to say of a token that has to be replaced. -/
def rejection? (replacement : Rgb) (token : Text) : Option Warning :=
  match Rgb.parse (Color.resolve token) with
  | .ok _ => none
  | .error e => some (.invalidColor token e replacement)

theorem parseOr_snd (replacement : Rgb) (token : Text) :
    (parseOr replacement token).2 = (rejection? replacement token).toList := by
  rw [parseOr, rejection?, Color.parse]
  cases Rgb.parse (Color.resolve token) <;> rfl

theorem rejection?_eq_none_iff {replacement : Rgb} {token : Text} :
    rejection? replacement token = none ↔ Usable token := by
  rw [rejection?, Usable]
  cases Rgb.parse (Color.resolve token) <;> simp

theorem usable_trim (token : Text) : Usable (Text.trim token) ↔ Usable token := by
  rw [Usable, resolve_trim, Usable]

/-- A colour is the token's own, or its replacement and then said to be one. -/
def Accounted (replacement : Rgb) (token : Text) (warnings : List Warning) (c : Rgb) : Prop :=
  Rgb.parse (Color.resolve token) = .ok c ∨
    ∃ e, Rgb.parse (Color.resolve token) = .error e ∧ c = replacement ∧
      .invalidColor token e replacement ∈ warnings

theorem accounted_parseOr {replacement : Rgb} {token : Text} {warnings : List Warning}
    (h : ∀ w ∈ rejection? replacement token, w ∈ warnings) :
    Accounted replacement token warnings (parseOr replacement token).1 := by
  rw [parseOr_fst]
  cases hparse : Rgb.parse (Color.resolve token) with
  | ok c => exact .inl hparse
  | error e =>
    have hwarning : rejection? replacement token = some (.invalidColor token e replacement) := by
      rw [rejection?, hparse]
    exact .inr ⟨e, hparse, rfl, h _ hwarning⟩

end Color

namespace Pattern

/-- The background is left alone if it is blank, and otherwise judged without the blanks around
it. -/
def backgroundRejection? (p : Pattern) : Option Warning :=
  match p.background with
  | none => none
  | some token =>
    if Text.trim token = [] then none else Color.rejection? .black (Text.trim token)

theorem paletteWarnings_eq (colors : List Text) :
    paletteWarnings colors =
      (if 8 < colors.length then [.paletteTruncated colors.length 8] else []) ++
        (colors.take 8).filterMap (Color.rejection? .white) := by
  rw [paletteWarnings, maxPalette]
  simp only [Color.parseOr_snd]
  rw [List.filterMap_eq_flatMap_toList]

theorem secondaryWarnings_eq (p : Pattern) :
    p.secondaryWarnings = p.backgroundRejection?.toList := by
  rw [secondaryWarnings, backgroundToken_eq, backgroundRejection?]
  cases p.background with
  | none => rfl
  | some token =>
    by_cases hblank : Text.trim token = []
    · simp only [if_pos hblank]
      rfl
    · simp only [if_neg hblank, Color.parseOr_snd]

theorem paletteWarnings_eq_nil_iff (colors : List Text) :
    paletteWarnings colors = [] ↔ colors.length ≤ 8 ∧ ∀ token ∈ colors, Color.Usable token := by
  rw [paletteWarnings_eq, List.append_eq_nil_iff, List.filterMap_eq_nil_iff]
  simp only [Color.rejection?_eq_none_iff]
  by_cases hlength : 8 < colors.length
  · rw [if_pos hlength]
    refine iff_of_false ?_ ?_
    · rintro ⟨hnil, -⟩
      cases hnil
    · rintro ⟨hle, -⟩
      omega
  · have htake : colors.take 8 = colors := List.take_of_length_le (by omega)
    rw [if_neg hlength, htake]
    exact and_congr_left' (iff_of_true rfl (by omega))

theorem secondaryWarnings_eq_nil_iff (p : Pattern) :
    p.secondaryWarnings = [] ↔
      ∀ token, p.background = some token → Text.trim token = [] ∨ Color.Usable token := by
  rw [secondaryWarnings_eq, Option.toList_eq_nil_iff, backgroundRejection?]
  cases p.background with
  | none => exact iff_of_true rfl nofun
  | some token =>
    simp only [Option.some.injEq, forall_eq']
    by_cases hblank : Text.trim token = []
    · rw [if_pos hblank]
      exact iff_of_true rfl (.inl hblank)
    · rw [if_neg hblank, Color.rejection?_eq_none_iff, Color.usable_trim, or_iff_right hblank]

theorem getElem?_paletteColors {colors : List Text} {i : Nat} {token : Text} (hi : i < 8)
    (htoken : colors[i]? = some token) :
    (paletteColors colors)[i]? = some (Color.parseOr .white token).1 := by
  have hempty : colors.isEmpty = false := by
    rw [List.isEmpty_eq_false_iff]
    rintro rfl
    cases htoken
  rw [paletteColors, hempty, if_neg Bool.false_ne_true, List.getElem?_map, maxPalette,
    List.getElem?_take_of_lt hi, htoken, Option.map_some]

/-! Only the first eight colours and the number of all of them matter. -/

theorem paletteColors_of_take {colors colors' : List Text}
    (h : colors'.take maxPalette = colors.take maxPalette) :
    paletteColors colors' = paletteColors colors := by
  have hempty : colors'.isEmpty = colors.isEmpty := by
    rw [Bool.eq_iff_iff, List.isEmpty_iff, List.isEmpty_iff]
    have hnil : (colors'.take maxPalette = []) ↔ (colors.take maxPalette = []) := by rw [h]
    simpa [List.take_eq_nil_iff, maxPalette] using hnil
  rw [paletteColors, paletteColors, hempty, h]

theorem paletteWarnings_of_take {colors colors' : List Text}
    (h : colors'.take maxPalette = colors.take maxPalette)
    (hlength : colors'.length = colors.length) :
    paletteWarnings colors' = paletteWarnings colors := by
  rw [paletteWarnings, paletteWarnings, hlength, h]

theorem encode_of_take {p : Pattern} {program : Program} {w : List Warning}
    (hencode : p.encode = .ok (program, w)) {colors : List Text}
    (h : colors.take maxPalette = p.colors.take maxPalette)
    (hlength : colors.length = p.colors.length) :
    { p with colors := colors }.encode = .ok (program, w) := by
  obtain ⟨effect, heffect, rfl, rfl⟩ := encode_eq_ok_iff.mp hencode
  refine encode_eq_ok_iff.mpr ⟨effect, heffect, ?_, ?_⟩
  · simp only [programWith, paletteColors_of_take h]
    rfl
  · simp only [encodeWarnings, paletteWarnings_of_take h hlength]
    rfl

end Pattern

theorem encode_warns :
    (∀ (p : Pattern) (program : Program) (w : List Warning), p.encode = .ok (program, w) →
      w = (if 8 < p.colors.length then [.paletteTruncated p.colors.length 8] else []) ++
          (p.colors.take 8).filterMap (Color.rejection? .white) ++
          p.backgroundRejection?.toList ∧
      (w = [] ↔ p.colors.length ≤ 8 ∧ (∀ token ∈ p.colors, Color.Usable token) ∧
        ∀ token, p.background = some token → Text.trim token = [] ∨ Color.Usable token) ∧
      (∀ i token, i < 8 → p.colors[i]? = some token →
        ∃ c, program.palette[i]? = some c ∧ Color.Accounted .white token w c) ∧
      (∀ token, p.background = some token → Text.trim token ≠ [] →
        Color.Accounted .black (Text.trim token) w program.secondary) ∧
      (∀ colors : List Text, colors.take 8 = p.colors.take 8 → colors.length = p.colors.length →
        { p with colors := colors }.encode = .ok (program, w))) ∧
    (∀ (text : Text) (c : Compiled), compile text = .ok c →
      ∃ readWarnings w, (Source.detect text).read = .ok (c.pattern, readWarnings) ∧
        c.pattern.encode = .ok (c.program, w) ∧ c.warnings = readWarnings ++ w) := by
  refine ⟨?_, fun text c hcompile => compile_eq_ok_iff.mp hcompile⟩
  intro p program w hencode
  obtain ⟨effect, -, rfl, hw⟩ := Pattern.encode_eq_ok_iff.mp hencode
  refine ⟨?_, ?_, ?_, ?_, fun colors => Pattern.encode_of_take hencode⟩
  · rw [hw, Pattern.encodeWarnings, Pattern.paletteWarnings_eq, Pattern.secondaryWarnings_eq]
  · rw [hw, Pattern.encodeWarnings, List.append_eq_nil_iff, Pattern.paletteWarnings_eq_nil_iff,
      Pattern.secondaryWarnings_eq_nil_iff, and_assoc]
  · intro i token hi htoken
    refine ⟨_, Pattern.getElem?_paletteColors hi htoken, Color.accounted_parseOr ?_⟩
    intro warning hwarning
    have hmem : token ∈ p.colors.take 8 := by
      rw [← List.getElem?_take_of_lt hi] at htoken
      exact List.mem_of_getElem? htoken
    rw [hw, Pattern.encodeWarnings, Pattern.paletteWarnings_eq]
    apply List.mem_append_left
    apply List.mem_append_right
    exact List.mem_filterMap.mpr ⟨token, hmem, hwarning⟩
  · intro token hbackground hblank
    have hsecondary : p.secondaryColor = (Color.parseOr .black (Text.trim token)).1 := by
      simp only [Pattern.secondaryColor, Pattern.backgroundToken_eq, hbackground, if_neg hblank]
    have hrejection : p.backgroundRejection? = Color.rejection? .black (Text.trim token) := by
      simp only [Pattern.backgroundRejection?, hbackground, if_neg hblank]
    show Color.Accounted .black (Text.trim token) w p.secondaryColor
    rw [hsecondary]
    apply Color.accounted_parseOr
    intro warning hwarning
    rw [hw, Pattern.encodeWarnings, Pattern.secondaryWarnings_eq, hrejection]
    exact List.mem_append_right _ (Option.mem_toList.mpr hwarning)

/-- Nine colours, of which two of the first eight and the ninth are none, before a background that is
none either. -/
def gaudy : Pattern where
  effect := "solid".toList
  colors := ["red".toList, "mauve".toList, "0f0".toList, "#12".toList, "navy".toList, "teal".toList,
    "gold".toList, "pink".toList, "puce".toList]
  background := some " Nope ".toList

/-- Intent text with an unknown word and a colour that is none. -/
def mauveAtWarp : Text := "effect: fire\ntiming:\n speed: warp\nappearance:\n color: mauve".toList

theorem encode_warns_gaudy :
    (∃ program w, gaudy.encode = .ok (program, w) ∧
      w = [.paletteTruncated 9 8, .invalidColor "mauve".toList (.badDigit "mauve".toList) .white,
        .invalidColor "#12".toList (.badLength 2) .white,
        .invalidColor "Nope".toList (.badDigit "nope".toList) .black] ∧
      { gaudy with colors := gaudy.colors.dropLast ++ [[]] }.encode = .ok (program, w) ∧
      ∃ c, program.palette[3]? = some c ∧ Color.Accounted .white "#12".toList w c) ∧
    ∃ c readWarnings w, compile mauveAtWarp = .ok c ∧ readWarnings.length = 1 ∧ w.length = 1 ∧
      c.pattern.encode = .ok (c.program, w) ∧ c.warnings = readWarnings ++ w := by
  constructor
  · have hencode : gaudy.encode = .ok (gaudy.programWith .solid, gaudy.encodeWarnings) :=
      Pattern.encode_eq_ok_iff.mpr ⟨.solid, by decide, rfl, rfl⟩
    obtain ⟨hw, -, hpalette, -, hlater⟩ := encode_warns.1 gaudy _ _ hencode
    exact ⟨_, _, hencode, hw.trans (by decide), hlater _ (by decide) (by decide),
      hpalette 3 _ (by decide) (by decide)⟩
  · have hread : (Source.detect mauveAtWarp).read =
        .ok ({ Intent.start with effect := "fire".toList, colors := ["mauve".toList] },
          [.unknownWord "speed".toList "warp".toList 128]) := by decide +kernel
    have hcompile := compile_of_read_of_ok hread
      (Pattern.encode_eq_ok_iff.mpr ⟨.fire, by decide, rfl, rfl⟩)
    obtain ⟨readWarnings, w, hread', hencode, hwarnings⟩ := encode_warns.2 _ _ hcompile
    obtain ⟨-, rfl⟩ := Prod.mk.inj (Except.ok.inj (hread.symm.trans hread'))
    obtain ⟨-, -, -, rfl⟩ := Pattern.encode_eq_ok_iff.mp hencode
    exact ⟨_, _, _, hcompile, rfl, by decide, hencode, hwarnings⟩

end LedPattern
