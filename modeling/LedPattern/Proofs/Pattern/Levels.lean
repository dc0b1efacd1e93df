import LedPattern.Proofs.Color.Resolve
import LedPattern.Proofs.Intent.LastWriter
import LedPattern.Proofs.Pattern.Labels
import LedPattern.Proofs.Pattern.Members
import LedPattern.Proofs.Pattern.ReadBack
/-!
Brightness and speed that are not given. Writing out the level that a pattern comes to leaves its
program as it is, with one exception: a pulse that has neither a rhythm nor a speed takes its rhythm
from the speed that was not given, and not from the default in its place. So the two forms of input,
which begin at different levels, agree on every other pattern that leaves its levels open, and never
on such a pulse.
-/
namespace LedPattern

theorem Program.bytes_inj {m m' : Program} : m.bytes = m'.bytes ↔ m = m' := by
  rw [← Program.decode_eq_ok_iff, Program.decode_bytes, Except.ok.injEq, eq_comm]

theorem Color.parse_blank {token : Text} (h : Text.trim token = []) :
    Color.parse token = .error (.badLength 0) := by
  rw [Color.parse, Color.resolve, (Text.fold_eq_nil_iff token).mpr h]
  decide

namespace Pattern

/-! ## Levels written out -/

/-- A level as it counts: zero or less is the default, and nothing is above 255. -/
def settled (v default : Int32) : Int32 :=
  if v.toInt ≤ 0 then default else if 255 < v.toInt then 255 else v

def withLevels (p : Pattern) : Pattern :=
  { p with
    brightness := settled p.brightness defaultBrightness
    speed := settled p.speed defaultSpeed }

def levels : List Quantity := [.brightness, .speed]

/-- A pulse that has neither a rhythm nor a speed. -/
def Unpaced (p : Pattern) (effect : Effect) : Prop :=
  effect = .pulse ∧ p.rhythm.toInt ≤ 0 ∧ p.speed.toInt ≤ 0

theorem toInt_settled (v default : Int32) :
    (settled v default).toInt = if v.toInt ≤ 0 then default.toInt else min v.toInt 255 := by
  have h255 : (255 : Int32).toInt = 255 := by decide
  rw [settled]
  split
  · rfl
  · split
    · omega
    · omega

theorem level_settled {v default : Int32} (h : 1 ≤ default.toInt ∧ default.toInt ≤ 255) :
    level (settled v default) default = level v default := by
  have hbound : 0 ≤ default.toInt ∧ default.toInt ≤ 255 := ⟨by omega, h.2⟩
  have hsettled := @level_toNat (settled v default) default hbound
  have hlevel := @level_toNat v default hbound
  rw [toInt_settled] at hsettled
  rw [← UInt8.toNat_inj]
  split at hlevel <;> split at hsettled <;> omega

theorem saturate_pulseRhythm_of_unpaced {p : Pattern} (hrhythm : p.rhythm.toInt ≤ 0)
    (hspeed : p.speed.toInt ≤ 0) :
    saturate p.pulseRhythm = 255 ∧ saturate p.withLevels.pulseRhythm = 127 := by
  constructor
  · have hrhythm' : 255 ≤ p.pulseRhythm := by
      rw [pulseRhythm, if_neg (by omega)]
      omega
    have hbyte := saturate_toNat (n := p.pulseRhythm) (by omega)
    have h255 : (255 : UInt8).toNat = 255 := rfl
    rw [← UInt8.toNat_inj]
    omega
  · have hsettled : p.withLevels.speed = defaultSpeed := if_pos hspeed
    have hpulse : p.withLevels.pulseRhythm = 127 := by
      have hnone : ¬0 < p.withLevels.rhythm.toInt := Int.not_lt.mpr hrhythm
      rw [pulseRhythm, if_neg hnone, hsettled]
      decide
    rw [hpulse]
    decide

/-- A speed above 255 and one of 255 both end at the least rhythm. -/
theorem pulseRhythm_withLevels {p : Pattern} (h : 0 < p.rhythm.toInt ∨ 0 < p.speed.toInt) :
    p.withLevels.pulseRhythm = p.pulseRhythm := by
  have hspeed : p.withLevels.speed.toInt = _ := toInt_settled p.speed defaultSpeed
  have hrhythm : p.withLevels.rhythm = p.rhythm := rfl
  rw [pulseRhythm, pulseRhythm, hrhythm, hspeed]
  by_cases hpos : 0 < p.rhythm.toInt
  · rw [if_pos hpos, if_pos hpos]
  · have hgiven : 0 < p.speed.toInt := h.resolve_left hpos
    rw [if_neg hpos, if_neg hpos, if_neg (by omega)]
    omega

theorem params_withLevels {p : Pattern} {effect : Effect} (h : ¬p.Unpaced effect) :
    p.withLevels.params effect = p.params effect := by
  cases effect with
  | pulse =>
    have hpace : 0 < p.rhythm.toInt ∨ 0 < p.speed.toInt := by
      by_contra hnone
      exact h ⟨rfl, by omega, by omega⟩
    simp only [params, pulseRhythm_withLevels hpace]
    rfl
  | _ => rfl

theorem programWith_withLevels (p : Pattern) (effect : Effect) :
    p.withLevels.programWith effect =
      { p.programWith effect with params := p.withLevels.params effect } := by
  have hbrightness : level p.withLevels.brightness defaultBrightness = level p.brightness _ :=
    level_settled (by decide)
  have hspeed : level p.withLevels.speed defaultSpeed = level p.speed _ := level_settled (by decide)
  simp only [programWith, hbrightness, hspeed]
  rfl

theorem programWith_withLevels_of_paced {p : Pattern} {effect : Effect} (h : ¬p.Unpaced effect) :
    p.withLevels.programWith effect = p.programWith effect := by
  rw [programWith_withLevels, params_withLevels h]
  rfl

theorem programWith_withLevels_of_unpaced {p : Pattern} {effect : Effect} (h : p.Unpaced effect) :
    (p.programWith effect).params.first = 255 ∧
      p.withLevels.programWith effect =
        { p.programWith effect with
          params := { (p.programWith effect).params with first := 127 } } := by
  obtain ⟨rfl, hrhythm, hspeed⟩ := h
  obtain ⟨hraw, hsettled⟩ := saturate_pulseRhythm_of_unpaced hrhythm hspeed
  refine ⟨hraw, ?_⟩
  rw [programWith_withLevels]
  simp only [params, hsettled]
  rfl

theorem programWith_withLevels_eq_iff {p : Pattern} {effect : Effect} :
    p.withLevels.programWith effect = p.programWith effect ↔ ¬p.Unpaced effect := by
  refine ⟨fun heq hunpaced => ?_, programWith_withLevels_of_paced⟩
  obtain ⟨hraw, hsettled⟩ := programWith_withLevels_of_unpaced hunpaced
  have hfirst : (p.programWith effect).params.first = 127 := by rw [← heq, hsettled]
  exact absurd (hraw.symm.trans hfirst) (by decide)

/-! ## Patterns that differ in their levels only -/

/-- The patterns mean the same, their levels apart: the same effect by whatever word, the same
colours by whatever name, and the same quantities of those that a program holds. -/
structure AlikeButLevels (p q : Pattern) : Prop where
  effect : Effect.ofName? p.effect = Effect.ofName? q.effect
  colors : p.colors.map Color.parse = q.colors.map Color.parse
  background : p.background.map Color.parse = q.background.map Color.parse
  quantity (r : Quantity) : r ∉ .style :: levels → p.get r = q.get r

theorem AlikeButLevels.withLevels {p q : Pattern} (h : p.AlikeButLevels q) :
    p.AlikeButLevels q.withLevels where
  effect := h.effect
  colors := h.colors
  background := h.background
  quantity r hr := by
    rw [h.quantity r hr]
    cases r with
    | brightness | speed => exact absurd (by decide) hr
    | _ => rfl

theorem paletteColors_eq_map_parse (colors : List Text) :
    paletteColors colors =
      if colors.map Color.parse = [] then [Rgb.white]
      else ((colors.map Color.parse).take 8).map fun parsed => parsed.toOption.getD Rgb.white := by
  simp only [paletteColors_eq, List.map_eq_nil_iff, ← List.map_take, List.map_map]
  rfl

/-- A blank background is black, as one that cannot be parsed is. -/
theorem secondaryColor_eq_parse (p : Pattern) :
    p.secondaryColor =
      ((p.background.map Color.parse).bind Except.toOption).getD Rgb.black := by
  rw [secondaryColor_eq]
  cases p.background with
  | none => rfl
  | some token =>
    by_cases hblank : Text.trim token = []
    · simp only [if_pos hblank, Option.map_some, Color.parse_blank hblank]
      rfl
    · simp only [if_neg hblank]
      rfl

theorem AlikeButLevels.agreeOn {p q : Pattern} (h : p.AlikeButLevels q)
    (hbrightness : p.brightness = q.brightness) (hspeed : p.speed = q.speed) (effect : Effect) :
    AgreeOn effect.encoded p q := by
  intro r hr
  cases r with
  | brightness => exact hbrightness
  | speed => exact hspeed
  | style => cases effect <;> exact absurd hr (by decide)
  | _ => exact h.quantity _ (by decide)

theorem AlikeButLevels.programWith {p q : Pattern} (h : p.AlikeButLevels q)
    (hbrightness : p.brightness = q.brightness) (hspeed : p.speed = q.speed) (effect : Effect) :
    p.programWith effect = q.programWith effect := by
  have hpalette : paletteColors p.colors = paletteColors q.colors := by
    rw [paletteColors_eq_map_parse, paletteColors_eq_map_parse, h.colors]
  have hsecondary : p.secondaryColor = q.secondaryColor := by
    rw [secondaryColor_eq_parse, secondaryColor_eq_parse, h.background]
  exact programWith_of_agree hpalette hsecondary (h.agreeOn hbrightness hspeed effect)

/-- The object has no value for a quantity. -/
def OmittedIn (members : List Member) (q : Quantity) : Prop :=
  ∀ m ∈ members, Field.of? m = some (.quantity q) → m.2 = .null

theorem Reads.get_eq_zero {members : List Member} {p : Pattern} (h : Reads members p) {q : Quantity}
    (homitted : OmittedIn members q) : p.get q = 0 := by
  by_cases hnamed : ∃ m ∈ members, Field.of? m = some (.quantity q)
  · obtain ⟨m, hm, hof⟩ := hnamed
    have hholds := h.given m hm _ hof
    rw [homitted m hm hof] at hholds
    exact hholds
  · exact h.absent (.quantity q) fun m hm hof => hnamed ⟨m, hm, hof⟩

end Pattern

namespace Intent

/-- No line of the text writes to a quantity. -/
def Omits (text : Text) (q : Quantity) : Prop :=
  (Slot.quantity q).last? .root (Line.scan text) = none

theorem get_pattern_of_omits {text : Text} {q : Quantity} (h : Omits text q) :
    (pattern text).get q = Slot.initialQuantity q := by
  have hlast := ((lastWritten_after (Line.scan text)).quantity q).eq_last?
  rw [h, ← pattern_eq_after] at hlast
  exact hlast

end Intent

theorem bytes_withLevels {p : Pattern} {program : Program} {w : List Warning}
    (h : p.encode = .ok (program, w)) :
    (∃ program', p.withLevels.encode = .ok (program', w) ∧
      (program'.bytes = program.bytes ↔ ¬p.Unpaced program.effect) ∧
      (p.Unpaced program.effect → program.params.first = 255 ∧
        program' = { program with params := { program.params with first := 127 } })) ∧
    (∀ (text text' : Text) (members : List Pattern.Member) (c c' : Compiled),
      (Text.trim text).head? ≠ some '\x7b' → (∀ q ∈ Pattern.levels, Intent.Omits text q) →
      Json.SpelledObject members text' → (∀ q ∈ Pattern.levels, Pattern.OmittedIn members q) →
      compile text = .ok c → compile text' = .ok c' → c'.pattern = p →
      c.pattern.AlikeButLevels p →
        (c.program.bytes = c'.program.bytes ↔ ¬p.Unpaced program.effect)) := by
  obtain ⟨effect, heffect, rfl, rfl⟩ := Pattern.encode_eq_ok_iff.mp h
  constructor
  · have hencode : p.withLevels.encode = .ok (p.withLevels.programWith effect, p.encodeWarnings) :=
      Pattern.encode_eq_ok_iff.mpr ⟨effect, heffect, rfl, rfl⟩
    refine ⟨_, hencode, ?_, Pattern.programWith_withLevels_of_unpaced⟩
    rw [Program.bytes_inj]
    exact Pattern.programWith_withLevels_eq_iff
  · rintro text text' members c c' hbrace homits hspelled homitted hcompile hcompile' rfl halike
    have hprogram : c.program = c.pattern.programWith effect :=
      programWith_of_compile hcompile (halike.effect.trans heffect)
    have hprogram' : c'.program = c'.pattern.programWith effect :=
      programWith_of_compile hcompile' heffect
    -- The levels that the object leaves at zero come to those at which intent text begins.
    have hpattern : c.pattern = Intent.pattern text := Intent.pattern_of_compile hbrace hcompile
    have hreads := (Pattern.describes_of_compile hspelled hcompile').reads
    have hbrightness : c.pattern.brightness = c'.pattern.withLevels.brightness := by
      have hzero : c'.pattern.brightness = 0 :=
        hreads.get_eq_zero (homitted .brightness (by decide))
      rw [Pattern.withLevels, hzero, hpattern]
      exact Intent.get_pattern_of_omits (homits .brightness (by decide))
    have hspeed : c.pattern.speed = c'.pattern.withLevels.speed := by
      have hzero : c'.pattern.speed = 0 := hreads.get_eq_zero (homitted .speed (by decide))
      rw [Pattern.withLevels, hzero, hpattern]
      exact Intent.get_pattern_of_omits (homits .speed (by decide))
    have hsame := halike.withLevels.programWith hbrightness hspeed effect
    rw [Program.bytes_inj, hprogram, hprogram', hsame]
    exact Pattern.programWith_withLevels_eq_iff

/-- Intent text for the pattern of `bareText`. -/
def bareIntent : Text := "effect: FIRE\nappearance:\n color: Red".toList

def redFire : Pattern :=
  { Intent.start with effect := "FIRE".toList, colors := ["#FF0000".toList] }

theorem bytes_withLevels_bare :
    (∃ program program' w, outlandish.encode = .ok (program, w) ∧
      outlandish.withLevels.encode = .ok (program', w) ∧ program'.bytes = program.bytes) ∧
    ∃ c c', compile bareIntent = .ok c ∧ compile bareText = .ok c' ∧
      c.program.bytes = c'.program.bytes := by
  constructor
  · have hencode : outlandish.encode = .ok (outlandish.programWith .pulse, _) :=
      Pattern.encode_eq_ok_iff.mpr ⟨.pulse, by decide, rfl, rfl⟩
    obtain ⟨program', hencode', hbytes, -⟩ := (bytes_withLevels hencode).1
    have hpaced : ¬outlandish.Unpaced .pulse := by
      rintro ⟨-, -, hspeed⟩
      exact absurd hspeed (by decide)
    exact ⟨_, program', _, hencode, hencode', hbytes.mpr hpaced⟩
  · have hread : (Source.detect bareIntent).read = .ok (redFire, []) := by decide +kernel
    have hread' : (Source.detect bareText).read =
        .ok ({ effect := "fire".toList, colors := ["red".toList] }, []) := by decide +kernel
    have hcompile := compile_of_read_of_ok hread
      (Pattern.encode_eq_ok_iff.mpr ⟨.fire, by decide, rfl, rfl⟩)
    have hencode : Pattern.encode { effect := "fire".toList, colors := ["red".toList] } = .ok _ :=
      Pattern.encode_eq_ok_iff.mpr ⟨.fire, by decide, rfl, rfl⟩
    have hcompile' := compile_of_read_of_ok hread' hencode
    have homits : ∀ q ∈ Pattern.levels, Intent.Omits bareIntent q := by
      simp only [Intent.Omits]
      decide +kernel
    have homitted : ∀ q ∈ Pattern.levels, Pattern.OmittedIn bareMembers q := by
      have hnamed : ∀ q ∈ Pattern.levels, ∀ m ∈ bareMembers,
          Pattern.Field.of? m ≠ some (.quantity q) := by decide
      exact fun q hq m hm hof => absurd hof (hnamed q hq m hm)
    have halike : redFire.AlikeButLevels { effect := "fire".toList, colors := ["red".toList] } := by
      refine ⟨by decide, by decide, rfl, fun r hr => ?_⟩
      cases r with
      | brightness | speed => exact absurd (by decide) hr
      | _ => exact Eq.refl (0 : Int32)
    refine ⟨_, _, hcompile, hcompile', ?_⟩
    refine ((bytes_withLevels hencode).2 _ _ bareMembers _ _ (by decide) homits bareText_spelled
      homitted hcompile hcompile' rfl halike).mpr ?_
    rintro ⟨⟨⟩, -⟩

/-- The pulse of which nothing else is said. -/
def barePulse : Pattern where
  effect := "pulse".toList

theorem bytes_withLevels_barePulse :
    (∃ program program', barePulse.encode = .ok (program, []) ∧
      barePulse.withLevels.encode = .ok (program', []) ∧ program'.bytes ≠ program.bytes) ∧
    ∃ c c', compile "effect: pulse".toList = .ok c ∧
      compile "\x7b\"effect\":\"pulse\"\x7d".toList = .ok c' ∧
      c.program.speed = c'.program.speed ∧ c.program.bytes ≠ c'.program.bytes := by
  have hunpaced : barePulse.Unpaced .pulse := ⟨rfl, by decide, by decide⟩
  have hbytes : (barePulse.withLevels.programWith .pulse).bytes ≠
      (barePulse.programWith .pulse).bytes := by
    rw [ne_eq, Program.bytes_inj, Pattern.programWith_withLevels_eq_iff, not_not]
    exact hunpaced
  constructor
  · exact ⟨_, _, Pattern.encode_eq_ok_iff.mpr ⟨.pulse, by decide, rfl, rfl⟩,
      Pattern.encode_eq_ok_iff.mpr ⟨.pulse, by decide, rfl, rfl⟩, hbytes⟩
  · have hread : (Source.detect "effect: pulse".toList).read =
        .ok (barePulse.withLevels, []) := by decide
    have hread' : (Source.detect "\x7b\"effect\":\"pulse\"\x7d".toList).read =
        .ok (barePulse, []) := by decide
    exact ⟨_, _, compile_of_read_of_ok hread
        (Pattern.encode_eq_ok_iff.mpr ⟨.pulse, by decide, rfl, rfl⟩),
      compile_of_read_of_ok hread' (Pattern.encode_eq_ok_iff.mpr ⟨.pulse, by decide, rfl, rfl⟩),
      by decide, hbytes⟩

end LedPattern
