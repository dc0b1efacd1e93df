import LedPattern.Proofs.Color.Written
import LedPattern.Proofs.Pattern.Encode
import LedPattern.Proofs.Program.Image
/-!
Which programs the encoder makes. `Program.Canonical` names them without the encoder, and
`Pattern.ofProgram` reads a pattern off a program: every parameter goes into the field that its label
names, and colours are written out. Encoding that pattern gives the program back and warns of nothing,
so the canonical programs are the ones that are reached, no fewer and no more.
-/
namespace LedPattern
namespace Effect

/-- The first three parameters that an effect can have; what is not in use is zero, and what must be
given is. -/
def CanonicalParams (effect : Effect) (s : Slots UInt8) : Prop :=
  match effect with
  | solid | gradient | rainbow | wipe => s.first = 0 ∧ s.second = 0 ∧ s.third = 0
  | sparkle => 1 ≤ s.first ∧ s.second = 0 ∧ s.third = 0
  | pulse => 10 ≤ s.first ∧ s.second = 0 ∧ s.third = 0
  | fire | candle => 1 ≤ s.first ∧ 1 ≤ s.second ∧ s.third = 0
  | wave => 1 ≤ s.first ∧ s.first ≤ 10
  | scanner => s.first = 0 ∧ 1 ≤ s.second ∧ 1 ≤ s.third

end Effect

namespace Program

structure Canonical (m : Program) : Prop where
  flags : m.flags = 0
  colorMode : m.colorMode = 0
  reserved : m.reserved = Vector.replicate 8 0
  length_palette : 1 ≤ m.palette.length
  primary : m.palette[0]? = some m.primary
  brightness : 1 ≤ m.brightness
  speed : 1 ≤ m.speed
  direction : m.params.fourth = 0 ∨ m.params.fourth = 1
  params : m.effect.CanonicalParams m.params

end Program

namespace Pattern

def ofByte (b : UInt8) : Int32 := Int32.ofNat b.toNat

theorem toInt_ofByte (b : UInt8) : (ofByte b).toInt = b.toNat := by
  have hb := b.toNat_lt
  exact Int32.toInt_ofNat_of_lt (by omega)

/-- Puts a parameter into the field that its label names, if it has one. -/
def withParam (p : Pattern) (label : Option Quantity) (value : UInt8) : Pattern :=
  match label with
  | some q => p.set q (ofByte value)
  | none => p

/-- The pattern that a program says. -/
def ofProgram (m : Program) : Pattern :=
  let labels := m.effect.labels
  let plain : Pattern :=
    { effect := m.effect.name
      colors := m.palette.map Rgb.text
      background := some m.secondary.text
      brightness := ofByte m.brightness
      speed := ofByte m.speed }
  (((plain.withParam labels.first m.params.first).withParam labels.second m.params.second).withParam
    labels.third m.params.third).withParam labels.fourth m.params.fourth

/- Encoding a pattern gives a canonical program. -/

theorem canonicalParams_params (p : Pattern) (effect : Effect) :
    effect.CanonicalParams (p.params effect) := by
  have hgiven {v : Int32} {default : Int} (h : 1 ≤ default) : 1 ≤ saturate (given v default) :=
    le_saturate (one_le_given h)
  cases effect with
  | solid => exact ⟨rfl, rfl, rfl⟩
  | gradient => exact ⟨rfl, rfl, rfl⟩
  | rainbow => exact ⟨rfl, rfl, rfl⟩
  | wipe => exact ⟨rfl, rfl, rfl⟩
  | sparkle => exact ⟨hgiven (by decide), rfl, rfl⟩
  | pulse =>
    have hrhythm : 10 ≤ p.pulseRhythm := by
      rw [pulseRhythm]
      omega
    exact ⟨le_saturate hrhythm, rfl, rfl⟩
  | fire => exact ⟨hgiven (by decide), hgiven (by decide), rfl⟩
  | candle => exact ⟨hgiven (by decide), hgiven (by decide), rfl⟩
  | wave =>
    have hcount : 1 ≤ given p.waveCount 3 := one_le_given (by decide)
    have hleast : 1 ≤ min 10 (given p.waveCount 3) := by omega
    have hmost : min 10 (given p.waveCount 3) ≤ 10 := by omega
    exact ⟨le_saturate hleast, saturate_le hmost⟩
  | scanner => exact ⟨rfl, hgiven (by decide), hgiven (by decide)⟩

theorem directionByte_eq (v : Int32) : directionByte v = 0 ∨ directionByte v = 1 := by
  have h := directionByte_toNat v
  have hcases : (directionByte v).toNat = 0 ∨ (directionByte v).toNat = 1 := by omega
  rcases hcases with hzero | hone
  · exact .inl (UInt8.toNat_inj.mp hzero)
  · exact .inr (UInt8.toNat_inj.mp hone)

theorem one_le_level {v default : Int32} (h : 1 ≤ default.toInt) : 1 ≤ level v default :=
  le_saturate (one_le_given h)

theorem canonical_programWith (p : Pattern) (effect : Effect) :
    (p.programWith effect).Canonical where
  flags := rfl
  colorMode := rfl
  reserved := rfl
  length_palette := List.length_pos_iff.mpr (paletteColors_ne_nil p.colors)
  primary := by
    rw [← List.head?_eq_getElem?]
    exact head?_paletteColors p.colors
  brightness := one_le_level (by decide)
  speed := one_le_level (by decide)
  direction := by
    rw [show (p.programWith effect).params.fourth = directionByte p.direction from
      p.params_fourth effect]
    exact directionByte_eq p.direction
  params := p.canonicalParams_params effect

/- A canonical program is the one of the pattern that is read off it. -/

theorem given_ofByte {b : UInt8} {default : Int} (h : 1 ≤ b) :
    given (ofByte b) default = b.toNat := by
  have hone : 1 ≤ b.toNat := UInt8.le_iff_toNat_le.mp h
  rw [given, toInt_ofByte, if_neg (by omega)]

theorem saturate_given_ofByte {b : UInt8} {default : Int} (h : 1 ≤ b) :
    saturate (given (ofByte b) default) = b := by
  rw [given_ofByte h, saturate_byte]

theorem directionByte_ofByte {b : UInt8} (h : b = 0 ∨ b = 1) : directionByte (ofByte b) = b := by
  rcases h with rfl | rfl
  · rfl
  · rfl

theorem params_ofProgram {m : Program} (h : m.Canonical) :
    (ofProgram m).params m.effect = m.params := by
  have hparams := h.params
  have hdirection := directionByte_ofByte h.direction
  obtain ⟨flags, effect, brightness, speed, ⟨first, second, third, fourth⟩, mode, reserved, primary,
    secondary, palette, hpalette⟩ := m
  simp only at hparams hdirection
  cases effect with
  | solid | gradient | rainbow | wipe =>
    obtain ⟨rfl, rfl, rfl⟩ := hparams
    simp [ofProgram, withParam, Effect.labels, set, params, hdirection]
  | sparkle =>
    obtain ⟨hfirst, rfl, rfl⟩ := hparams
    simp [ofProgram, withParam, Effect.labels, set, params, hdirection,
      saturate_given_ofByte hfirst]
  | pulse =>
    obtain ⟨hfirst, rfl, rfl⟩ := hparams
    have hrhythm : max 10 (if 0 < (first.toNat : Int) then (first.toNat : Int)
        else 255 - (speed.toNat : Int)) = first.toNat := by
      have hten : 10 ≤ first.toNat := UInt8.le_iff_toNat_le.mp hfirst
      rw [if_pos (by omega)]
      omega
    simp only [ofProgram, withParam, Effect.labels, set, params, hdirection, pulseRhythm,
      toInt_ofByte, hrhythm, saturate_byte]
  | fire | candle =>
    obtain ⟨hfirst, hsecond, rfl⟩ := hparams
    simp [ofProgram, withParam, Effect.labels, set, params, hdirection,
      saturate_given_ofByte hfirst, saturate_given_ofByte hsecond]
  | wave =>
    obtain ⟨hleast, hmost⟩ := hparams
    have hcount : min 10 (first.toNat : Int) = first.toNat := by
      have hten : first.toNat ≤ 10 := UInt8.le_iff_toNat_le.mp hmost
      omega
    simp only [ofProgram, withParam, Effect.labels, set, params, hdirection, given_ofByte hleast,
      hcount, toInt_ofByte, saturate_byte]
  | scanner =>
    obtain ⟨rfl, hsecond, hthird⟩ := hparams
    simp [ofProgram, withParam, Effect.labels, set, params, hdirection,
      saturate_given_ofByte hsecond, saturate_given_ofByte hthird]

/-- Labels name quantities, so what is no quantity is as it was. -/
theorem withParam_fields (p : Pattern) (label : Option Quantity) (value : UInt8) :
    (p.withParam label value).effect = p.effect ∧ (p.withParam label value).colors = p.colors ∧
      (p.withParam label value).background = p.background := by
  cases label with
  | none => exact ⟨rfl, rfl, rfl⟩
  | some q => cases q <;> exact ⟨rfl, rfl, rfl⟩

theorem ofProgram_fields (m : Program) :
    (ofProgram m).effect = m.effect.name ∧ (ofProgram m).colors = m.palette.map Rgb.text ∧
      (ofProgram m).background = some m.secondary.text := by
  simp only [ofProgram, withParam_fields, and_self]

/-- No label names the brightness or the speed. -/
theorem ofProgram_levels (m : Program) :
    (ofProgram m).brightness = ofByte m.brightness ∧ (ofProgram m).speed = ofByte m.speed := by
  obtain ⟨flags, effect, brightness, speed, params, mode, reserved, primary, secondary, palette,
    hpalette⟩ := m
  cases effect <;> exact ⟨rfl, rfl⟩

theorem paletteColors_text {palette : List Rgb} (hne : 1 ≤ palette.length)
    (hle : palette.length ≤ maxPalette) : paletteColors (palette.map Rgb.text) = palette := by
  have hempty : (palette.map Rgb.text).isEmpty = false := by
    rw [List.isEmpty_eq_false_iff, ne_eq, List.map_eq_nil_iff]
    exact List.ne_nil_of_length_pos hne
  have htake : (palette.map Rgb.text).take maxPalette = palette.map Rgb.text :=
    List.take_of_length_le (by rw [List.length_map]; exact hle)
  have hcolor : (fun c : Rgb => (Color.parseOr .white c.text).1) = id := by
    funext c
    rw [Color.parseOr_of_parse (Color.parse_text c), id]
  rw [paletteColors, hempty, if_neg Bool.false_ne_true, htake, List.map_map]
  show palette.map (fun c : Rgb => (Color.parseOr .white c.text).1) = palette
  rw [hcolor, List.map_id]

theorem paletteWarnings_text {palette : List Rgb} (hle : palette.length ≤ maxPalette) :
    paletteWarnings (palette.map Rgb.text) = [] := by
  have hlength : ¬ maxPalette < (palette.map Rgb.text).length := by
    rw [List.length_map]
    omega
  rw [paletteWarnings, if_neg hlength, List.nil_append, List.flatMap_eq_nil_iff]
  intro token htoken
  obtain ⟨c, -, rfl⟩ := List.mem_map.mp (List.mem_of_mem_take htoken)
  rw [Color.parseOr_of_parse (Color.parse_text c)]

theorem secondary_ofProgram (m : Program) :
    (ofProgram m).secondaryColor = m.secondary ∧ (ofProgram m).secondaryWarnings = [] := by
  have htoken : (ofProgram m).backgroundToken = some m.secondary.text := by
    rw [backgroundToken_eq, (ofProgram_fields m).2.2]
    simp only [Rgb.trim_text]
    rfl
  rw [secondaryColor, secondaryWarnings, htoken]
  simp only [Color.parseOr_of_parse (Color.parse_text m.secondary), and_self]

theorem programWith_ofProgram {m : Program} (h : m.Canonical) :
    (ofProgram m).programWith m.effect = m := by
  have hpalette : paletteColors (ofProgram m).colors = m.palette := by
    rw [(ofProgram_fields m).2.1]
    exact paletteColors_text h.length_palette m.palette_le
  have hprimary : m.palette.headD .white = m.primary := by
    rw [List.headD_eq_head?_getD, List.head?_eq_getElem?, h.primary, Option.getD_some]
  have hbrightness : level (ofProgram m).brightness defaultBrightness = m.brightness := by
    rw [(ofProgram_levels m).1]
    exact saturate_given_ofByte h.brightness
  have hspeed : level (ofProgram m).speed defaultSpeed = m.speed := by
    rw [(ofProgram_levels m).2]
    exact saturate_given_ofByte h.speed
  have hflags := h.flags
  have hmode := h.colorMode
  have hreserved := h.reserved
  have hparams := params_ofProgram h
  have hsecondary := (secondary_ofProgram m).1
  simp only [programWith, hpalette, hprimary, hbrightness, hspeed, hparams, hsecondary]
  obtain ⟨flags, effect, brightness, speed, params, mode, reserved, primary, secondary, palette,
    hle⟩ := m
  simp only at hflags hmode hreserved
  subst hflags hmode hreserved
  rfl

theorem encode_ofProgram {m : Program} (h : m.Canonical) : (ofProgram m).encode = .ok (m, []) := by
  have heffect : Effect.ofName? (ofProgram m).effect = some m.effect := by
    rw [(ofProgram_fields m).1]
    exact Effect.ofName?_name m.effect
  have hwarnings : (ofProgram m).encodeWarnings = [] := by
    rw [encodeWarnings, (ofProgram_fields m).2.1, paletteWarnings_text m.palette_le,
      (secondary_ofProgram m).2, List.append_nil]
  exact encode_eq_ok_iff.mpr ⟨m.effect, heffect, (programWith_ofProgram h).symm, hwarnings.symm⟩

end Pattern

theorem encode_image (b : List UInt8) :
    ((∃ (p : Pattern) (program : Program) (warnings : List Warning),
        p.encode = .ok (program, warnings) ∧ program.bytes = b) ↔
      ∃ m : Program, Program.decode b = .ok m ∧ m.Canonical) ∧
    ∀ m : Program, Program.decode b = .ok m → m.Canonical →
      ∃ program : Program,
        (Pattern.ofProgram m).encode = .ok (program, []) ∧ program.bytes = b := by
  refine ⟨⟨?_, ?_⟩, ?_⟩
  · rintro ⟨p, program, warnings, hencode, rfl⟩
    obtain ⟨effect, -, rfl, -⟩ := Pattern.encode_eq_ok_iff.mp hencode
    exact ⟨_, Program.decode_bytes _, p.canonical_programWith effect⟩
  · rintro ⟨m, hdecode, hcanonical⟩
    exact ⟨Pattern.ofProgram m, m, [], Pattern.encode_ofProgram hcanonical,
      Program.bytes_of_decode hdecode⟩
  · intro m hdecode hcanonical
    exact ⟨m, Pattern.encode_ofProgram hcanonical, Program.bytes_of_decode hdecode⟩

/-- Ten waves, backward, over two colours. -/
def tenWaves : Program where
  flags := 0
  effect := .wave
  brightness := 1
  speed := 255
  params := ⟨10, 0, 255, 1⟩
  colorMode := 0
  reserved := Vector.replicate 8 0
  primary := ⟨0, 160, 255⟩
  secondary := ⟨10, 11, 12⟩
  palette := [⟨0, 160, 255⟩, ⟨255, 255, 255⟩]
  palette_le := by decide

theorem encode_image_tenWaves :
    Program.decode tenWaves.bytes = .ok tenWaves ∧ tenWaves.Canonical ∧
      ∃ program : Program,
        (Pattern.ofProgram tenWaves).encode = .ok (program, []) ∧
          program.bytes = tenWaves.bytes := by
  have hcanonical : tenWaves.Canonical :=
    ⟨rfl, rfl, rfl, by decide, rfl, by decide, by decide, by decide, ⟨by decide, by decide⟩⟩
  have hdecode := Program.decode_bytes tenWaves
  exact ⟨hdecode, hcanonical, (encode_image tenWaves.bytes).2 tenWaves hdecode hcanonical⟩

end LedPattern
