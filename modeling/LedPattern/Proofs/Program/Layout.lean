import LedPattern.Program.Basic
import Mathlib.Logic.Basic
/-!
The layout of a program and its decoder are inverse to each other: a text of bytes is read as a program
exactly when it is the layout of that program.
-/
namespace LedPattern

namespace Payload

@[simp] theorem length_bytes (p : Payload) : p.bytes.length = 23 + p.colors.length := by
  simp [bytes, Slots.toList, Rgb.bytes]
  omega

end Payload

namespace Program

theorem length_colors (p : Program) : p.payload.colors.length = 3 * p.palette.length := by
  simp only [payload, List.length_flatMap, Rgb.bytes, List.length_cons, List.length_nil,
    List.map_const', List.sum_replicate_nat]
  omega

theorem count_toNat (p : Program) : p.payload.count.toNat = p.palette.length := by
  have h := p.palette_le
  simp only [maxPalette] at h
  simp only [payload, UInt8.toNat_ofNat']
  omega

theorem length_payload (p : Program) : p.payload.bytes.length = 23 + 3 * p.palette.length := by
  rw [Payload.length_bytes, length_colors]

theorem length_bytes (p : Program) :
    p.bytes.length = minProgramSize + 3 * p.palette.length := by
  rw [bytes, List.length_append, Header.length_bytes, length_payload, minProgramSize]
  omega

/-- Even the longest palette leaves the stated length far from its limit, so nothing of it is lost in
the two bytes that hold it. -/
theorem payloadLength_toNat (p : Program) :
    p.header.payloadLength.toNat = p.payload.bytes.length := by
  have h := p.palette_le
  simp only [maxPalette] at h
  simp only [header, Header.forPayload, UInt16.toNat_ofNat', length_payload]
  omega

/-- Every check of the decoder that a program passed, and what was read once it had. -/
theorem decode_cases {b : List UInt8} {p : Program} (h : decode b = .ok p) :
    ∃ (header : Header) (body : List UInt8) (fields : Payload),
      Header.split? b = some (header, body) ∧
      Payload.ofBytes? body = some fields ∧
      header.magic = Header.expectedMagic ∧
      header.version = Header.expectedVersion ∧
      header.payloadLength.toNat = body.length ∧
      checksum body = header.checksum ∧
      fields.colors.length = 3 * fields.count.toNat ∧
      Effect.ofId? fields.effect = some p.effect ∧
      p.flags = header.flags ∧ p.brightness = fields.brightness ∧ p.speed = fields.speed ∧
      p.params = fields.params ∧ p.colorMode = fields.colorMode ∧
      p.reserved = fields.reserved ∧ p.primary = fields.primary ∧
      p.secondary = fields.secondary ∧ p.palette = Rgb.ofBytes fields.colors := by
  unfold decode at h
  split at h
  · cases h
  · rename_i header body hsplit
    split at h
    · cases h
    · rename_i fields hfields
      by_cases hmagic : header.magic ≠ Header.expectedMagic
      · rw [if_pos hmagic] at h; cases h
      rw [if_neg hmagic] at h
      by_cases hversion : header.version ≠ Header.expectedVersion
      · rw [if_pos hversion] at h; cases h
      rw [if_neg hversion] at h
      by_cases hlength : header.payloadLength.toNat ≠ body.length
      · rw [if_pos hlength] at h; cases h
      rw [if_neg hlength] at h
      by_cases hsum : checksum body ≠ header.checksum
      · rw [if_pos hsum] at h; cases h
      rw [if_neg hsum] at h
      by_cases hcount : maxPalette < fields.count.toNat
      · rw [dif_pos hcount] at h; cases h
      rw [dif_neg hcount] at h
      by_cases hcolors : fields.colors.length ≠ 3 * fields.count.toNat
      · rw [dif_pos hcolors] at h; cases h
      rw [dif_neg hcolors] at h
      split at h
      · cases h
      · rename_i effect heffect
        cases h
        exact ⟨header, body, fields, hsplit, hfields, not_not.mp hmagic, not_not.mp hversion,
          not_not.mp hlength, not_not.mp hsum, not_not.mp hcolors, heffect, rfl, rfl, rfl, rfl, rfl,
          rfl, rfl, rfl, rfl⟩

theorem decode_bytes (p : Program) : decode p.bytes = .ok p := by
  have hmagic : ¬ p.header.magic ≠ Header.expectedMagic := not_not.mpr rfl
  have hversion : ¬ p.header.version ≠ Header.expectedVersion := not_not.mpr rfl
  have hlength : ¬ p.header.payloadLength.toNat ≠ p.payload.bytes.length :=
    not_not.mpr (payloadLength_toNat p)
  have hsum : ¬ checksum p.payload.bytes ≠ p.header.checksum := not_not.mpr rfl
  have hcount : ¬ maxPalette < p.payload.count.toNat := by
    rw [count_toNat]
    exact Nat.not_lt.mpr p.palette_le
  have hcolors : ¬ p.payload.colors.length ≠ 3 * p.payload.count.toNat := by
    rw [length_colors, count_toNat]
    exact not_not.mpr rfl
  have heffect : Effect.ofId? p.payload.effect = some p.effect := Effect.ofId?_id p.effect
  unfold decode bytes
  rw [Header.split?_bytes_append]
  simp only [Payload.ofBytes?_bytes]
  rw [if_neg hmagic, if_neg hversion, if_neg hlength, if_neg hsum, dif_neg hcount,
    dif_neg hcolors]
  split
  · rename_i hnone
    rw [heffect] at hnone
    cases hnone
  · rename_i effect hsome
    rw [heffect, Option.some.injEq] at hsome
    subst hsome
    obtain ⟨_, _, _, _, _, _, _, _, _, palette, _⟩ := p
    simp only [payload, header, Header.forPayload, Rgb.ofBytes_flatMap_bytes]

/-- Only the flags are not determined by what follows the header. -/
theorem bytes_of_decode {b : List UInt8} {p : Program} (h : decode b = .ok p) : p.bytes = b := by
  obtain ⟨header, body, fields, hsplit, hfields, hmagic, hversion, hlength, hsum, hcolors, heffect,
    hflags, hbrightness, hspeed, hparams, hmode, hreserved, hprimary, hsecondary, hpalette⟩ :=
    decode_cases h
  have hpaletteLength : p.palette.length = fields.count.toNat := by
    rw [hpalette, Rgb.length_ofBytes, hcolors]
    omega
  have hpayload : p.payload = fields := by
    have hid : p.effect.id = fields.effect := Effect.id_of_ofId? heffect
    have hflat : p.palette.flatMap Rgb.bytes = fields.colors := by
      rw [hpalette]
      exact Rgb.flatMap_bytes_ofBytes hcolors
    simp only [payload, hid, hflat, hpaletteLength, hbrightness, hspeed, hparams, hmode, hreserved,
      hprimary, hsecondary, UInt8.ofNat_toNat]
  have hbody : p.payload.bytes = body := by
    rw [hpayload]
    exact Payload.bytes_of_ofBytes? hfields
  have hheader : p.header = header := by
    obtain ⟨magic, version, length, sum, flags⟩ := header
    simp only at hmagic hversion hlength hsum hflags
    simp only [Program.header, Header.forPayload, hbody, hsum, hflags, hmagic, hversion, ← hlength,
      UInt16.ofNat_toNat]
  rw [bytes, hheader, hbody]
  exact Header.bytes_append_of_split? hsplit

theorem decode_eq_ok_iff {b : List UInt8} {p : Program} : decode b = .ok p ↔ p.bytes = b := by
  constructor
  · exact bytes_of_decode
  · rintro rfl
    exact decode_bytes p

end Program
end LedPattern
