import LedPattern.Pattern.Encode
import LedPattern.Proofs.Text.Strip
/-!
What each part of the encoder does to the value that it is given. The lemmas turn bytes into integers,
so that whoever uses them is left with arithmetic.
-/
namespace LedPattern

namespace Effect

theorem ofName?_trim (t : Text) : ofName? (Text.trim t) = ofName? t := by
  rw [ofName?, Text.fold_trim, ofName?]

theorem ofName?_nil : ofName? [] = none := by decide

theorem ofName?_name (e : Effect) : ofName? e.name = some e := by
  cases e <;> decide

end Effect

theorem saturate_toNat {n : Int} (h : 0 ≤ n) : ((saturate n).toNat : Int) = min n 255 := by
  rw [saturate, UInt8.toNat_ofNat']
  omega

/-- A byte is its own nearest byte. -/
theorem saturate_byte (b : UInt8) : saturate (b.toNat : Int) = b := by
  have hb := b.toNat_lt
  have hmin : (min (b.toNat : Int) 255).toNat = b.toNat := by omega
  rw [saturate, hmin, UInt8.ofNat_toNat]

theorem le_saturate {b : UInt8} {n : Int} (h : (b.toNat : Int) ≤ n) : b ≤ saturate n := by
  have hb := b.toNat_lt
  have hn := saturate_toNat (n := n) (by omega)
  rw [UInt8.le_iff_toNat_le]
  omega

theorem saturate_le {b : UInt8} {n : Int} (h : n ≤ (b.toNat : Int)) : saturate n ≤ b := by
  have hb := b.toNat_lt
  rw [UInt8.le_iff_toNat_le, saturate, UInt8.toNat_ofNat']
  omega

namespace Color

theorem parseOr_fst (replacement : Rgb) (token : Text) :
    (parseOr replacement token).1 =
      (Rgb.parse (Color.resolve token)).toOption.getD replacement := by
  rw [parseOr, Color.parse]
  cases Rgb.parse (Color.resolve token) <;> rfl

theorem resolve_trim (token : Text) : resolve (Text.trim token) = resolve token := by
  rw [resolve, resolve, Text.fold_trim]

theorem parseOr_of_parse {replacement c : Rgb} {token : Text} (h : Color.parse token = .ok c) :
    parseOr replacement token = (c, []) := by
  rw [parseOr, h]

end Color

namespace Pattern

theorem one_le_given {v : Int32} {default : Int} (h : 1 ≤ default) : 1 ≤ given v default := by
  rw [given]
  split <;> omega

theorem level_toNat {v default : Int32} (h : 0 ≤ default.toInt ∧ default.toInt ≤ 255) :
    ((level v default).toNat : Int) =
      if v.toInt ≤ 0 then default.toInt else min v.toInt 255 := by
  rw [level, given]
  split
  · rw [saturate_toNat h.1]
    omega
  · rw [saturate_toNat (by omega)]

theorem directionByte_toNat (v : Int32) : ((directionByte v).toNat : Int) = v.toInt % 2 := by
  rw [directionByte, UInt8.toNat_ofNat']
  omega

theorem params_fourth (p : Pattern) (effect : Effect) :
    (p.params effect).fourth = directionByte p.direction := by
  cases effect <;> rfl

theorem backgroundToken_eq (p : Pattern) :
    p.backgroundToken =
      match p.background with
      | none => none
      | some token => if Text.trim token = [] then none else some (Text.trim token) := by
  rw [backgroundToken]
  cases p.background with
  | none => rfl
  | some token =>
    by_cases hblank : Text.trim token = []
    · simp only [Option.map_some, hblank, if_pos]
      rfl
    · simp [Option.filter, hblank]

/-- A blank effect is no spelling of any, so asking for the spelling is enough. -/
theorem effectOf_eq_ok_iff {p : Pattern} {effect : Effect} :
    p.effectOf = .ok effect ↔ Effect.ofName? p.effect = some effect := by
  rw [← Effect.ofName?_trim p.effect, effectOf]
  cases hname : Text.trim p.effect with
  | nil => simp [Effect.ofName?_nil]
  | cons c rest =>
    simp only [List.isEmpty_cons, Bool.false_eq_true, if_false]
    cases Effect.ofName? (c :: rest) <;> simp

theorem encode_eq_ok_iff {p : Pattern} {program : Program} {warnings : List Warning} :
    p.encode = .ok (program, warnings) ↔
      ∃ effect, Effect.ofName? p.effect = some effect ∧
        program = p.programWith effect ∧ warnings = p.encodeWarnings := by
  rw [encode]
  constructor
  · intro h
    cases heffect : p.effectOf with
    | error e =>
      rw [heffect] at h
      cases h
    | ok effect =>
      rw [heffect] at h
      cases h
      exact ⟨effect, effectOf_eq_ok_iff.mp heffect, rfl, rfl⟩
  · rintro ⟨effect, heffect, rfl, rfl⟩
    rw [effectOf_eq_ok_iff.mpr heffect]
    rfl

end Pattern
end LedPattern
