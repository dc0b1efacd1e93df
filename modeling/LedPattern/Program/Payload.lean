import LedPattern.Color.Rgb
import LedPattern.Effect
/-!
What follows the header of a program, field by field and not yet checked.
-/
namespace LedPattern

structure Payload where
  effect : UInt8
  brightness : UInt8
  speed : UInt8
  params : Slots UInt8
  colorMode : UInt8
  reserved : Vector UInt8 8
  primary : Rgb
  secondary : Rgb
  /-- How many colours the palette is said to have. -/
  count : UInt8
  /-- The bytes of the palette. -/
  colors : List UInt8
deriving DecidableEq, Repr

namespace Payload

def bytes (p : Payload) : List UInt8 :=
  [p.effect, p.brightness, p.speed] ++ p.params.toList ++ [p.colorMode] ++ p.reserved.toList ++
    p.primary.bytes ++ p.secondary.bytes ++ [p.count] ++ p.colors

/-- The fields of a payload, unless it is too short to hold those before the palette. -/
def ofBytes? : List UInt8 → Option Payload
  | effect :: brightness :: speed :: p₁ :: p₂ :: p₃ :: p₄ :: colorMode ::
      r₁ :: r₂ :: r₃ :: r₄ :: r₅ :: r₆ :: r₇ :: r₈ ::
      red :: green :: blue :: red' :: green' :: blue' :: count :: colors =>
    some { effect, brightness, speed, params := ⟨p₁, p₂, p₃, p₄⟩, colorMode,
           reserved := #v[r₁, r₂, r₃, r₄, r₅, r₆, r₇, r₈],
           primary := ⟨red, green, blue⟩, secondary := ⟨red', green', blue'⟩, count, colors }
  | _ => none

theorem ofBytes?_bytes (p : Payload) : ofBytes? p.bytes = some p := by
  obtain ⟨effect, brightness, speed, params, mode, ⟨⟨reserved⟩, hreserved⟩, primary, secondary,
    count, colors⟩ := p
  match reserved, hreserved with
  | [_, _, _, _, _, _, _, _], _ =>
    simp [bytes, ofBytes?, Slots.toList, Rgb.bytes, Vector.toList]

theorem bytes_of_ofBytes? {b : List UInt8} {p : Payload} (h : ofBytes? b = some p) :
    p.bytes = b := by
  unfold ofBytes? at h
  split at h
  · simp only [Option.some.injEq] at h
    subst h
    simp [bytes, Slots.toList, Rgb.bytes, Vector.toList]
  · simp at h

end Payload
end LedPattern
