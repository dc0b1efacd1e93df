import LedPattern.Color.Name
import LedPattern.Proofs.Text.Hexadecimal
/-!
A colour that was written as `#RRGGBB` is read back, and is so too as a token of a pattern, where it is
put in lower case first.
-/
namespace LedPattern
namespace Rgb

theorem parse_hash {digits : Text} {c : Rgb} (h : ∀ d ∈ digits, Text.isHexDigit d = true)
    (hc : ofDigits? (digits.filterMap Text.hexValue?) = some c) : parse ('#' :: digits) = .ok c := by
  have hpart : hexPart ('#' :: digits) = digits := rfl
  have hall : digits.all Text.isHexDigit = true := List.all_eq_true.mpr h
  simp only [parse, Text.trim_hash_hexDigits h, hpart, hall, if_true, hc]

/-- Six digits, two for each channel, in the spelling that is given for single digits. -/
def spelled (digit : Nat → Char) (c : Rgb) : Text :=
  c.bytes.flatMap fun b => [digit (b.toNat / 16), digit (b.toNat % 16)]

section Spelled

variable {digit : Nat → Char} (hdigit : ∀ n, n < 16 → Text.hexValue? (digit n) = some n)
include hdigit

theorem isHexDigit_of_mem_spelled (c : Rgb) : ∀ d ∈ spelled digit c, Text.isHexDigit d = true := by
  have hex {n : Nat} (hn : n < 16) : Text.isHexDigit (digit n) = true := by
    rw [Text.isHexDigit, hdigit n hn, Option.isSome_some]
  intro d hd
  obtain ⟨b, -, hb⟩ := List.mem_flatMap.mp hd
  have hlt := b.toNat_lt
  simp only [List.mem_cons, List.not_mem_nil, or_false] at hb
  rcases hb with rfl | rfl
  · exact hex (by omega)
  · exact hex (by omega)

theorem parse_hash_spelled (c : Rgb) : parse ('#' :: spelled digit c) = .ok c := by
  apply parse_hash (isHexDigit_of_mem_spelled hdigit c)
  have hvalue (b : UInt8) : Text.hexValue? (digit (b.toNat / 16)) = some (b.toNat / 16) ∧
      Text.hexValue? (digit (b.toNat % 16)) = some (b.toNat % 16) := by
    have hlt := b.toNat_lt
    exact ⟨hdigit _ (by omega), hdigit _ (by omega)⟩
  simp only [spelled, bytes, List.flatMap_cons, List.flatMap_nil, List.cons_append,
    List.nil_append, List.filterMap_cons, List.filterMap_nil, (hvalue c.red).1, (hvalue c.red).2,
    (hvalue c.green).1, (hvalue c.green).2, (hvalue c.blue).1, (hvalue c.blue).2, ofDigits?,
    Nat.div_add_mod, UInt8.ofNat_toNat]

end Spelled

theorem text_eq_spelled (c : Rgb) :
    c.text = '#' :: spelled (fun n => (Text.hexDigit n).toUpper) c := rfl

theorem lower_text (c : Rgb) : Text.lower c.text = '#' :: spelled Text.hexDigit c := by
  have hlower (b : UInt8) :
      (Text.hexDigit (b.toNat / 16)).toUpper.toLower = Text.hexDigit (b.toNat / 16) ∧
        (Text.hexDigit (b.toNat % 16)).toUpper.toLower = Text.hexDigit (b.toNat % 16) := by
    have hlt := b.toNat_lt
    exact ⟨Text.toLower_toUpper_hexDigit (by omega), Text.toLower_toUpper_hexDigit (by omega)⟩
  have hhash : Char.toLower '#' = '#' := by decide
  simp only [text_eq_spelled, Text.lower, spelled, bytes, List.flatMap_cons, List.flatMap_nil,
    List.cons_append, List.nil_append, List.map_cons, List.map_nil, hhash, (hlower c.red).1,
    (hlower c.red).2, (hlower c.green).1, (hlower c.green).2, (hlower c.blue).1,
    (hlower c.blue).2]

theorem trim_text (c : Rgb) : Text.trim c.text = c.text := by
  rw [text_eq_spelled]
  exact Text.trim_hash_hexDigits
    (isHexDigit_of_mem_spelled (fun _ hn => Text.hexValue?_toUpper_hexDigit hn) c)

end Rgb

namespace Color

theorem lookup_names_hash (digits : Text) : names.lookup ('#' :: digits) = none := by
  have hnames : ∀ p ∈ names, p.1.head? ≠ some '#' := by decide
  rw [List.lookup_eq_none_iff]
  intro p hp
  have hne := hnames p hp
  rw [bne_iff_ne]
  intro heq
  rw [← heq] at hne
  exact hne rfl

/-- No colour has the name or the form of bare digits once it begins with a `#`. -/
theorem resolve_hash {token digits : Text} (h : Text.fold token = '#' :: digits) :
    resolve token = '#' :: digits := by
  have hbare : isBareHex ('#' :: digits) = false := by
    rw [isBareHex, List.all_cons, show Text.isHexDigit '#' = false by decide, Bool.false_and,
      Bool.and_false]
  simp only [resolve, h, lookup_names_hash, hbare, Bool.false_eq_true, if_false]

theorem parse_text (c : Rgb) : Color.parse c.text = .ok c := by
  have hfold : Text.fold c.text = '#' :: Rgb.spelled Text.hexDigit c := by
    rw [Text.fold, Rgb.trim_text, Rgb.lower_text]
  rw [Color.parse, resolve_hash hfold]
  exact Rgb.parse_hash_spelled (fun _ hn => Text.hexValue?_hexDigit hn) c

end Color
end LedPattern
