import LedPattern.Proofs.Color.Written
import LedPattern.Proofs.Pattern.Encode
import LedPattern.Proofs.Text.Case
/-!
Resolving a colour token twice. The first time a name becomes its digits and everything else is put
in lower case; the second time changes at most the case of digits, so the colour is the same, and so
is the answer to whether the token was blank.
-/
namespace LedPattern
namespace Color

/-- The three things that a token can become. -/
theorem resolve_cases (token : Text) :
    (Text.fold token, resolve token) ∈ names ∨
      (resolve token = '#' :: Text.fold token ∧ isBareHex (Text.fold token) = true) ∨
      (resolve token = Text.fold token ∧ names.lookup (Text.fold token) = none ∧
        isBareHex (Text.fold token) = false) := by
  rw [resolve]
  cases hname : names.lookup (Text.fold token) with
  | some hex =>
    obtain ⟨before, after, hnames, -⟩ := List.lookup_eq_some_iff.mp hname
    refine .inl ?_
    rw [hnames]
    exact List.mem_append_right before List.mem_cons_self
  | none =>
    cases hbare : isBareHex (Text.fold token) with
    | true => exact .inr (.inl ⟨rfl, rfl⟩)
    | false => exact .inr (.inr ⟨rfl, rfl, rfl⟩)

theorem isHexDigit_of_isBareHex {t : Text} (h : isBareHex t = true) :
    ∀ d ∈ t, Text.isHexDigit d = true := by
  rw [isBareHex, Bool.and_eq_true] at h
  exact List.all_eq_true.mp h.2

theorem parse_resolve (token : Text) : Color.parse (resolve token) = Color.parse token := by
  show Rgb.parse (resolve (resolve token)) = Rgb.parse (resolve token)
  rcases resolve_cases token with hname | ⟨hhash, hbare⟩ | ⟨hword, hlookup, hbare⟩
  · have hnames : ∀ p ∈ names, Rgb.parse (resolve p.2) = Rgb.parse p.2 := by decide
    exact hnames (Text.fold token, resolve token) hname
  · have hfold : Text.fold ('#' :: Text.fold token) = '#' :: Text.fold token := by
      rw [Text.fold, Text.trim_hash_hexDigits (isHexDigit_of_isBareHex hbare)]
      show '#' :: Text.lower (Text.fold token) = '#' :: Text.fold token
      rw [Text.fold, Text.lower_lower]
    rw [hhash, resolve_hash hfold]
  · have hagain : resolve (Text.fold token) = Text.fold token := by
      simp only [resolve, Text.fold_fold, hlookup, hbare, Bool.false_eq_true, if_false]
    rw [hword, hagain]

/-- Nothing but a blank token becomes empty. -/
theorem trim_resolve_eq_nil_iff (token : Text) :
    Text.trim (resolve token) = [] ↔ Text.trim token = [] := by
  rw [← Text.fold_eq_nil_iff token]
  rcases resolve_cases token with hname | ⟨hhash, hbare⟩ | ⟨hword, -, -⟩
  · have hnames : ∀ p ∈ names, Text.trim p.2 ≠ [] ∧ p.1 ≠ [] := by decide
    obtain ⟨hhex, hword⟩ := hnames (Text.fold token, resolve token) hname
    exact iff_of_false hhex hword
  · rw [hhash, Text.trim_hash_hexDigits (isHexDigit_of_isBareHex hbare)]
    refine iff_of_false (List.cons_ne_nil _ _) ?_
    intro hnil
    rw [hnil] at hbare
    exact absurd hbare (by decide)
  · rw [hword, Text.trim_fold]

theorem parseOr_resolve_fst (replacement : Rgb) (token : Text) :
    (parseOr replacement (resolve token)).1 = (parseOr replacement token).1 := by
  have hparse := parse_resolve token
  rw [Color.parse, Color.parse] at hparse
  rw [parseOr_fst, parseOr_fst, hparse]

theorem parseOr_trim_fst (replacement : Rgb) (token : Text) :
    (parseOr replacement (Text.trim token)).1 = (parseOr replacement token).1 := by
  rw [parseOr_fst, parseOr_fst, resolve_trim]

end Color

namespace Pattern

/-- A palette does not change when its tokens are resolved beforehand. -/
theorem paletteColors_map_resolve (colors : List Text) :
    paletteColors (colors.map Color.resolve) = paletteColors colors := by
  rw [paletteColors, paletteColors, List.isEmpty_map, ← List.map_take, List.map_map]
  simp only [Function.comp_def, Color.parseOr_resolve_fst]

theorem secondaryColor_resolve {p q : Pattern} {token : Text}
    (hp : p.background = some (Color.resolve token)) (hq : q.background = some token) :
    p.secondaryColor = q.secondaryColor := by
  simp only [secondaryColor, backgroundToken_eq, hp, hq]
  by_cases hblank : Text.trim token = []
  · rw [if_pos hblank, if_pos ((Color.trim_resolve_eq_nil_iff token).mpr hblank)]
  · rw [if_neg hblank, if_neg fun h => hblank ((Color.trim_resolve_eq_nil_iff token).mp h)]
    show (Color.parseOr .black (Text.trim (Color.resolve token))).1 =
      (Color.parseOr .black (Text.trim token)).1
    rw [Color.parseOr_trim_fst, Color.parseOr_trim_fst, Color.parseOr_resolve_fst]

end Pattern
end LedPattern
