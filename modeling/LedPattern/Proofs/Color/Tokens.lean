import LedPattern.Color.Scheme
import LedPattern.Proofs.Color.Grammar
import LedPattern.Proofs.Color.Resolve
/-!
Colour tokens and schemes. A token stands for a colour if it is a name or is written in digits, and what
it stands for does not depend on how often it has been resolved. Every scheme is a palette of colours
that a program can hold whole.
-/
namespace LedPattern
namespace Color

theorem isBareHex_iff {word : Text} : isBareHex word = true ↔
    (word.length = 3 ∨ word.length = 6) ∧ ∀ d ∈ word, ∃ n, Text.HexDigit d n := by
  simp only [isBareHex, Bool.and_eq_true, Bool.or_eq_true, beq_iff_eq, List.all_eq_true,
    Text.isHexDigit_iff]

theorem isBareHex_lower (word : Text) : isBareHex (Text.lower word) = isBareHex word := by
  rw [isBareHex, isBareHex, Text.all_isHexDigit_lower, Text.lower, List.length_map]

/-- Some names have three or six letters, but none has only digits. -/
theorem lookup_names_of_isBareHex {word : Text} (h : isBareHex word = true) :
    names.lookup word = none := by
  have hnames : ∀ p ∈ names, isBareHex p.1 = false := by decide
  rw [List.lookup_eq_none_iff]
  intro p hp
  rw [bne_iff_ne]
  intro heq
  rw [heq, hnames p hp] at h
  cases h

theorem resolve_of_isBareHex {token : Text} (h : isBareHex (Text.fold token) = true) :
    resolve token = '#' :: Text.fold token := by
  simp only [resolve, lookup_names_of_isBareHex h, h, if_true]

/-- A token in digits, with a `#` or without, gets a `#` and lower case. -/
theorem resolve_of_unhashed {token digits : Text} (h : Rgb.Unhashed (Text.trim token) digits)
    (hbare : isBareHex digits = true) : resolve token = '#' :: Text.lower digits := by
  generalize hbody : Text.trim token = body at h
  have hfold : Text.fold token = Text.lower body := by rw [Text.fold, hbody]
  cases h with
  | hash => exact resolve_hash hfold
  | bare h =>
    rw [resolve_of_isBareHex (by rw [hfold, isBareHex_lower, hbare]), hfold]

theorem parse_resolve_of_parse {token : Text} {c : Rgb} (h : Rgb.parse token = .ok c) :
    Rgb.parse (resolve token) = .ok c := by
  have hdigits := (Rgb.parse_eq_ok_iff.mp h).isHexDigit
  have hvalues := (Rgb.spells_iff hdigits).mp (Rgb.parse_eq_ok_iff.mp h)
  have hbare := isBareHex_iff.mpr (Rgb.exists_parse_eq_ok_iff.mp ⟨c, h⟩)
  rw [resolve_of_unhashed (Rgb.unhashed_iff.mpr rfl) hbare]
  apply Rgb.parse_hash
  · rw [← List.all_eq_true, Text.all_isHexDigit_lower, List.all_eq_true]
    exact hdigits
  · rw [Text.filterMap_hexValue?_lower, hvalues]

theorem exists_parse_hash {digits : Text} (h : isBareHex digits = true) :
    ∃ c, Rgb.parse ('#' :: digits) = .ok c := by
  have htrim := Text.trim_hash_hexDigits (isHexDigit_of_isBareHex h)
  rw [Rgb.exists_parse_eq_ok_iff, htrim]
  exact isBareHex_iff.mp h

theorem exists_eq_ok_of_isOk {ε α : Type} {x : Except ε α} (h : x.isOk = true) :
    ∃ a, x = .ok a := by
  cases x with
  | ok a => exact ⟨a, rfl⟩
  | error e => cases h

theorem exists_parse_resolve_iff (token : Text) : (∃ c, Rgb.parse (resolve token) = .ok c) ↔
    (∃ hex, (Text.fold token, hex) ∈ names) ∨
      ∃ digits, (Text.fold token = digits ∨ Text.fold token = '#' :: digits) ∧
        isBareHex digits = true := by
  rcases resolve_cases token with hname | ⟨hhash, hbare⟩ | ⟨hword, hlookup, hbare⟩
  · have hnames : ∀ p ∈ names, Except.isOk (Rgb.parse p.2) = true := by decide
    have hok := hnames (Text.fold token, resolve token) hname
    exact iff_of_true (exists_eq_ok_of_isOk hok) (.inl ⟨_, hname⟩)
  · rw [hhash]
    exact iff_of_true (exists_parse_hash hbare) (.inr ⟨_, .inl rfl, hbare⟩)
  · rw [hword]
    constructor
    · intro h
      have hdigits := isBareHex_iff.mpr (Rgb.exists_parse_eq_ok_iff.mp h)
      rw [Text.trim_fold] at hdigits
      refine .inr ⟨_, ?_, hdigits⟩
      have hunhashed := Rgb.unhashed_iff.mpr (Eq.refl (Rgb.hexPart (Text.fold token)))
      generalize Rgb.hexPart (Text.fold token) = digits at hunhashed
      generalize Text.fold token = word at hunhashed
      cases hunhashed with
      | hash => exact .inr rfl
      | bare => exact .inl rfl
    · rintro (⟨hex, hmem⟩ | ⟨digits, rfl | hfold, hdigits⟩)
      · have hne := List.lookup_eq_none_iff.mp hlookup _ hmem
        exact absurd rfl (bne_iff_ne.mp hne)
      -- Bare digits would have got their `#`.
      · rw [hbare] at hdigits
        cases hdigits
      · rw [hfold]
        exact exists_parse_hash hdigits

/-! ## Schemes -/

theorem scheme_mem (name : Text) : scheme name ∈ ["#FFFFFF".toList] :: schemes.map Prod.snd := by
  rw [scheme, scheme?]
  cases hname : schemes.lookup (Text.fold name) with
  | none => exact List.mem_cons_self
  | some palette =>
    obtain ⟨before, after, hschemes, -⟩ := List.lookup_eq_some_iff.mp hname
    rw [hschemes, List.map_append, List.map_cons]
    exact List.mem_cons_of_mem _ (List.mem_append_right _ List.mem_cons_self)

theorem scheme_spec (name : Text) : (∀ token ∈ scheme name, ∃ c, Rgb.parse token = .ok c) ∧
    1 ≤ (scheme name).length ∧ (scheme name).length ≤ maxPalette := by
  have hschemes : ∀ palette ∈ ["#FFFFFF".toList] :: schemes.map Prod.snd,
      (∀ token ∈ palette, (Rgb.parse token).isOk = true) ∧
        1 ≤ palette.length ∧ palette.length ≤ maxPalette := by decide
  obtain ⟨hok, hlength⟩ := hschemes (scheme name) (scheme_mem name)
  exact ⟨fun token htoken => exists_eq_ok_of_isOk (hok token htoken), hlength⟩

end Color

theorem color_resolves_once (token scheme : Text) :
    Rgb.parse (Color.resolve (Color.resolve token)) = Rgb.parse (Color.resolve token) ∧
    (∀ c, Rgb.parse token = .ok c → Rgb.parse (Color.resolve token) = .ok c) ∧
    ((∃ c, Rgb.parse (Color.resolve token) = .ok c) ↔
      (∃ hex, (Text.lower (Text.trim token), hex) ∈ Color.names) ∨
        ∃ digits, (Text.lower (Text.trim token) = digits ∨
            Text.lower (Text.trim token) = '#' :: digits) ∧
          (digits.length = 3 ∨ digits.length = 6) ∧ ∀ d ∈ digits, ∃ n, Text.HexDigit d n) ∧
    (∀ color ∈ Color.scheme scheme, ∃ c, Rgb.parse color = .ok c) ∧
    1 ≤ (Color.scheme scheme).length ∧ (Color.scheme scheme).length ≤ 8 := by
  refine ⟨Color.parse_resolve token, fun c => Color.parse_resolve_of_parse, ?_,
    Color.scheme_spec scheme⟩
  simp only [← Color.isBareHex_iff]
  exact Color.exists_parse_resolve_iff token

theorem color_resolves_once_party :
    Rgb.parse " #aBc".toList = .ok ⟨170, 187, 204⟩ ∧
      Rgb.parse (Color.resolve " #aBc".toList) = .ok ⟨170, 187, 204⟩ ∧
      Rgb.parse (Color.resolve (Color.resolve " #aBc".toList)) = .ok ⟨170, 187, 204⟩ ∧
      "#FF00FF".toList ∈ Color.scheme " Party".toList ∧
      ∃ c, Rgb.parse "#FF00FF".toList = .ok c := by
  obtain ⟨htwice, hkept, -, hcolors, -⟩ := color_resolves_once " #aBc".toList " Party".toList
  have hparse : Rgb.parse " #aBc".toList = .ok ⟨170, 187, 204⟩ := by decide
  have hmagenta : "#FF00FF".toList ∈ Color.scheme " Party".toList := by decide
  exact ⟨hparse, hkept _ hparse, htwice.trans (hkept _ hparse), hmagenta, hcolors _ hmagenta⟩

end LedPattern
