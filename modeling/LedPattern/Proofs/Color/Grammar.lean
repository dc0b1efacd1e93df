import LedPattern.Proofs.Color.Written
import LedPattern.Proofs.Text.Utf8
import Mathlib.Data.List.Forall2
/-!
Which texts are colours. `Spells` says what three or six digits stand for, and the other texts are told
apart by whether a character is no digit. `parseBytes?` reads the same texts by their bytes: it cuts the
digits into pieces of two bytes, and reads each as a number. A cut outside the text or inside a character
would be refused, and so would a piece that is no number; neither happens, whatever the text is, since
all digits are looked at before the first cut.
-/
namespace LedPattern
namespace Rgb

/-- The text less one `#` at its front, if there is one. -/
inductive Unhashed : Text → Text → Prop
  | hash (digits : Text) : Unhashed ('#' :: digits) digits
  | bare {digits : Text} (h : digits.head? ≠ some '#') : Unhashed digits digits

/-- The colour that three or six digits stand for. -/
inductive Spells (digits : Text) (c : Rgb) : Prop
  | short {r g b : Nat} (h : List.Forall₂ Text.HexDigit digits [r, g, b])
      (hred : c.red.toNat = 17 * r) (hgreen : c.green.toNat = 17 * g)
      (hblue : c.blue.toNat = 17 * b)
  | long {r₁ r₂ g₁ g₂ b₁ b₂ : Nat}
      (h : List.Forall₂ Text.HexDigit digits [r₁, r₂, g₁, g₂, b₁, b₂])
      (hred : c.red.toNat = 16 * r₁ + r₂) (hgreen : c.green.toNat = 16 * g₁ + g₂)
      (hblue : c.blue.toNat = 16 * b₁ + b₂)

theorem unhashed_iff {t digits : Text} : Unhashed t digits ↔ hexPart t = digits := by
  constructor
  · intro h
    cases h with
    | hash => rfl
    | bare h =>
      cases t with
      | nil => rfl
      | cons c rest =>
        have hc : c ≠ '#' := fun hc => h (congrArg some hc)
        rw [hexPart, if_neg hc]
  · intro h
    subst h
    cases t with
    | nil => exact .bare (by simp)
    | cons c rest =>
      by_cases hc : c = '#'
      · subst hc
        exact .hash rest
      · rw [hexPart, if_neg hc]
        exact .bare fun hhead => hc (Option.some.inj hhead)

theorem forall₂_hexDigit_iff {digits : Text} {values : List Nat} :
    List.Forall₂ Text.HexDigit digits values ↔
      (∀ d ∈ digits, Text.isHexDigit d = true) ∧ digits.filterMap Text.hexValue? = values := by
  constructor
  · intro h
    induction h with
    | nil => exact ⟨by simp, rfl⟩
    | cons hd _ ih =>
      have hvalue := Text.hexValue?_eq_some_iff.mpr hd
      refine ⟨List.forall_mem_cons.mpr ⟨Text.isHexDigit_iff.mpr ⟨_, hd⟩, ih.1⟩, ?_⟩
      rw [List.filterMap_cons_some hvalue, ih.2]
  · rintro ⟨hdigits, rfl⟩
    induction digits with
    | nil => exact .nil
    | cons d rest ih =>
      obtain ⟨hd, hrest⟩ := List.forall_mem_cons.mp hdigits
      obtain ⟨n, hn⟩ := Text.isHexDigit_iff.mp hd
      rw [List.filterMap_cons_some (Text.hexValue?_eq_some_iff.mpr hn)]
      exact .cons hn (ih hrest)

theorem ofDigits?_eq_none_iff {values : List Nat} :
    ofDigits? values = none ↔ values.length ≠ 3 ∧ values.length ≠ 6 := by
  unfold ofDigits?
  split
  · simp
  · simp
  · rename_i hthree hsix
    refine iff_of_true rfl ⟨fun hlength => ?_, fun hlength => ?_⟩
    · match values, hlength with
      | [r, g, b], _ => exact hthree r g b rfl
    · match values, hlength with
      | [r₁, r₂, g₁, g₂, b₁, b₂], _ => exact hsix r₁ r₂ g₁ g₂ b₁ b₂ rfl

theorem channel_eq_iff {x : UInt8} {n : Nat} (h : n < 256) : UInt8.ofNat n = x ↔ x.toNat = n := by
  constructor
  · rintro rfl
    exact UInt8.toNat_ofNat_of_lt' h
  · rintro rfl
    exact UInt8.ofNat_toNat

theorem lt_of_forall₂ {digits : Text} {values : List Nat}
    (h : List.Forall₂ Text.HexDigit digits values) : ∀ n ∈ values, n < 16 := by
  obtain ⟨-, rfl⟩ := forall₂_hexDigit_iff.mp h
  intro n hn
  obtain ⟨d, -, hd⟩ := List.mem_filterMap.mp hn
  exact Text.hexValue?_lt hd

theorem Spells.isHexDigit {digits : Text} {c : Rgb} (h : Spells digits c) :
    ∀ d ∈ digits, Text.isHexDigit d = true := by
  cases h with
  | short h | long h => exact (forall₂_hexDigit_iff.mp h).1

theorem spells_iff {digits : Text} {c : Rgb} (hdigits : ∀ d ∈ digits, Text.isHexDigit d = true) :
    Spells digits c ↔ ofDigits? (digits.filterMap Text.hexValue?) = some c := by
  obtain ⟨red, green, blue⟩ := c
  constructor
  · intro h
    cases h with
    | short h hred hgreen hblue | long h hred hgreen hblue =>
      have hlt := lt_of_forall₂ h
      simp only [List.forall_mem_cons] at hlt
      rw [(forall₂_hexDigit_iff.mp h).2, ofDigits?, (channel_eq_iff (by omega)).mpr hred,
        (channel_eq_iff (by omega)).mpr hgreen, (channel_eq_iff (by omega)).mpr hblue]
  · intro h
    generalize hvalues : digits.filterMap Text.hexValue? = values at h
    have hforall := forall₂_hexDigit_iff.mpr ⟨hdigits, hvalues⟩
    have hlt := lt_of_forall₂ hforall
    unfold ofDigits? at h
    split at h
    · simp only [List.forall_mem_cons] at hlt
      simp only [Option.some.injEq, Rgb.mk.injEq] at h
      exact .short hforall ((channel_eq_iff (by omega)).mp h.1)
        ((channel_eq_iff (by omega)).mp h.2.1) ((channel_eq_iff (by omega)).mp h.2.2)
    · simp only [List.forall_mem_cons] at hlt
      simp only [Option.some.injEq, Rgb.mk.injEq] at h
      exact .long hforall ((channel_eq_iff (by omega)).mp h.1)
        ((channel_eq_iff (by omega)).mp h.2.1) ((channel_eq_iff (by omega)).mp h.2.2)
    · cases h

/-! ## The three answers -/

section Answers

variable {t : Text}

theorem parse_of_digits (h : ∀ d ∈ hexPart (Text.trim t), Text.isHexDigit d = true) :
    parse t = (ofDigits? ((hexPart (Text.trim t)).filterMap Text.hexValue?)).elim
      (.error (.badLength (hexPart (Text.trim t)).length)) .ok := by
  have hall : (hexPart (Text.trim t)).all Text.isHexDigit = true := List.all_eq_true.mpr h
  rw [parse, if_pos hall]
  cases ofDigits? ((hexPart (Text.trim t)).filterMap Text.hexValue?) <;> rfl

theorem parse_of_not_digits (h : ¬ ∀ d ∈ hexPart (Text.trim t), Text.isHexDigit d = true) :
    parse t = .error (.badDigit (Text.trim t)) := by
  have hall : ¬ (hexPart (Text.trim t)).all Text.isHexDigit = true := by rwa [List.all_eq_true]
  rw [parse, if_neg hall]

theorem parse_eq_ok_iff {c : Rgb} : parse t = .ok c ↔ Spells (hexPart (Text.trim t)) c := by
  by_cases hdigits : ∀ d ∈ hexPart (Text.trim t), Text.isHexDigit d = true
  · rw [parse_of_digits hdigits, spells_iff hdigits]
    cases ofDigits? ((hexPart (Text.trim t)).filterMap Text.hexValue?) with
    | none => simp
    | some c' => simp
  · rw [parse_of_not_digits hdigits]
    exact iff_of_false (by simp) fun h => hdigits h.isHexDigit

theorem parse_eq_badDigit_iff {u : Text} : parse t = .error (.badDigit u) ↔
    u = Text.trim t ∧ ∃ d ∈ hexPart (Text.trim t), ¬ ∃ n, Text.HexDigit d n := by
  have hexists : (∃ d ∈ hexPart (Text.trim t), ¬ ∃ n, Text.HexDigit d n) ↔
      ¬ ∀ d ∈ hexPart (Text.trim t), Text.isHexDigit d = true := by
    simp only [Text.isHexDigit_iff, not_forall, exists_prop]
  rw [hexists]
  by_cases hdigits : ∀ d ∈ hexPart (Text.trim t), Text.isHexDigit d = true
  · rw [parse_of_digits hdigits]
    refine iff_of_false ?_ fun h => h.2 hdigits
    cases ofDigits? ((hexPart (Text.trim t)).filterMap Text.hexValue?) <;> simp
  · rw [parse_of_not_digits hdigits, Except.error.injEq, ColorError.badDigit.injEq,
      and_iff_left hdigits, eq_comm]

theorem parse_eq_badLength_iff {n : Nat} : parse t = .error (.badLength n) ↔
    n = (hexPart (Text.trim t)).length ∧ (∀ d ∈ hexPart (Text.trim t), ∃ n, Text.HexDigit d n) ∧
      n ≠ 3 ∧ n ≠ 6 := by
  simp only [← Text.isHexDigit_iff]
  by_cases hdigits : ∀ d ∈ hexPart (Text.trim t), Text.isHexDigit d = true
  · rw [parse_of_digits hdigits]
    generalize hvalues : (hexPart (Text.trim t)).filterMap Text.hexValue? = values
    have hlength := (forall₂_hexDigit_iff.mpr ⟨hdigits, hvalues⟩).length_eq
    have hnone : ofDigits? values = none ↔ _ := ofDigits?_eq_none_iff
    rw [← hlength] at hnone
    cases hread : ofDigits? values with
    | none =>
      show Except.error _ = _ ↔ _
      rw [Except.error.injEq, ColorError.badLength.injEq, eq_comm]
      constructor
      · rintro rfl
        exact ⟨rfl, hdigits, hnone.mp hread⟩
      · exact And.left
    | some c =>
      refine iff_of_false (by simp) ?_
      rintro ⟨rfl, -, hodd⟩
      rw [hnone.mpr hodd] at hread
      cases hread
  · rw [parse_of_not_digits hdigits]
    exact iff_of_false (by simp) fun h => hdigits h.2.1

theorem exists_parse_eq_ok_iff : (∃ c, parse t = .ok c) ↔
    ((hexPart (Text.trim t)).length = 3 ∨ (hexPart (Text.trim t)).length = 6) ∧
      ∀ d ∈ hexPart (Text.trim t), ∃ n, Text.HexDigit d n := by
  constructor
  · rintro ⟨c, hc⟩
    have hspells := parse_eq_ok_iff.mp hc
    refine ⟨?_, fun d hd => Text.isHexDigit_iff.mp (hspells.isHexDigit d hd)⟩
    cases hspells with
    | short h => exact .inl h.length_eq
    | long h => exact .inr h.length_eq
  · rintro ⟨hlength, hdigits⟩
    cases hread : parse t with
    | ok c => exact ⟨c, rfl⟩
    | error e =>
      cases e with
      | badDigit u =>
        obtain ⟨-, d, hd, hnone⟩ := parse_eq_badDigit_iff.mp hread
        exact absurd (hdigits d hd) hnone
      | badLength n =>
        obtain ⟨rfl, -, hthree, hsix⟩ := parse_eq_badLength_iff.mp hread
        omega

end Answers

/-! ## Reading by bytes -/

/-- A number of eight bits in hexadecimal digits, with or without a plus before it. -/
def hexNumber? (t : Text) : Option UInt8 :=
  let digits := if t.head? = some '+' then t.tail else t
  let value := (digits.filterMap Text.hexValue?).foldl (16 * · + ·) 0
  if digits ≠ [] ∧ (∀ d ∈ digits, Text.isHexDigit d = true) ∧ value < 256 then
    some (UInt8.ofNat value)
  else none

def channel? (digits : Text) (offset : Nat) : Option UInt8 :=
  (Text.slice? digits offset 2).bind hexNumber?

def channels? (digits : Text) : Option Rgb := do
  let red ← channel? digits 0
  let green ← channel? digits 2
  let blue ← channel? digits 4
  some ⟨red, green, blue⟩

def parseBytes? (t : Text) : Option (Except ColorError Rgb) :=
  let trimmed := Text.trim t
  let digits := hexPart trimmed
  if (Text.toUtf8 digits).all Text.isHexByte then
    let doubled := if Text.byteLength digits = 3 then digits.flatMap fun d => [d, d] else digits
    if Text.byteLength doubled = 6 then (channels? doubled).map .ok
    else some (.error (.badLength (Text.byteLength digits)))
  else some (.error (.badDigit trimmed))

theorem hexNumber?_pair {d₁ d₂ : Char} {n₁ n₂ : Nat} (h₁ : Text.HexDigit d₁ n₁)
    (h₂ : Text.HexDigit d₂ n₂) : hexNumber? [d₁, d₂] = some (UInt8.ofNat (16 * n₁ + n₂)) := by
  have hv₁ := Text.hexValue?_eq_some_iff.mpr h₁
  have hv₂ := Text.hexValue?_eq_some_iff.mpr h₂
  have hplus : [d₁, d₂].head? ≠ some '+' := by
    intro hhead
    rw [Option.some.inj hhead, show Text.hexValue? '+' = none by decide] at hv₁
    cases hv₁
  have hvalues : [d₁, d₂].filterMap Text.hexValue? = [n₁, n₂] := by
    rw [List.filterMap_cons_some hv₁, List.filterMap_cons_some hv₂, List.filterMap_nil]
  have hdigits : ∀ d ∈ [d₁, d₂], Text.isHexDigit d = true :=
    (forall₂_hexDigit_iff.mp (.cons h₁ (.cons h₂ .nil))).1
  have hlt₁ := Text.hexValue?_lt hv₁
  have hlt₂ := Text.hexValue?_lt hv₂
  simp only [hexNumber?, if_neg hplus, hvalues, List.foldl_cons, List.foldl_nil, Nat.mul_zero,
    Nat.zero_add]
  rw [if_pos ⟨List.cons_ne_nil _ _, hdigits, by omega⟩]

theorem byteLength_of_forall₂ {digits : Text} {values : List Nat}
    (h : List.Forall₂ Text.HexDigit digits values) : Text.byteLength digits = values.length := by
  rw [Text.byteLength_of_narrow fun d hd =>
    Text.utf8Size_of_isHexDigit ((forall₂_hexDigit_iff.mp h).1 d hd), h.length_eq]

/-- Each channel is read from its own two digits. -/
theorem channels?_of_forall₂ {digits : Text} {r₁ r₂ g₁ g₂ b₁ b₂ : Nat}
    (h : List.Forall₂ Text.HexDigit digits [r₁, r₂, g₁, g₂, b₁, b₂]) :
    channels? digits = ofDigits? [r₁, r₂, g₁, g₂, b₁, b₂] := by
  have hnarrow : ∀ d ∈ digits, d.utf8Size = 1 := fun d hd =>
    Text.utf8Size_of_isHexDigit ((forall₂_hexDigit_iff.mp h).1 d hd)
  have hlength : digits.length = 6 := h.length_eq
  have hslice {offset : Nat} (hroom : offset + 2 ≤ digits.length) :
      channel? digits offset = hexNumber? ((digits.drop offset).take 2) := by
    rw [channel?, Text.slice?_of_narrow hnarrow hroom, Option.bind_some]
  rw [channels?, hslice (by omega), hslice (by omega), hslice (by omega)]
  cases h with | cons h₁ h => cases h with | cons h₂ h => cases h with | cons h₃ h =>
  cases h with | cons h₄ h => cases h with | cons h₅ h => cases h with | cons h₆ h =>
  simp only [List.drop_zero, List.drop_succ_cons, List.take_succ_cons, List.take_zero,
    hexNumber?_pair h₁ h₂, hexNumber?_pair h₃ h₄, hexNumber?_pair h₅ h₆, bind, Option.bind_some,
    ofDigits?]

theorem forall₂_doubled {digits : Text} {values : List Nat}
    (h : List.Forall₂ Text.HexDigit digits values) :
    List.Forall₂ Text.HexDigit (digits.flatMap fun d => [d, d])
      (values.flatMap fun n => [n, n]) := by
  induction h with
  | nil => exact .nil
  | cons hd _ ih => exact .cons hd (.cons hd ih)

/-- A digit that stands twice has the value that its channel has. -/
theorem ofDigits?_doubled (r g b : Nat) : ofDigits? [r, r, g, g, b, b] = ofDigits? [r, g, b] := by
  have hdouble (n : Nat) : 16 * n + n = 17 * n := by omega
  simp only [ofDigits?, hdouble]

/-- Nothing is refused, and the bytes give the answer that the characters give. -/
theorem parseBytes?_eq (t : Text) : parseBytes? t = some (parse t) := by
  by_cases hdigits : ∀ d ∈ hexPart (Text.trim t), Text.isHexDigit d = true
  · have hbytes : (Text.toUtf8 (hexPart (Text.trim t))).all Text.isHexByte = true := by
      rw [Text.all_isHexByte_toUtf8, List.all_eq_true]
      exact hdigits
    rw [parse_of_digits hdigits, parseBytes?, if_pos hbytes]
    generalize hvalues : (hexPart (Text.trim t)).filterMap Text.hexValue? = values
    have hforall := forall₂_hexDigit_iff.mpr ⟨hdigits, hvalues⟩
    simp only [byteLength_of_forall₂ hforall]
    by_cases hthree : values.length = 3
    · match values, hthree with
      | [r, g, b], hthree =>
        have hdoubled := forall₂_doubled hforall
        have hsize : Text.byteLength ((hexPart (Text.trim t)).flatMap fun d => [d, d]) = 6 :=
          byteLength_of_forall₂ hdoubled
        rw [if_pos hthree, if_pos hsize, channels?_of_forall₂ hdoubled, ofDigits?_doubled]
        rfl
    · rw [if_neg hthree, byteLength_of_forall₂ hforall]
      by_cases hsix : values.length = 6
      · match values, hsix with
        | [r₁, r₂, g₁, g₂, b₁, b₂], hsix =>
          rw [if_pos hsix, channels?_of_forall₂ hforall]
          rfl
      · rw [if_neg hsix, ofDigits?_eq_none_iff.mpr ⟨hthree, hsix⟩, hforall.length_eq]
        rfl
  · have hbytes : ¬ (Text.toUtf8 (hexPart (Text.trim t))).all Text.isHexByte = true := by
      rwa [Text.all_isHexByte_toUtf8, List.all_eq_true]
    rw [parse_of_not_digits hdigits, parseBytes?, if_neg hbytes]

end Rgb

theorem color_grammar (t : Text) :
    (∃ body digits : Text, Text.Trims t body ∧ Rgb.Unhashed body digits ∧
      ((∃ c, Rgb.parse t = .ok c) ↔
        (digits.length = 3 ∨ digits.length = 6) ∧ ∀ d ∈ digits, ∃ n, Text.HexDigit d n) ∧
      (∀ c : Rgb, Rgb.parse t = .ok c ↔ Rgb.Spells digits c) ∧
      (∀ u : Text, Rgb.parse t = .error (.badDigit u) ↔
        u = body ∧ ∃ d ∈ digits, ¬ ∃ n, Text.HexDigit d n) ∧
      ∀ k : Nat, Rgb.parse t = .error (.badLength k) ↔
        k = digits.length ∧ (∀ d ∈ digits, ∃ n, Text.HexDigit d n) ∧ k ≠ 3 ∧ k ≠ 6) ∧
    Rgb.parseBytes? t = some (Rgb.parse t) ∧
    ∀ c : Rgb, Rgb.parse c.text = .ok c := by
  refine ⟨⟨Text.trim t, Rgb.hexPart (Text.trim t), Text.trims_iff.mpr rfl,
    Rgb.unhashed_iff.mpr rfl, Rgb.exists_parse_eq_ok_iff, fun c => Rgb.parse_eq_ok_iff,
    fun u => Rgb.parse_eq_badDigit_iff, fun k => Rgb.parse_eq_badLength_iff⟩,
    Rgb.parseBytes?_eq t, fun c => ?_⟩
  rw [Rgb.text_eq_spelled]
  exact Rgb.parse_hash_spelled (fun n hn => Text.hexValue?_toUpper_hexDigit hn) c

example : Rgb.parse "\u2003#fA0\t".toList = .ok ⟨255, 170, 0⟩ := by decide

-- The length of this one is wrong as well, and only one `#` is taken away.
example : Rgb.parse " ##FFA5 ".toList = .error (.badDigit "##FFA5".toList) := by decide

end LedPattern
