import LedPattern.Proofs.Json.Grammar
import LedPattern.Proofs.Text.Hexadecimal
/-!
Reading single values in any spelling. A string is read back whatever escapes it is written with. A
numeral is read as an integer of 32 bits exactly if it is one; with a point, a power, a minus before
zero or too many digits it is a real number or a fault.
-/
namespace LedPattern
namespace Json

/-! ## Blanks -/

theorem dropBlank_append {blanks : Text} (h : Blank blanks) (t : Text) :
    dropBlank (blanks ++ t) = dropBlank t := by
  rw [dropBlank, dropBlank, List.dropWhile_append_of_pos h]

theorem dropBlank_cons {c : Char} (h : isBlank c = false) (rest : Text) :
    dropBlank (c :: rest) = c :: rest := by
  rw [dropBlank, List.dropWhile_cons, h, if_neg Bool.false_ne_true]

theorem dropBlank_append_cons {blanks : Text} (h : Blank blanks) {c : Char}
    (hc : isBlank c = false) (rest : Text) : dropBlank (blanks ++ c :: rest) = c :: rest := by
  rw [dropBlank_append h, dropBlank_cons hc]

/-! ## Strings -/

theorem Unit16.take_of_hexValue? (u : Unit16) {c : Char} {n : Nat}
    (h : Text.hexValue? c = some n) : u.take c = ⟨16 * u.value + n, u.left - 1, u.bad⟩ := by
  have hdigit : Text.isHexDigit c = true := by rw [Text.isHexDigit, h, Option.isSome_some]
  simp [Unit16.take, hdigit, h, Text.utf8Size_of_isHexDigit hdigit]

namespace Quoted

theorem read_go {phase next : Phase} {c : Char} (h : step phase c = .go next) (rest : Text) :
    read phase (c :: rest) = read next rest := by
  rw [read, h]

theorem read_emit {phase : Phase} {c x : Char} (h : step phase c = .emit x) (rest : Text) :
    read phase (c :: rest) = (read .plain rest).map fun (t, rest) => (x :: t, rest) := by
  simp only [read, h]
  cases read .plain rest <;> rfl

/-- Three of the four digits are taken before the value is looked at. -/
theorem read_unit (leading : Option Nat) {n : Nat} {digits : Text} (h : HexUnit n digits)
    (rest : Text) :
    ∃ phase c, read (.unit leading {}) (digits ++ rest) = read phase (c :: rest) ∧
      step phase c = stepUnit leading ⟨n, 0, false⟩ := by
  cases h with
  | @digits a b c d x y z w ha hb hc hd =>
    have hgo {u : Unit16} {c : Char} {x : Nat} (hc : Text.hexValue? c = some x)
        (hu : 1 < u.left) (rest : Text) :
        read (.unit leading u) (c :: rest) =
          read (.unit leading ⟨16 * u.value + x, u.left - 1, u.bad⟩) rest := by
      apply read_go
      have hleft : 0 < u.left - 1 := by omega
      simp only [step, Unit16.take_of_hexValue? u hc, stepUnit, if_pos hleft]
    refine ⟨.unit leading ⟨16 * (16 * x + y) + z, 1, false⟩, d, ?_, ?_⟩
    · show read (.unit leading {}) (a :: b :: c :: d :: rest) = _
      rw [hgo ha (by decide), hgo hb (by show 1 < 3; decide), hgo hc (by show 1 < 2; decide)]
      simp only [Nat.mul_zero, Nat.zero_add]
    · rw [step, Unit16.take_of_hexValue? _ hd]
      rfl

end Quoted

theorem not_surrogate (c : Char) : isTrailing c.toNat = false ∧ isLeading c.toNat = false := by
  have hvalid : c.toNat < 0xd800 ∨ 0xdfff < c.toNat ∧ c.toNat < 0x110000 := c.valid
  simp only [isTrailing, isLeading, Bool.and_eq_false_iff, decide_eq_false_iff_not]
  omega

theorem unescape?_of_mem {letter c : Char} (h : (letter, c) ∈ escapes) :
    unescape? letter = some c ∧ letter ≠ 'u' := by
  have hall : ∀ p ∈ escapes, unescape? p.1 = some p.2 ∧ p.1 ≠ 'u' := by decide
  exact hall (letter, c) h

/-- Whatever spelling a character has, it is the next one of the text. -/
theorem CharSpelled.read_append {c : Char} {s : Text} (h : CharSpelled c s) (rest : Text) :
    Quoted.read .plain (s ++ rest) =
      (Quoted.read .plain rest).map fun (t, rest) => (c :: t, rest) := by
  have hopen (text : Text) :
      Quoted.read .plain ('\\' :: 'u' :: text) = Quoted.read (.unit none {}) text := rfl
  cases h with
  | plain hquote hslash hcontrol =>
    apply Quoted.read_emit
    rw [Quoted.step, Quoted.stepPlain, if_neg hquote, if_neg hslash, if_neg (by omega)]
  | @short letter _ hmem =>
    obtain ⟨hletter, hu⟩ := unescape?_of_mem hmem
    have hslash : Quoted.step .plain '\\' = .go .escape := rfl
    show Quoted.read .plain ('\\' :: letter :: rest) = _
    rw [Quoted.read_go hslash]
    apply Quoted.read_emit
    rw [Quoted.step, Quoted.stepEscape, if_neg hu, hletter]
  | @unit _ digits hunit =>
    obtain ⟨htrailing, hleading⟩ := not_surrogate c
    obtain ⟨phase, d, hread, hstep⟩ := Quoted.read_unit none hunit rest
    show Quoted.read .plain ('\\' :: 'u' :: (digits ++ rest)) = _
    rw [hopen, hread]
    apply Quoted.read_emit
    rw [hstep]
    simp [Quoted.stepUnit, htrailing, hleading]
  | @pair _ leading trailing first second hleading hfirst htrailing hsecond hc =>
    have hlead : isLeading leading = true ∧ isTrailing leading = false := by
      simp only [isLeading, isTrailing, Bool.and_eq_true, Bool.and_eq_false_iff, decide_eq_true_eq,
        decide_eq_false_iff_not]
      omega
    have htrail : isTrailing trailing = true := by
      simp only [isTrailing, Bool.and_eq_true, decide_eq_true_eq]
      exact htrailing
    have hreopen (text : Text) : Quoted.read (.leading leading) ('\\' :: 'u' :: text) =
        Quoted.read (.unit (some leading) {}) text := rfl
    obtain ⟨phase, d, hread, hstep⟩ :=
      Quoted.read_unit none hfirst ('\\' :: 'u' :: (second ++ rest))
    obtain ⟨phase', d', hread', hstep'⟩ := Quoted.read_unit (some leading) hsecond rest
    have hgo : Quoted.step phase d = .go (.leading leading) := by
      rw [hstep]
      simp [Quoted.stepUnit, hlead.1, hlead.2]
    have htext : '\\' :: 'u' :: (first ++ '\\' :: 'u' :: second) ++ rest =
        '\\' :: 'u' :: (first ++ '\\' :: 'u' :: (second ++ rest)) := by
      simp only [List.cons_append, List.append_assoc]
    rw [htext, hopen, hread, Quoted.read_go hgo, hreopen, hread']
    apply Quoted.read_emit
    have hchar : pairChar leading trailing = c := by
      rw [pairChar, ← hc, Char.ofNat_toNat]
    rw [hstep']
    simp [Quoted.stepUnit, htrail, hchar]

theorem StringSpelled.readString_append {t s : Text} (h : StringSpelled t s) (rest : Text) :
    readString (s ++ '"' :: rest) = .ok (t, rest) := by
  induction h with
  | nil => rfl
  | @cons c t s more hc hmore ih =>
    rw [readString] at ih ⊢
    rw [List.append_assoc, hc.read_append, ih]
    rfl

/-! ## Numerals -/

namespace Number

/-- As long as the value stays below the limit, every digit is taken. -/
theorem foldl_takeWhole (digits : Text) (n : Nat)
    (h : Nat.ofDigitChars 10 digits n < wordLimit) :
    digits.foldl Scan.takeWhole ⟨n, 0, false⟩ = ⟨Nat.ofDigitChars 10 digits n, 0, false⟩ := by
  induction digits generalizing n with
  | nil => rfl
  | cons c rest ih =>
    rw [Nat.ofDigitChars_cons] at h ⊢
    have hnext : 10 * n + Text.digitValue c < wordLimit :=
      Nat.lt_of_le_of_lt (Text.le_ofDigitChars rest _) h
    have htake : Scan.takeWhole ⟨n, 0, false⟩ c = ⟨10 * n + Text.digitValue c, 0, false⟩ := by
      simp only [Scan.takeWhole, Bool.not_false, Bool.true_and, decide_eq_true_eq, if_pos hnext]
    rw [List.foldl_cons, htake]
    exact ih _ h

theorem readFraction_of_endsNumber {negative : Bool} {n : Nat} {rest : Text}
    (h : EndsNumber rest) :
    readFraction negative ⟨n, 0, false⟩ rest = (integerOf negative n).map fun v => (v, rest) := by
  cases rest with
  | nil => rfl
  | cons c more =>
    obtain ⟨-, hpoint, hsmall, hlarge⟩ := h c rfl
    simp only [readFraction, hpoint, hsmall, hlarge, or_self, if_false, Bool.false_eq_true]

theorem takeWhile_digits {digits rest : Text} (hdigits : ∀ c ∈ digits, c.isDigit = true)
    (h : EndsDigits rest) :
    (digits ++ rest).takeWhile Char.isDigit = digits ∧
      (digits ++ rest).dropWhile Char.isDigit = rest := by
  have hrest : rest.takeWhile Char.isDigit = [] ∧ rest.dropWhile Char.isDigit = rest := by
    cases rest with
    | nil => exact ⟨rfl, rfl⟩
    | cons c more =>
      have hc := h c rfl
      simp [hc]
  rw [List.takeWhile_append_of_pos hdigits, List.dropWhile_append_of_pos hdigits, hrest.1, hrest.2,
    List.append_nil]
  exact ⟨rfl, rfl⟩

/-- A whole part is scanned digit by digit, zero included. -/
theorem readUnsigned_append (negative : Bool) (n : Nat) {rest : Text} (h : EndsDigits rest) :
    readUnsigned negative (Text.ofNat n ++ rest) =
      readFraction negative ((Text.ofNat n).foldl Scan.takeWhole ⟨0, 0, false⟩) rest := by
  obtain ⟨c, more, hcons, hdigit⟩ := Text.ofNat_eq_cons n
  obtain ⟨htake, hdrop⟩ := takeWhile_digits (fun c => Text.isDigit_of_mem_ofNat (n := n)) h
  by_cases hzero : c = '0'
  · -- A leading zero is the whole numeral, and the check on what follows it is passed.
    subst hzero
    obtain rfl : n = 0 := Text.head?_ofNat (by rw [hcons]; rfl)
    have hzeros : Text.ofNat 0 ++ rest = '0' :: rest := rfl
    have hscan : (Text.ofNat 0).foldl Scan.takeWhole ⟨0, 0, false⟩ = ⟨0, 0, false⟩ := rfl
    rw [hzeros, hscan]
    cases rest with
    | nil => rfl
    | cons d after =>
      have hd := h d rfl
      have hzero : Char.isDigit '0' = true := by decide
      simp only [readUnsigned, hzero, hd, Bool.not_true, Bool.false_eq_true, if_false, if_true]
  · rw [hcons, List.cons_append] at htake hdrop ⊢
    simp only [readUnsigned, hdigit, hzero, htake, hdrop, Bool.not_true, Bool.false_eq_true,
      if_false]

theorem readUnsigned_ofNat (negative : Bool) {n : Nat} {rest : Text} (hn : n < wordLimit)
    (h : EndsNumber rest) :
    readUnsigned negative (Text.ofNat n ++ rest) =
      (integerOf negative n).map fun v => (v, rest) := by
  have hvalue : Nat.ofDigitChars 10 (Text.ofNat n) 0 = n := Nat.ofDigitChars_ten_toDigits
  have hscan := foldl_takeWhole (Text.ofNat n) 0 (by rw [hvalue]; exact hn)
  rw [readUnsigned_append negative n h.endsDigits, hscan, hvalue, readFraction_of_endsNumber h]

/-- No integer comes out. -/
def NoInteger (outcome : Except Fault (Number × Text)) : Prop :=
  ∀ n rest, outcome ≠ .ok (.integer n, rest)

theorem noInteger_error (fault : Fault) : NoInteger (.error fault) := by
  intro n rest h
  cases h

theorem realOf_ne_integer (negative : Bool) (significand : Nat) (exponent n : Int) :
    realOf negative significand exponent ≠ .ok (.integer n) := by
  rw [realOf]
  cases scale significand exponent with
  | error fault => exact nofun
  | ok f => exact nofun

theorem noInteger_map {value : Except Fault Number} (h : ∀ n, value ≠ .ok (.integer n))
    (rest : Text) : NoInteger (value.map fun v => (v, rest)) := by
  intro n after hmap
  cases value with
  | error fault => cases hmap
  | ok v =>
    cases hmap
    exact h n rfl

theorem noInteger_realOf (negative : Bool) (significand : Nat) (exponent : Int) (rest : Text) :
    NoInteger ((realOf negative significand exponent).map fun v => (v, rest)) :=
  noInteger_map (realOf_ne_integer negative significand exponent) rest

theorem noInteger_readExponent (negative : Bool) (s : Scan) (text : Text) :
    NoInteger (readExponent negative s text) := by
  unfold readExponent
  -- Which sign was taken does not matter.
  split
  simp only
  split
  · exact noInteger_error _
  · split
    · exact noInteger_error _
    · apply noInteger_map
      intro n
      split
      · exact realOf_ne_integer _ _ _ _
      · split
        · exact nofun
        · exact realOf_ne_integer _ _ _ _

theorem noInteger_readDecimals (negative : Bool) (s : Scan) (text : Text) :
    NoInteger (readDecimals negative s text) := by
  simp only [readDecimals]
  split
  · exact noInteger_error _
  · exact noInteger_error _
  · exact noInteger_realOf _ _ _ _
  · split
    · exact noInteger_readExponent _ _ _
    · exact noInteger_realOf _ _ _ _

theorem noInteger_readFraction_of_full {negative : Bool} {s : Scan} {rest : Text}
    (hfull : s.full = true) : NoInteger (readFraction negative s rest) := by
  cases rest with
  | nil =>
    simp only [readFraction, hfull, if_true]
    exact noInteger_realOf _ _ _ _
  | cons c more =>
    simp only [readFraction, hfull, if_true]
    split
    · exact noInteger_readDecimals _ _ _
    · split
      · exact noInteger_readExponent _ _ _
      · exact noInteger_realOf _ _ _ _

theorem full_foldl_takeWhole {s : Scan} (h : s.full = true) (digits : Text) :
    (digits.foldl Scan.takeWhole s).full = true := by
  induction digits generalizing s with
  | nil => exact h
  | cons c rest ih =>
    apply ih
    simp [Scan.takeWhole, h]

/-- A value at or above the limit does not fit. -/
theorem full_of_wordLimit_le (digits : Text) {n : Nat} (hn : n < wordLimit)
    (h : wordLimit ≤ Nat.ofDigitChars 10 digits n) :
    (digits.foldl Scan.takeWhole ⟨n, 0, false⟩).full = true := by
  induction digits generalizing n with
  | nil => exact absurd h (Nat.not_le.mpr hn)
  | cons c rest ih =>
    rw [Nat.ofDigitChars_cons] at h
    rw [List.foldl_cons]
    by_cases hnext : 10 * n + Text.digitValue c < wordLimit
    · have htake : Scan.takeWhole ⟨n, 0, false⟩ c = ⟨10 * n + Text.digitValue c, 0, false⟩ := by
        simp only [Scan.takeWhole, Bool.not_false, Bool.true_and, decide_eq_true_eq, if_pos hnext]
      rw [htake]
      exact ih hnext h
    · apply full_foldl_takeWhole
      simp only [Scan.takeWhole, Bool.not_false, Bool.true_and, decide_eq_true_eq, if_neg hnext]

end Number

namespace Numeral

theorem endsDigits_tail (n : Numeral) {rest : Text} (h : EndsNumber rest) :
    EndsDigits (n.tail ++ rest) := by
  intro c hc
  rw [tail] at hc
  cases hdecimals : n.decimals with
  | some d =>
    obtain rfl : '.' = c := by simpa [hdecimals] using hc
    decide
  | none =>
    cases hpower : n.power with
    | some p =>
      obtain rfl : p.mark = c := by simpa [hdecimals, hpower] using hc
      rcases p.mark_eq with hmark | hmark <;> rw [hmark] <;> decide
    | none =>
      have hmem : c ∈ rest.head? := by simpa [hdecimals, hpower] using hc
      exact (h c hmem).1

theorem read_text (n : Numeral) (rest : Text) :
    Number.read (n.text ++ rest) = Number.readUnsigned n.negative (n.unsigned ++ rest) := by
  cases hn : n.negative with
  | true => simp only [text, hn, if_true, List.cons_append, Number.read]
  | false =>
    obtain ⟨c, more, hcons, hdigit⟩ := Text.ofNat_eq_cons n.whole
    have hminus : c ≠ '-' := by
      rintro rfl
      exact absurd hdigit (by decide)
    simp only [text, hn, Bool.false_eq_true, if_false, unsigned, hcons, List.cons_append,
      Number.read, hminus]

/-- A point or a power makes a numeral no integer. -/
theorem noInteger_of_tail (n : Numeral) (h : n.decimals.isSome ∨ n.power.isSome)
    (negative : Bool) (s : Number.Scan) (rest : Text) :
    Number.NoInteger (Number.readFraction negative s (n.tail ++ rest)) := by
  cases hdecimals : n.decimals with
  | some d =>
    simp only [tail, hdecimals, Option.elim, List.cons_append, Number.readFraction, if_true]
    exact Number.noInteger_readDecimals _ _ _
  | none =>
    obtain ⟨p, hpower⟩ : ∃ p, n.power = some p := by
      simpa [hdecimals, Option.isSome_iff_exists] using h
    have hpoint : p.mark ≠ '.' := by rcases p.mark_eq with hmark | hmark <;> rw [hmark] <;> decide
    simp only [tail, hdecimals, hpower, Option.elim, List.nil_append, List.cons_append,
      Number.readFraction, if_neg hpoint, if_pos p.mark_eq]
    exact Number.noInteger_readExponent _ _ _

theorem tail_eq_nil {n : Numeral} (h : ¬ (n.decimals.isSome ∨ n.power.isSome)) : n.tail = [] := by
  simp only [not_or, Option.not_isSome_iff_eq_none] at h
  rw [tail, h.1, h.2]
  rfl

/-- An integer that is read is the one that the numeral stands for. -/
theorem integer?_of_read {n : Numeral} {rest after : Text} (h : EndsNumber rest) {v : Int}
    (hread : Number.read (n.text ++ rest) = .ok (.integer v, after)) : n.integer? = some v := by
  rw [read_text, unsigned, List.append_assoc,
    Number.readUnsigned_append _ _ (n.endsDigits_tail h)] at hread
  have htail : ¬ (n.decimals.isSome ∨ n.power.isSome) := fun htail =>
    n.noInteger_of_tail htail _ _ _ _ _ hread
  rw [tail_eq_nil htail, List.nil_append] at hread
  have hvalue : Nat.ofDigitChars 10 (Text.ofNat n.whole) 0 = n.whole :=
    Nat.ofDigitChars_ten_toDigits
  have hfits : n.whole < Number.wordLimit := by
    by_contra hlarge
    refine Number.noInteger_readFraction_of_full ?_ _ _ hread
    apply Number.full_of_wordLimit_le _ (by decide)
    rw [hvalue]
    exact Nat.not_lt.mp hlarge
  have hscan := Number.foldl_takeWhole (Text.ofNat n.whole) 0 (by rw [hvalue]; exact hfits)
  rw [hscan, hvalue, Number.readFraction_of_endsNumber h] at hread
  rw [not_or] at htail
  cases hn : n.negative with
  | false =>
    rw [hn] at hread
    cases hread
    simp [integer?, htail.1, htail.2, hn]
  | true =>
    rw [hn] at hread
    simp only [Number.integerOf, Bool.not_true, Bool.false_eq_true, if_false] at hread
    split at hread
    · rename_i hpositive
      simp only [Bool.and_eq_true, decide_eq_true_eq] at hpositive
      cases hread
      simp [integer?, htail.1, htail.2, hn]
      omega
    · exact absurd hread (Number.noInteger_realOf _ _ _ _ _ _)

theorem read_of_integer? {n : Numeral} {rest : Text} (h : EndsNumber rest) {v : Int}
    (hv : n.integer? = some v) (hleast : -2147483648 ≤ v) (hmost : v ≤ 2147483647) :
    Number.read (n.text ++ rest) = .ok (.integer v, rest) := by
  rw [integer?] at hv
  split at hv
  · cases hv
  · rename_i hplain
    rw [not_or, not_or] at hplain
    obtain ⟨hdecimals, hpower, hzero⟩ := hplain
    rw [read_text, unsigned, tail_eq_nil (by rw [not_or]; exact ⟨hdecimals, hpower⟩),
      List.append_nil]
    have hlimit : n.whole < Number.wordLimit := by
      rw [Number.wordLimit]
      split at hv <;> cases hv <;> omega
    rw [Number.readUnsigned_ofNat _ hlimit h]
    cases hn : n.negative with
    | false =>
      simp only [hn, Bool.false_eq_true, if_false, Option.some.injEq] at hv
      rw [← hv]
      rfl
    | true =>
      simp only [hn, if_true, Option.some.injEq, true_and] at hv hzero
      have hpositive : (0 < n.whole && n.whole ≤ 0x8000000000000000) = true := by
        simp only [Bool.and_eq_true, decide_eq_true_eq]
        omega
      simp only [Number.integerOf, Bool.not_true, Bool.false_eq_true, if_false, if_pos hpositive,
        hv]
      rfl

theorem int32?_of_read {n : Numeral} {rest after : Text} (h : EndsNumber rest) {v : Int}
    (hread : Number.read (n.text ++ rest) = .ok (.integer v, after)) :
    n.int32? = if Text.fitsInt32 v then some (Int32.ofInt v) else none := by
  simp only [int32?, integer?_of_read h hread, Option.bind_some, Text.fitsInt32, Bool.and_eq_true,
    decide_eq_true_eq]

theorem read_of_int32? {n : Numeral} {rest : Text} (h : EndsNumber rest) {i : Int32}
    (hi : n.int32? = some i) :
    ∃ v, Number.read (n.text ++ rest) = .ok (.integer v, rest) ∧ Text.fitsInt32 v = true ∧
      Int32.ofInt v = i := by
  obtain ⟨v, hv, hfits⟩ := Option.bind_eq_some_iff.mp hi
  split at hfits
  · rename_i hrange
    refine ⟨v, read_of_integer? h hv hrange.1 hrange.2, ?_, Option.some.inj hfits⟩
    simp only [Text.fitsInt32, Bool.and_eq_true, decide_eq_true_eq]
    exact hrange
  · cases hfits

end Numeral

/-! ## Values of any kind -/

theorem readFound_append {blanks : Text} (h : Blank blanks) (text : Text) :
    readFound (blanks ++ text) = readFound text := by
  rw [readFound, readFound, dropBlank_append h]

theorem readFound_list (rest : Text) : readFound ('[' :: rest) = .ok (.list, rest) := rfl

theorem readFound_string {t body : Text} (h : StringSpelled t body) (rest : Text) :
    readFound ('"' :: (body ++ ['"']) ++ rest) = .ok (.string t, rest) := by
  have htext : '"' :: (body ++ ['"']) ++ rest = '"' :: (body ++ '"' :: rest) := by simp
  rw [htext]
  show (readString (body ++ '"' :: rest)).map _ = _
  rw [h.readString_append]
  rfl

def Found.ofNumber : Number → Found
  | .integer v => .integer v
  | .real d => .real d

theorem readFound_number (n : Numeral) (rest : Text) :
    readFound (n.text ++ rest) =
      (Number.read (n.text ++ rest)).map fun r => (Found.ofNumber r.1, r.2) := by
  obtain ⟨c, more, hcons, hc⟩ := n.text_eq_cons
  obtain ⟨hblank, hn, ht, hf, hquote, hlist, hobject⟩ := ne_of_sign_or_digit hc
  rw [hcons, List.cons_append, readFound, dropBlank_cons hblank]
  simp only [hn, ht, hf, hquote, hlist, hobject, if_false, if_pos hc]
  cases Number.read (c :: (more ++ rest)) with
  | error fault => rfl
  | ok r =>
    obtain ⟨v, after⟩ := r
    cases v <;> rfl

/-- A reader that stops at both kinds of number takes no numeral. -/
theorem toOption_readFound_number {α : Type} {next : Found × Text → Except Fault α}
    (hnext : ∀ v after, (next (Found.ofNumber v, after)).toOption = none) (n : Numeral)
    (rest : Text) : (readFound (n.text ++ rest) >>= next).toOption = none := by
  rw [readFound_number]
  cases Number.read (n.text ++ rest) with
  | error fault => rfl
  | ok r => exact hnext r.1 r.2

/-! ## Values of the kind asked for -/

namespace Tree

def text? : Tree → Option Text
  | string t => some t
  | _ => none

def strings? : List Tree → Option (List Text)
  | [] => some []
  | v :: items => do
    let t ← v.text?
    let texts ← strings? items
    some (t :: texts)

def texts? : Tree → Option (List Text)
  | list items => strings? items
  | _ => none

def int32? : Tree → Option Int32
  | number n => n.int32?
  | _ => none

/-- What a value of some kind, or `null` for none, is read as. -/
def orNull {α : Type} (kind : Tree → Option α) : Tree → Option (Option α)
  | null => some none
  | v => (kind v).map some

theorem map_orNull_eq_some_iff {α β : Type} {kind : Tree → Option α} (hnull : kind null = none)
    {v : Tree} {use : Option α → β} {b : β} :
    (v.orNull kind).map use = some b ↔ (v = null ∨ (kind v).isSome = true) ∧ use (kind v) = b := by
  cases v with
  | null => simp [orNull, hnull]
  | _ =>
    rw [orNull]
    · cases kind _ <;> simp
    · exact nofun

theorem isSome_text?_iff {v : Tree} : v.text?.isSome = true ↔ ∃ t, v = string t := by
  cases v <;> simp [text?]

theorem strings?_eq_some_iff {items : List Tree} {texts : List Text} :
    strings? items = some texts ↔ items = texts.map string := by
  induction items generalizing texts with
  | nil => cases texts <;> simp [strings?]
  | cons v items ih =>
    cases texts with
    | nil => cases v <;> simp [strings?, text?, Option.bind_eq_some_iff]
    | cons t texts =>
      cases v with
      | string t' => simp [strings?, text?, Option.bind_eq_some_iff, ih, and_comm]
      | _ => simp [strings?, text?]

theorem isSome_texts?_iff {v : Tree} :
    v.texts?.isSome = true ↔ ∃ texts : List Text, v = list (texts.map string) := by
  cases v with
  | list items => simp [texts?, Option.isSome_iff_exists, strings?_eq_some_iff]
  | _ => simp [texts?]

theorem isSome_int32?_iff {v : Tree} :
    v.int32?.isSome = true ↔ ∃ numeral i, v = number numeral ∧ numeral.int32? = some i := by
  cases v with
  | number n => simp [int32?, Option.isSome_iff_exists]
  | _ => simp [int32?]

end Tree

theorem toOption_bind {α β : Type} (outcome : Except Fault α) (next : α → Except Fault β) :
    (outcome >>= next).toOption = outcome.toOption.bind fun a => (next a).toOption := by
  cases outcome <;> rfl

theorem readText?_spelled {v : Tree} {s : Text} (h : Spelled (.value v) s) {blanks : Text}
    (hblanks : Blank blanks) (rest : Text) :
    (readText? (blanks ++ (s ++ rest))).toOption =
      (v.orNull Tree.text?).map fun value => (value, rest) := by
  rw [readText?, readFound_append hblanks]
  cases h with
  | null => rfl
  | yes => rfl
  | no => rfl
  | string h =>
    rw [readFound_string h]
    rfl
  | list h => rfl
  | object h => rfl
  | number n => exact toOption_readFound_number (fun v _ => by cases v <;> rfl) n rest

theorem readInt32?_spelled {v : Tree} {s : Text} (h : Spelled (.value v) s) {blanks : Text}
    (hblanks : Blank blanks) {rest : Text} (hrest : EndsNumber rest) :
    (readInt32? (blanks ++ (s ++ rest))).toOption =
      (v.orNull Tree.int32?).map fun value => (value, rest) := by
  rw [readInt32?, readFound_append hblanks]
  cases h with
  | null => rfl
  | yes => rfl
  | no => rfl
  | string h =>
    rw [readFound_string h]
    rfl
  | list h => rfl
  | object h => rfl
  | number n =>
    rw [readFound_number]
    show _ = (n.int32?.map some).map _
    cases hint : n.int32? with
    | some i =>
      obtain ⟨v, hread, hfits, hi⟩ := Numeral.read_of_int32? hrest hint
      rw [hread, ← hi]
      show (if Text.fitsInt32 v then _ else _ : Except Fault _).toOption = _
      rw [if_pos hfits]
      rfl
    | none =>
      cases hread : Number.read (n.text ++ rest) with
      | error fault => rfl
      | ok r =>
        obtain ⟨v, after⟩ := r
        cases v with
        | real d => rfl
        | integer v =>
          have hfits := Numeral.int32?_of_read hrest hread
          rw [hint] at hfits
          show (if Text.fitsInt32 v then _ else _ : Except Fault _).toOption = _
          split at hfits
          · cases hfits
          · rename_i hlarge
            rw [if_neg hlarge]
            rfl

/-! ## Lists of strings -/

theorem nextItem_close {first : Bool} {blanks : Text} (h : Blank blanks) (rest : Text) :
    nextItem first (blanks ++ ']' :: rest) = .ok (.closed rest) := by
  have hclose : isBlank ']' = false := by decide
  simp only [nextItem, dropBlank_append_cons h hclose]
  rfl

theorem nextItem_item {first : Bool} {separator : Text} (h : Separator first separator) {c : Char}
    (hblank : isBlank c = false) (hclose : c ≠ ']') (rest : Text) :
    nextItem first (separator ++ c :: rest) = .ok (.item (c :: rest)) := by
  cases h with
  | first hblanks =>
    simp only [nextItem, dropBlank_append_cons hblanks hblank, if_neg hclose, if_true]
  | next hbefore hafter =>
    have hcomma : isBlank ',' = false := by decide
    rw [List.append_assoc, List.cons_append]
    simp only [nextItem, dropBlank_append_cons hbefore hcomma, dropBlank_append_cons hafter hblank,
      if_neg hclose]
    rfl

theorem readTexts_spelled {items : List Tree} {first : Bool} {s : Text}
    (h : Spelled (.items first items) s) {fuel : Nat} (hfuel : items.length < fuel) (rest : Text) :
    (readTexts fuel first (s ++ rest)).toOption =
      (Tree.strings? items).map fun texts => (texts, rest) := by
  obtain ⟨fuel, rfl⟩ : ∃ k, fuel = k + 1 := Nat.exists_eq_add_one_of_ne_zero (by omega)
  induction items generalizing first s fuel with
  | nil =>
    cases h with
    | closeList hblanks =>
      rw [List.append_assoc, List.singleton_append, readTexts, nextItem_close hblanks]
      rfl
  | cons v items ih =>
    cases h with
    | @item _ separator s more _ _ hseparator hv hmore =>
      obtain ⟨c, tail, hcons, hblank, hclose⟩ := hv.value_eq_cons
      have hnext : nextItem first (separator ++ (s ++ more) ++ rest) =
          .ok (.item (s ++ (more ++ rest))) := by
        rw [List.append_assoc, List.append_assoc, hcons]
        exact nextItem_item hseparator hblank hclose _
      obtain ⟨fuel, rfl⟩ : ∃ k, fuel = k + 1 := by
        simp only [List.length_cons] at hfuel
        exact Nat.exists_eq_add_one_of_ne_zero (by omega)
      have hitems := ih hmore fuel (by simpa using hfuel)
      rw [readTexts, hnext]
      show Except.toOption (readFound (s ++ (more ++ rest)) >>= _) = _
      cases hv with
      | null => rfl
      | yes => rfl
      | no => rfl
      | list h => rfl
      | object h => rfl
      | number n => exact toOption_readFound_number (fun v _ => by cases v <;> rfl) n _
      | @string t body h =>
        rw [readFound_string h]
        simp only [Tree.strings?, Tree.text?]
        show Except.toOption (readTexts (fuel + 1) false (more ++ rest) >>= _) = _
        rw [toOption_bind, hitems]
        cases Tree.strings? items <;> rfl

theorem readTexts?_spelled {v : Tree} {s : Text} (h : Spelled (.value v) s) {blanks : Text}
    (hblanks : Blank blanks) (rest : Text) :
    (readTexts? (blanks ++ (s ++ rest))).toOption =
      (v.orNull Tree.texts?).map fun value => (value, rest) := by
  rw [readTexts?, readFound_append hblanks]
  cases h with
  | null => rfl
  | yes => rfl
  | no => rfl
  | string h =>
    rw [readFound_string h]
    rfl
  | object h => rfl
  | number n => exact toOption_readFound_number (fun v _ => by cases v <;> rfl) n rest
  | @list items s h =>
    have hcount : items.length < s.length := h.count_lt_length
    have hfuel : items.length < (s ++ rest).length + 1 := by
      rw [List.length_append]
      omega
    rw [List.cons_append, readFound_list]
    show Except.toOption (readTexts ((s ++ rest).length + 1) true (s ++ rest) >>= _) = _
    rw [toOption_bind, readTexts_spelled h hfuel]
    show _ = ((Tree.strings? items).map some).map _
    cases Tree.strings? items <;> rfl

/-! ## From one member to the next -/

theorem nextKey_key {first : Bool} {separator : Text} (h : Separator first separator)
    (rest : Text) : nextKey first (separator ++ '"' :: rest) = .ok (.item rest) := by
  have hquote : isBlank '"' = false := by decide
  cases h with
  | first hblanks =>
    simp only [nextKey, dropBlank_append_cons hblanks hquote]
    rfl
  | next hbefore hafter =>
    have hcomma : isBlank ',' = false := by decide
    rw [List.append_assoc, List.cons_append]
    simp only [nextKey, dropBlank_append_cons hbefore hcomma, dropBlank_append_cons hafter hquote]
    rfl

theorem nextKey_closed {first : Bool} {blanks : Text} (h : Blank blanks) (rest : Text) :
    nextKey first (blanks ++ '\x7d' :: rest) = .ok (.closed rest) := by
  have hclose : isBlank '\x7d' = false := by decide
  simp only [nextKey, dropBlank_append_cons h hclose, if_true]

theorem takeColon_append {blanks : Text} (h : Blank blanks) (rest : Text) :
    takeColon (blanks ++ ':' :: rest) = .ok rest := by
  have hcolon : isBlank ':' = false := by decide
  simp only [takeColon, dropBlank_append_cons h hcolon, if_true]

end Json
end LedPattern
