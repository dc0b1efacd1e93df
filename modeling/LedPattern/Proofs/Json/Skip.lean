import LedPattern.Proofs.Json.Literal
/-!
A value of any depth is skipped in full. Inside a container the machine goes on behind the value
with the brackets that were open before it, whatever it contains.
-/
namespace LedPattern
namespace Json
namespace Skip

/-- Where the machine is after a complete value. -/
def leave (brackets : List Bracket) (rest : Text) : Except Fault Text :=
  if brackets.isEmpty then .ok rest else run .next brackets rest

theorem run_go {phase after : Phase} {brackets inner : List Bracket} {c : Char}
    (h : step phase brackets c = .go after inner) (rest : Text) :
    run phase brackets (c :: rest) = run after inner rest := by
  rw [run, h]

theorem run_finish {phase : Phase} {brackets outer : List Bracket} {c : Char}
    (h : step phase brackets c = finish outer) (rest : Text) :
    run phase brackets (c :: rest) = leave outer rest := by
  rw [run, h, finish, leave]
  cases outer <;> rfl

/-- Characters that change nothing: blanks between tokens, and digits within a numeral. -/
theorem run_stay {phase : Phase} {brackets : List Bracket} {text : Text}
    (h : ∀ c ∈ text, step phase brackets c = .go phase brackets) (rest : Text) :
    run phase brackets (text ++ rest) = run phase brackets rest := by
  induction text with
  | nil => rfl
  | cons c more ih =>
    rw [List.cons_append, run_go (h c List.mem_cons_self)]
    exact ih fun d hd => h d (List.mem_cons_of_mem c hd)

/-! ## Strings and words -/

theorem run_unit (isKey : Bool) (brackets : List Bracket) {n : Nat} {digits : Text}
    (h : HexUnit n digits) (rest : Text) :
    run (.unit isKey {}) brackets (digits ++ rest) = run (.string isKey) brackets rest := by
  cases h with
  | @digits a b c d x y z w ha hb hc hd =>
    have hstep {u : Unit16} {c : Char} {x : Nat} (hc : Text.hexValue? c = some x) :
        step (.unit isKey u) brackets c =
          stepUnit isKey ⟨16 * u.value + x, u.left - 1, u.bad⟩ brackets := by
      rw [step, Unit16.take_of_hexValue? u hc]
    show run (.unit isKey {}) brackets (a :: b :: c :: d :: rest) = _
    rw [run_go (hstep ha), run_go (hstep hb), run_go (hstep hc), run_go (hstep hd)]

theorem run_char (isKey : Bool) (brackets : List Bracket) {c : Char} {s : Text}
    (h : CharSpelled c s) (rest : Text) :
    run (.string isKey) brackets (s ++ rest) = run (.string isKey) brackets rest := by
  have hopen (text : Text) : run (.string isKey) brackets ('\\' :: 'u' :: text) =
      run (.unit isKey {}) brackets text := rfl
  cases h with
  | plain hquote hslash hcontrol =>
    apply run_go
    rw [step, stepString, if_neg hquote, if_neg hslash, if_neg (by omega)]
  | @short letter _ hmem =>
    obtain ⟨hletter, hu⟩ := unescape?_of_mem hmem
    have hslash : step (.string isKey) brackets '\\' = .go (.escape isKey) brackets := rfl
    show run (.string isKey) brackets ('\\' :: letter :: rest) = _
    rw [run_go hslash]
    apply run_go
    rw [step, stepEscape, if_neg hu, hletter]
    rfl
  | @unit _ digits hunit =>
    show run (.string isKey) brackets ('\\' :: 'u' :: (digits ++ rest)) = _
    rw [hopen, run_unit isKey brackets hunit]
  | @pair _ leading trailing first second hleading hfirst htrailing hsecond hc =>
    have htext : '\\' :: 'u' :: (first ++ '\\' :: 'u' :: second) ++ rest =
        '\\' :: 'u' :: (first ++ '\\' :: 'u' :: (second ++ rest)) := by
      simp only [List.cons_append, List.append_assoc]
    rw [htext, hopen, run_unit isKey brackets hfirst, hopen, run_unit isKey brackets hsecond]

theorem run_string (isKey : Bool) (brackets : List Bracket) {t s : Text} (h : StringSpelled t s)
    (rest : Text) :
    run (.string isKey) brackets (s ++ rest) = run (.string isKey) brackets rest := by
  induction h with
  | nil => rfl
  | cons hc hmore ih => rw [List.append_assoc, run_char isKey brackets hc, ih]

theorem run_word (brackets : List Bracket) (c : Char) (left rest : Text) :
    run (.word (c :: left)) brackets (c :: left ++ rest) = leave brackets rest := by
  induction left generalizing c with
  | nil =>
    apply run_finish
    simp [step, stepWord]
  | cons d left ih =>
    have hstep : step (.word (c :: d :: left)) brackets c = .go (.word (d :: left)) brackets := by
      simp [step, stepWord]
    rw [List.cons_append, run_go hstep]
    exact ih d

/-! ## Numerals -/

/-- The phases in which a numeral may end. -/
def Ended (phase : Phase) : Prop :=
  phase = .zero ∨ phase = .whole ∨ phase = .fraction ∨ phase = .power

theorem run_ended {phase : Phase} (h : Ended phase) (brackets : List Bracket) {rest : Text}
    (hrest : EndsNumber rest) : run phase brackets rest = leave brackets rest := by
  cases rest with
  | nil => rcases h with rfl | rfl | rfl | rfl <;> cases brackets <;> rfl
  | cons c more =>
    obtain ⟨hdigit, hpoint, hsmall, hlarge⟩ := hrest c rfl
    have hstep : step phase brackets c = stepNext brackets c := by
      rcases h with rfl | rfl | rfl | rfl <;>
        simp [step, stepMantissa, hdigit, hpoint, hsmall, hlarge]
    cases brackets with
    | nil =>
      rw [run, hstep]
      rfl
    | cons bracket outer =>
      show run phase (bracket :: outer) (c :: more) = run .next (bracket :: outer) (c :: more)
      rw [run, hstep, run]
      rfl

/-- At least one digit, and any further ones. -/
theorem run_digits {phase after : Phase} {brackets : List Bracket}
    (hfirst : ∀ c, c.isDigit = true → step phase brackets c = .go after brackets)
    (hmore : ∀ c, c.isDigit = true → step after brackets c = .go after brackets) (d : Digits)
    (rest : Text) : run phase brackets (d.text ++ rest) = run after brackets rest := by
  obtain ⟨c, more, hcons⟩ := List.exists_cons_of_ne_nil d.ne_nil
  have hdigit : ∀ x ∈ c :: more, x.isDigit = true := hcons ▸ d.isDigit
  rw [hcons, List.cons_append, run_go (hfirst c (hdigit c List.mem_cons_self))]
  exact run_stay (fun x hx => hmore x (hdigit x (List.mem_cons_of_mem c hx))) rest

theorem ne_sign_of_isDigit {c : Char} (h : c.isDigit = true) : ¬ (c = '+' ∨ c = '-') := by
  rintro (rfl | rfl) <;> exact absurd h (by decide)

theorem run_power (p : Power) (brackets : List Bracket) {rest : Text} (hrest : EndsNumber rest) :
    run .mark brackets (p.sign ++ p.digits.text ++ rest) = leave brackets rest := by
  have hpower (c : Char) (hc : c.isDigit = true) :
      step .power brackets c = .go .power brackets := by
    simp only [step, hc, if_true]
  have hended : run .power brackets rest = leave brackets rest :=
    run_ended (.inr (.inr (.inr rfl))) brackets hrest
  have hsigned (c : Char) (hc : c.isDigit = true) :
      step .markSign brackets c = .go .power brackets := by
    simp only [step, stepDigit, hc, if_true]
  rcases p.sign_eq with hsign | hsign | hsign
  · have hfirst (c : Char) (hc : c.isDigit = true) :
        step .mark brackets c = .go .power brackets := by
      simp only [step, if_neg (ne_sign_of_isDigit hc), stepDigit, hc, if_true]
    rw [hsign, List.nil_append, run_digits hfirst hpower, hended]
  · have hplus : step .mark brackets '+' = .go .markSign brackets := rfl
    rw [hsign, List.append_assoc, List.singleton_append, run_go hplus, run_digits hsigned hpower,
      hended]
  · have hminus : step .mark brackets '-' = .go .markSign brackets := rfl
    rw [hsign, List.append_assoc, List.singleton_append, run_go hminus, run_digits hsigned hpower,
      hended]

/-- After the whole part, or after the decimals. -/
theorem run_scaled {phase : Phase} (h : phase = .zero ∨ phase = .whole ∨ phase = .fraction)
    (brackets : List Bracket) (power : Option Power) {rest : Text} (hrest : EndsNumber rest) :
    run phase brackets
        ((power.elim [] fun p => p.mark :: (p.sign ++ p.digits.text)) ++ rest) =
      leave brackets rest := by
  cases power with
  | none =>
    apply run_ended _ brackets hrest
    rcases h with h | h | h
    · exact .inl h
    · exact .inr (.inl h)
    · exact .inr (.inr (.inl h))
  | some p =>
    have hmark : step phase brackets p.mark = .go .mark brackets := by
      rcases h with rfl | rfl | rfl <;> rcases p.mark_eq with hmark | hmark <;> rw [hmark] <;> rfl
    rw [Option.elim, List.cons_append, run_go hmark, run_power p brackets hrest]

theorem run_tail {phase : Phase} (h : phase = .zero ∨ phase = .whole) (brackets : List Bracket)
    (n : Numeral) {rest : Text} (hrest : EndsNumber rest) :
    run phase brackets (n.tail ++ rest) = leave brackets rest := by
  rw [Numeral.tail, List.append_assoc]
  cases n.decimals with
  | none =>
    apply run_scaled _ brackets n.power hrest
    rcases h with h | h
    · exact .inl h
    · exact .inr (.inl h)
  | some d =>
    have hpoint : step phase brackets '.' = .go .point brackets := by
      rcases h with rfl | rfl <;> rfl
    have hfirst (c : Char) (hc : c.isDigit = true) :
        step .point brackets c = .go .fraction brackets := by
      simp only [step, stepDigit, hc, if_true]
    have hmore (c : Char) (hc : c.isDigit = true) :
        step .fraction brackets c = .go .fraction brackets := by
      simp only [step, hc, if_true]
    rw [Option.elim, List.cons_append, run_go hpoint, run_digits hfirst hmore,
      run_scaled (.inr (.inr rfl)) brackets n.power hrest]

theorem run_unsigned {phase : Phase} {brackets : List Bracket}
    (hzero : step phase brackets '0' = .go .zero brackets)
    (hfirst : ∀ c, c.isDigit = true → c ≠ '0' → step phase brackets c = .go .whole brackets)
    (n : Numeral) {rest : Text} (hrest : EndsNumber rest) :
    run phase brackets (n.unsigned ++ rest) = leave brackets rest := by
  obtain ⟨c, more, hcons⟩ := List.exists_cons_of_ne_nil (Text.ofNat_ne_nil n.whole)
  have hdigit : ∀ x ∈ c :: more, x.isDigit = true := fun x hx =>
    Text.isDigit_of_mem_ofNat (n := n.whole) (hcons ▸ hx)
  rw [Numeral.unsigned, List.append_assoc]
  by_cases hc : c = '0'
  · subst hc
    have hwhole : n.whole = 0 := Text.head?_ofNat (by rw [hcons]; rfl)
    rw [hwhole]
    show run phase brackets ('0' :: (n.tail ++ rest)) = _
    rw [run_go hzero, run_tail (.inl rfl) brackets n hrest]
  · have hstay : ∀ x ∈ more, step .whole brackets x = .go .whole brackets := by
      intro x hx
      simp only [step, hdigit x (List.mem_cons_of_mem c hx), if_true]
    rw [hcons, List.cons_append, run_go (hfirst c (hdigit c List.mem_cons_self) hc),
      run_stay hstay, run_tail (.inr rfl) brackets n hrest]

theorem run_numeral (brackets : List Bracket) (n : Numeral) {rest : Text}
    (hrest : EndsNumber rest) : run .value brackets (n.text ++ rest) = leave brackets rest := by
  rw [Numeral.text]
  split
  · have hminus : step .value brackets '-' = .go .minus brackets := rfl
    rw [List.cons_append, run_go hminus]
    apply run_unsigned rfl _ n hrest
    intro c hc hzero
    simp only [step, if_neg hzero, stepDigit, hc, if_true]
  · apply run_unsigned rfl _ n hrest
    intro c hc hzero
    obtain ⟨hblank, -, -, -, hquote, -, -⟩ := ne_of_sign_or_digit (.inr hc)
    have hminus : c ≠ '-' := fun h => ne_sign_of_isDigit hc (.inr h)
    simp only [step, stepValue, hblank, hquote, hminus, hzero, hc, Bool.false_eq_true, if_false,
      if_true]

/-! ## Containers -/

/-- The phases in which blanks may stand, the brackets being those of a container if need be. -/
theorem run_blanks {phase : Phase} {brackets : List Bracket}
    (h : phase = .value ∨ phase = .firstItem ∨ phase = .firstKey ∨ phase = .key ∨ phase = .colon ∨
      phase = .next ∧ brackets ≠ [])
    {blanks : Text} (hblanks : Blank blanks) (rest : Text) :
    run phase brackets (blanks ++ rest) = run phase brackets rest := by
  apply run_stay
  intro c hc
  have hblank := hblanks c hc
  rcases h with rfl | rfl | rfl | rfl | rfl | ⟨rfl, hne⟩
  · simp [step, stepValue, hblank]
  · simp [step, hblank]
  · simp [step, hblank]
  · simp [step, hblank]
  · simp [step, hblank]
  · obtain ⟨bracket, outer, rfl⟩ := List.exists_cons_of_ne_nil hne
    simp [step, stepNext, hblank]

/-- Before an item stands a value. -/
theorem run_item {first : Bool} {separator : Text} (h : Separator first separator)
    (brackets : List Bracket) {c : Char} (hblank : isBlank c = false) (hclose : c ≠ ']')
    (rest : Text) :
    run (if first then .firstItem else .next) (.list :: brackets) (separator ++ c :: rest) =
      run .value (.list :: brackets) (c :: rest) := by
  cases h with
  | first hblanks =>
    show run .firstItem _ _ = _
    rw [run_blanks (.inr (.inl rfl)) hblanks]
    have hstep : step .firstItem (.list :: brackets) c = step .value (.list :: brackets) c := by
      simp only [step, hblank, hclose, Bool.false_eq_true, if_false]
    rw [run, hstep, run]
  | next hbefore hafter =>
    have hcomma : step .next (.list :: brackets) ',' = .go .value (.list :: brackets) := rfl
    show run .next _ _ = _
    rw [List.append_assoc, run_blanks (by simp) hbefore, List.cons_append, run_go hcomma,
      run_blanks (.inl rfl) hafter]

/-- Before a key stands its opening quote. -/
theorem run_key {first : Bool} {separator : Text} (h : Separator first separator)
    (brackets : List Bracket) (rest : Text) :
    run (if first then .firstKey else .next) (.object :: brackets) (separator ++ '"' :: rest) =
      run (.string true) (.object :: brackets) rest := by
  cases h with
  | first hblanks =>
    have hquote : step .firstKey (.object :: brackets) '"' =
        .go (.string true) (.object :: brackets) := rfl
    show run .firstKey _ _ = _
    rw [run_blanks (by simp) hblanks, run_go hquote]
  | next hbefore hafter =>
    have hcomma : step .next (.object :: brackets) ',' = .go .key (.object :: brackets) := rfl
    have hquote : step .key (.object :: brackets) '"' =
        .go (.string true) (.object :: brackets) := rfl
    show run .next _ _ = _
    rw [List.append_assoc, run_blanks (by simp) hbefore, List.cons_append, run_go hcomma,
      run_blanks (by simp) hafter, run_go hquote]

/-- What the machine does with a piece of text: after a value, or after the bracket that closes a
container, it is where it would be after any value. -/
def Passes (brackets : List Bracket) (s : Text) : Piece → Prop
  | .value _ => ∀ rest, EndsNumber rest → run .value brackets (s ++ rest) = leave brackets rest
  | .items first _ => ∀ rest,
    run (if first then .firstItem else .next) (.list :: brackets) (s ++ rest) = leave brackets rest
  | .members first _ => ∀ rest,
    run (if first then .firstKey else .next) (.object :: brackets) (s ++ rest) = leave brackets rest

theorem passes_of_spelled {piece : Piece} {s : Text} (h : Spelled piece s)
    (brackets : List Bracket) : Passes brackets s piece := by
  -- The brackets grow on the way into a container, so they are not fixed in the induction.
  induction h generalizing brackets with
  | null => exact fun rest _ => run_word brackets 'u' ['l', 'l'] rest
  | yes => exact fun rest _ => run_word brackets 'r' ['u', 'e'] rest
  | no => exact fun rest _ => run_word brackets 'a' ['l', 's', 'e'] rest
  | number n => exact fun rest hrest => run_numeral brackets n hrest
  | @string t body h =>
    intro rest _
    have hopen : step .value brackets '"' = .go (.string false) brackets := rfl
    have hclose : step (.string false) brackets '"' = finish brackets := rfl
    rw [List.cons_append, run_go hopen, List.append_assoc, run_string false brackets h,
      List.singleton_append, run_finish hclose]
  | list h ih =>
    intro rest _
    have hopen : step .value brackets '[' = .go .firstItem (.list :: brackets) := rfl
    rw [List.cons_append, run_go hopen]
    exact ih brackets rest
  | object h ih =>
    intro rest _
    have hopen : step .value brackets '\x7b' = .go .firstKey (.object :: brackets) := rfl
    rw [List.cons_append, run_go hopen]
    exact ih brackets rest
  | @closeList first blanks h | @closeObject first blanks h =>
    intro rest
    rw [List.append_assoc, List.singleton_append, run_blanks (by cases first <;> simp) h]
    apply run_finish
    cases first <;> rfl
  | @item first separator s more v items hseparator hv hmore ihv ihmore =>
    intro rest
    obtain ⟨c, tail, hcons, hblank, hclose⟩ := hv.value_eq_cons
    have hitem := run_item hseparator brackets hblank hclose (tail ++ (more ++ rest))
    rw [← List.cons_append, ← hcons] at hitem
    rw [List.append_assoc, List.append_assoc, hitem,
      ihv (.list :: brackets) _ (hmore.endsNumber_items rest)]
    exact ihmore brackets rest
  | @member first separator key name before after s more v members hseparator hkey hbefore hafter
      hv hmore ihv ihmore =>
    intro rest
    have hquote : step (.string true) (.object :: brackets) '"' =
        .go .colon (.object :: brackets) := rfl
    have hcolon : step .colon (.object :: brackets) ':' = .go .value (.object :: brackets) := rfl
    simp only [List.append_assoc, List.cons_append]
    rw [run_key hseparator, run_string true _ hkey, run_go hquote, run_blanks (by simp) hbefore,
      run_go hcolon, run_blanks (.inl rfl) hafter,
      ihv (.object :: brackets) _ (hmore.endsNumber_members rest)]
    exact ihmore brackets rest

end Skip

theorem skipValue_spelled {v : Tree} {s : Text} (h : Spelled (.value v) s) {blanks : Text}
    (hblanks : Blank blanks) {rest : Text} (hrest : EndsNumber rest) :
    skipValue (blanks ++ (s ++ rest)) = .ok rest := by
  rw [skipValue, Skip.run_blanks (.inl rfl) hblanks]
  exact Skip.passes_of_spelled h [] rest hrest

end Json
end LedPattern
