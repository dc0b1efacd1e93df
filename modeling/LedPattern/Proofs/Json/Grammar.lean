import LedPattern.Json.Read
import LedPattern.Proofs.Text.Numeral
/-!
The grammar of JSON texts, apart from any reader. A tree is a value of any depth; `Spelled` says
which texts stand for it. A text may have blanks between any two tokens, every character of a string
in any of its spellings, and numerals of any size and precision.
-/
namespace LedPattern
namespace Json

/-! ## Blanks, and where a numeral ends -/

def Blank (t : Text) : Prop := ∀ c ∈ t, isBlank c = true

theorem blank_nil : Blank [] := List.forall_mem_nil _

theorem blank_singleton {c : Char} (h : isBlank c = true) : Blank [c] :=
  List.forall_mem_singleton.mpr h

/-- What cannot be taken for the rest of a number: it begins neither with a digit nor with a point
or a power of ten. -/
def EndsNumber (t : Text) : Prop :=
  ∀ c ∈ t.head?, c.isDigit = false ∧ c ≠ '.' ∧ c ≠ 'e' ∧ c ≠ 'E'

/-- What cannot be taken for more digits. -/
def EndsDigits (t : Text) : Prop := ∀ c ∈ t.head?, c.isDigit = false

theorem EndsNumber.endsDigits {t : Text} (h : EndsNumber t) : EndsDigits t :=
  fun c hc => (h c hc).1

theorem endsNumber_cons {c : Char} (h : c.isDigit = false ∧ c ≠ '.' ∧ c ≠ 'e' ∧ c ≠ 'E')
    (rest : Text) : EndsNumber (c :: rest) := by
  intro d hd
  obtain rfl : c = d := by simpa using hd
  exact h

/-- Blanks end a number, and so does what follows them if it would without them. -/
theorem endsNumber_append {blanks rest : Text} (h : Blank blanks) (hrest : EndsNumber rest) :
    EndsNumber (blanks ++ rest) := by
  cases blanks with
  | nil => exact hrest
  | cons c more =>
    apply endsNumber_cons
    have hc := h c List.mem_cons_self
    simp only [isBlank, Bool.or_eq_true, beq_iff_eq] at hc
    rcases hc with ((rfl | rfl) | rfl) | rfl <;> decide

/-! ## Numerals -/

/-- One or more decimal digits. -/
structure Digits where
  text : Text
  ne_nil : text ≠ []
  isDigit : ∀ c ∈ text, c.isDigit = true

/-- The power of ten behind a numeral. -/
structure Power where
  mark : Char
  mark_eq : mark = 'e' ∨ mark = 'E'
  sign : Text
  sign_eq : sign = [] ∨ sign = ['+'] ∨ sign = ['-']
  digits : Digits

structure Numeral where
  negative : Bool := false
  /-- Written without leading zeros. -/
  whole : Nat
  decimals : Option Digits := none
  power : Option Power := none

namespace Numeral

/-- The numeral from its point or its power on. -/
def tail (n : Numeral) : Text :=
  (n.decimals.elim [] fun d => '.' :: d.text) ++
    n.power.elim [] fun p => p.mark :: (p.sign ++ p.digits.text)

def unsigned (n : Numeral) : Text := Text.ofNat n.whole ++ n.tail

def text (n : Numeral) : Text := if n.negative then '-' :: n.unsigned else n.unsigned

/-- The integer that a numeral without point and power stands for. Minus zero is no integer. -/
def integer? (n : Numeral) : Option Int :=
  if n.decimals.isSome ∨ n.power.isSome ∨ (n.negative ∧ n.whole = 0) then none
  else some (if n.negative then -(n.whole : Int) else n.whole)

def int32? (n : Numeral) : Option Int32 :=
  n.integer?.bind fun v =>
    if -2147483648 ≤ v ∧ v ≤ 2147483647 then some (Int32.ofInt v) else none

end Numeral

/-! ## Strings -/

/-- Four hexadecimal digits, in either case. -/
inductive HexUnit : Nat → Text → Prop where
  | digits {a b c d : Char} {x y z w : Nat} (ha : Text.hexValue? a = some x)
      (hb : Text.hexValue? b = some y) (hc : Text.hexValue? c = some z)
      (hd : Text.hexValue? d = some w) : HexUnit (16 * (16 * (16 * x + y) + z) + w) [a, b, c, d]

/-- The letters that may follow a backslash, with what they stand for. -/
def escapes : List (Char × Char) :=
  [('"', '"'), ('\\', '\\'), ('/', '/'), ('b', '\x08'), ('f', '\x0c'), ('n', '\n'), ('r', '\r'),
    ('t', '\t')]

inductive CharSpelled : Char → Text → Prop where
  | plain {c : Char} (hquote : c ≠ '"') (hslash : c ≠ '\\') (hcontrol : 0x20 ≤ c.toNat) :
      CharSpelled c [c]
  | short {letter c : Char} (h : (letter, c) ∈ escapes) : CharSpelled c ['\\', letter]
  | unit {c : Char} {digits : Text} (h : HexUnit c.toNat digits) :
      CharSpelled c ('\\' :: 'u' :: digits)
  | pair {c : Char} {leading trailing : Nat} {first second : Text}
      (hleading : 0xd800 ≤ leading ∧ leading ≤ 0xdbff) (hfirst : HexUnit leading first)
      (htrailing : 0xdc00 ≤ trailing ∧ trailing ≤ 0xdfff) (hsecond : HexUnit trailing second)
      (hc : c.toNat = 0x10000 + (leading - 0xd800) * 0x400 + (trailing - 0xdc00)) :
      CharSpelled c ('\\' :: 'u' :: (first ++ '\\' :: 'u' :: second))

/-- What stands between the quotes of a string. -/
inductive StringSpelled : Text → Text → Prop where
  | nil : StringSpelled [] []
  | cons {c : Char} {t s rest : Text} (hc : CharSpelled c s) (hrest : StringSpelled t rest) :
      StringSpelled (c :: t) (s ++ rest)

/-- A text that needs no escapes spells itself. -/
theorem stringSpelled_self {t : Text}
    (h : ∀ c ∈ t, c ≠ '"' ∧ c ≠ '\\' ∧ 0x20 ≤ c.toNat) : StringSpelled t t := by
  induction t with
  | nil => exact .nil
  | cons c t ih =>
    obtain ⟨hquote, hslash, hcontrol⟩ := h c List.mem_cons_self
    exact .cons (.plain hquote hslash hcontrol) (ih fun d hd => h d (List.mem_cons_of_mem c hd))

/-! ## Values -/

inductive Tree where
  | null
  | boolean (value : Bool)
  | number (numeral : Numeral)
  | string (value : Text)
  | list (items : List Tree)
  | object (members : List (Text × Tree))

/-- What a text can stand for: a value, or what is left of a container up to its closing bracket.
The flag says that nothing of the container has come yet. -/
inductive Piece where
  | value (v : Tree)
  | items (first : Bool) (items : List Tree)
  | members (first : Bool) (members : List (Text × Tree))

/-- Every item but the first comes after a comma. -/
inductive Separator : Bool → Text → Prop where
  | first {blanks : Text} (h : Blank blanks) : Separator true blanks
  | next {before after : Text} (hbefore : Blank before) (hafter : Blank after) :
      Separator false (before ++ ',' :: after)

inductive Spelled : Piece → Text → Prop where
  | null : Spelled (.value .null) "null".toList
  | yes : Spelled (.value (.boolean true)) "true".toList
  | no : Spelled (.value (.boolean false)) "false".toList
  | number (n : Numeral) : Spelled (.value (.number n)) n.text
  | string {t body : Text} (h : StringSpelled t body) :
      Spelled (.value (.string t)) ('"' :: (body ++ ['"']))
  | list {items : List Tree} {s : Text} (h : Spelled (.items true items) s) :
      Spelled (.value (.list items)) ('[' :: s)
  | object {members : List (Text × Tree)} {s : Text} (h : Spelled (.members true members) s) :
      Spelled (.value (.object members)) ('\x7b' :: s)
  | closeList {first : Bool} {blanks : Text} (h : Blank blanks) :
      Spelled (.items first []) (blanks ++ [']'])
  | item {first : Bool} {separator s rest : Text} {v : Tree} {items : List Tree}
      (hseparator : Separator first separator) (hv : Spelled (.value v) s)
      (hrest : Spelled (.items false items) rest) :
      Spelled (.items first (v :: items)) (separator ++ (s ++ rest))
  | closeObject {first : Bool} {blanks : Text} (h : Blank blanks) :
      Spelled (.members first []) (blanks ++ ['\x7d'])
  | member {first : Bool} {separator key name before after s rest : Text} {v : Tree}
      {members : List (Text × Tree)} (hseparator : Separator first separator)
      (hkey : StringSpelled key name) (hbefore : Blank before) (hafter : Blank after)
      (hv : Spelled (.value v) s) (hrest : Spelled (.members false members) rest) :
      Spelled (.members first ((key, v) :: members))
        (separator ++ ('"' :: (name ++ '"' :: (before ++ ':' :: (after ++ (s ++ rest))))))

/-- A text that is one object. -/
structure SpelledObject (members : List (Text × Tree)) (text : Text) : Prop where
  exists_body : ∃ before body after, Blank before ∧ Blank after ∧
    Spelled (.members true members) body ∧ text = before ++ '\x7b' :: (body ++ after)

/-! ## What a spelled text begins with -/

/-- A sign or a digit begins no other kind of value. -/
theorem ne_of_sign_or_digit {c : Char} (h : c = '-' ∨ c.isDigit = true) :
    isBlank c = false ∧ c ≠ 'n' ∧ c ≠ 't' ∧ c ≠ 'f' ∧ c ≠ '"' ∧ c ≠ '[' ∧ c ≠ '\x7b' := by
  rcases h with rfl | hdigit
  · decide
  · have hblank : isBlank c = false := by
      by_contra hc
      simp only [Bool.not_eq_false, isBlank, Bool.or_eq_true, beq_iff_eq] at hc
      rcases hc with ((rfl | rfl) | rfl) | rfl <;> exact absurd hdigit (by decide)
    refine ⟨hblank, ?_, ?_, ?_, ?_, ?_, ?_⟩ <;>
      · rintro rfl
        exact absurd hdigit (by decide)

theorem Numeral.text_eq_cons (n : Numeral) :
    ∃ c rest, n.text = c :: rest ∧ (c = '-' ∨ c.isDigit = true) := by
  rw [text]
  split
  · exact ⟨'-', n.unsigned, rfl, .inl rfl⟩
  · obtain ⟨c, rest, hcons, hdigit⟩ := Text.ofNat_eq_cons n.whole
    exact ⟨c, rest ++ n.tail, by rw [unsigned, hcons, List.cons_append], .inr hdigit⟩

theorem Spelled.value_eq_cons {v : Tree} {s : Text} (h : Spelled (.value v) s) :
    ∃ c rest, s = c :: rest ∧ isBlank c = false ∧ c ≠ ']' := by
  cases h with
  | null => exact ⟨'n', _, rfl, by decide⟩
  | yes => exact ⟨'t', _, rfl, by decide⟩
  | no => exact ⟨'f', _, rfl, by decide⟩
  | number n =>
    obtain ⟨c, rest, hcons, hc⟩ := n.text_eq_cons
    refine ⟨c, rest, hcons, (ne_of_sign_or_digit hc).1, ?_⟩
    rintro rfl
    exact absurd hc (by decide)
  | string h => exact ⟨'"', _, rfl, by decide⟩
  | list h => exact ⟨'[', _, rfl, by decide⟩
  | object h => exact ⟨'\x7b', _, rfl, by decide⟩

theorem Spelled.object_eq_cons {members : List (Text × Tree)} {s : Text}
    (h : Spelled (.value (.object members)) s) :
    ∃ body, s = '\x7b' :: body ∧ Spelled (.members true members) body := by
  cases h with
  | object hbody => exact ⟨_, rfl, hbody⟩

/-- The object ends with its closing brace. -/
theorem Spelled.members_eq_append {members : List (Text × Tree)} {first : Bool} {s : Text}
    (h : Spelled (.members first members) s) : ∃ init, s = init ++ ['\x7d'] := by
  induction members generalizing first s with
  | nil =>
    cases h with
    | closeObject hblanks => exact ⟨_, rfl⟩
  | cons m members ih =>
    cases h with
    | @member _ separator key name before after s more v _ hseparator hkey hbefore hafter hv
        hmore =>
      obtain ⟨init, rfl⟩ := ih hmore
      refine ⟨separator ++ ('"' :: (name ++ '"' :: (before ++ ':' :: (after ++ (s ++ init))))), ?_⟩
      simp only [List.append_assoc, List.cons_append]

/-- How many items or members are to come. -/
def Piece.count : Piece → Nat
  | value _ => 0
  | items _ vs => vs.length
  | members _ ms => ms.length

/-- A text is longer than the list it spells. -/
theorem Spelled.count_lt_length {piece : Piece} {s : Text} (h : Spelled piece s) :
    piece.count < s.length := by
  induction h with
  | null => exact Nat.zero_lt_succ 3
  | yes => exact Nat.zero_lt_succ 3
  | no => exact Nat.zero_lt_succ 4
  | number n =>
    obtain ⟨c, rest, hcons, -⟩ := n.text_eq_cons
    rw [hcons]
    exact Nat.zero_lt_succ _
  | string h => exact Nat.zero_lt_succ _
  | list h ih => exact Nat.zero_lt_succ _
  | object h ih => exact Nat.zero_lt_succ _
  | closeList h | closeObject h =>
    simp only [Piece.count, List.length_nil, List.length_append, List.length_singleton]
    omega
  | item hseparator hv hrest ihv ihrest =>
    simp only [Piece.count, List.length_cons, List.length_append] at ihv ihrest ⊢
    omega
  | member hseparator hkey hbefore hafter hv hrest ihv ihrest =>
    simp only [Piece.count, List.length_cons, List.length_append] at ihv ihrest ⊢
    omega

/-- A numeral cannot run on into what follows an item. -/
theorem Spelled.endsNumber_items {items : List Tree} {s : Text}
    (h : Spelled (.items false items) s) (rest : Text) : EndsNumber (s ++ rest) := by
  cases h with
  | closeList hblanks =>
    rw [List.append_assoc]
    exact endsNumber_append hblanks (endsNumber_cons (by decide) rest)
  | item hseparator hv hrest =>
    cases hseparator with
    | next hbefore hafter =>
      simp only [List.append_assoc, List.cons_append]
      exact endsNumber_append hbefore (endsNumber_cons (by decide) _)

theorem Spelled.endsNumber_members {members : List (Text × Tree)} {s : Text}
    (h : Spelled (.members false members) s) (rest : Text) : EndsNumber (s ++ rest) := by
  cases h with
  | closeObject hblanks =>
    rw [List.append_assoc]
    exact endsNumber_append hblanks (endsNumber_cons (by decide) rest)
  | member hseparator hkey hbefore hafter hv hrest =>
    cases hseparator with
    | next hbefore hafter =>
      simp only [List.append_assoc, List.cons_append]
      exact endsNumber_append hbefore (endsNumber_cons (by decide) _)

/-! ## Every tree can be spelled -/

theorem mem_escapes_of_lookup {c letter : Char} (h : shortEscapes.lookup c = some letter) :
    (letter, c) ∈ escapes := by
  have hall : ∀ p ∈ shortEscapes, (p.2, p.1) ∈ escapes := by decide
  obtain ⟨before, after, hescapes, -⟩ := List.lookup_eq_some_iff.mp h
  exact hall (c, letter) (hescapes ▸ List.mem_append_right before List.mem_cons_self)

/-- What is written for a character is one of its spellings. -/
theorem charSpelled_escapeChar (c : Char) : CharSpelled c (escapeChar c) := by
  rw [escapeChar]
  cases hshort : shortEscapes.lookup c with
  | some letter => exact .short (mem_escapes_of_lookup hshort)
  | none =>
    by_cases hcontrol : c.toNat < 0x20
    · have hbyte : (UInt8.ofNat c.toNat).toNat = c.toNat := by
        rw [UInt8.toNat_ofNat']
        omega
      have hzero : Text.hexValue? '0' = some 0 := by decide
      have hunit := HexUnit.digits hzero hzero
        (Text.hexValue?_hexDigit (show c.toNat / 16 < 16 by omega))
        (Text.hexValue?_hexDigit (show c.toNat % 16 < 16 by omega))
      have hvalue : 16 * (16 * (16 * 0 + 0) + c.toNat / 16) + c.toNat % 16 = c.toNat := by omega
      rw [hvalue] at hunit
      simp only [if_pos hcontrol, Text.hexByte, hbyte]
      exact .unit hunit
    · have hquote : c ≠ '"' := by
        rintro rfl
        exact absurd hshort (by decide)
      have hslash : c ≠ '\\' := by
        rintro rfl
        exact absurd hshort (by decide)
      simp only [if_neg hcontrol]
      exact .plain hquote hslash (Nat.le_of_not_lt hcontrol)

theorem stringSpelled_flatMap_escapeChar (t : Text) :
    StringSpelled t (t.flatMap escapeChar) := by
  induction t with
  | nil => exact .nil
  | cons c t ih => exact .cons (charSpelled_escapeChar c) ih

theorem exists_separator (first : Bool) : ∃ separator, Separator first separator := by
  cases first with
  | true => exact ⟨_, .first blank_nil⟩
  | false => exact ⟨_, .next blank_nil blank_nil⟩

mutual

theorem exists_spelled : (v : Tree) → ∃ s, Spelled (.value v) s
  | .null => ⟨_, .null⟩
  | .boolean true => ⟨_, .yes⟩
  | .boolean false => ⟨_, .no⟩
  | .number n => ⟨_, .number n⟩
  | .string t => ⟨_, .string (stringSpelled_flatMap_escapeChar t)⟩
  | .list items => by
    obtain ⟨s, hs⟩ := exists_spelled_items true items
    exact ⟨_, .list hs⟩
  | .object members => by
    obtain ⟨s, hs⟩ := exists_spelled_members true members
    exact ⟨_, .object hs⟩

theorem exists_spelled_items (first : Bool) :
    (items : List Tree) → ∃ s, Spelled (.items first items) s
  | [] => ⟨_, .closeList blank_nil⟩
  | v :: items => by
    obtain ⟨separator, hseparator⟩ := exists_separator first
    obtain ⟨s, hs⟩ := exists_spelled v
    obtain ⟨more, hmore⟩ := exists_spelled_items false items
    exact ⟨_, .item hseparator hs hmore⟩

theorem exists_spelled_members (first : Bool) :
    (members : List (Text × Tree)) → ∃ s, Spelled (.members first members) s
  | [] => ⟨_, .closeObject blank_nil⟩
  | (key, v) :: members => by
    obtain ⟨separator, hseparator⟩ := exists_separator first
    obtain ⟨s, hs⟩ := exists_spelled v
    obtain ⟨more, hmore⟩ := exists_spelled_members false members
    have hkey := stringSpelled_flatMap_escapeChar key
    exact ⟨_, .member hseparator hkey blank_nil blank_nil hs hmore⟩

end

theorem exists_spelledObject (members : List (Text × Tree)) :
    ∃ text, SpelledObject members text := by
  obtain ⟨body, hbody⟩ := exists_spelled_members true members
  exact ⟨_, ⟨[], body, [], blank_nil, blank_nil, hbody, rfl⟩⟩

end Json
end LedPattern
