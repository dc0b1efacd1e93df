import LedPattern.Proofs.Json.Literal
/-!
A text stands for one tree at most. Where a value ends and what it is can be told from its front,
whatever follows it, since the readers of single tokens decide every step: which kind of value
comes, which characters belong to a string, whether another item comes, and where the blanks end. A
numeral alone has no closing character, and needs to be followed by something that could not be part
of it.
-/
namespace LedPattern
namespace Json

/-! ## Numerals -/

theorem digits_append_inj {a b r r' : Text} (ha : ∀ c ∈ a, c.isDigit = true)
    (hb : ∀ c ∈ b, c.isDigit = true) (hr : EndsDigits r) (hr' : EndsDigits r')
    (h : a ++ r = b ++ r') : a = b ∧ r = r' := by
  obtain ⟨htake, hdrop⟩ := Number.takeWhile_digits ha hr
  obtain ⟨htake', hdrop'⟩ := Number.takeWhile_digits hb hr'
  rw [h] at htake hdrop
  exact ⟨htake.symm.trans htake', hdrop.symm.trans hdrop'⟩

theorem Digits.append_inj {d e : Digits} {r r' : Text} (hr : EndsDigits r) (hr' : EndsDigits r')
    (h : d.text ++ r = e.text ++ r') : d = e ∧ r = r' := by
  obtain ⟨htext, hrest⟩ := digits_append_inj d.isDigit e.isDigit hr hr' h
  refine ⟨?_, hrest⟩
  cases d
  cases e
  obtain rfl := htext
  rfl

/-- A sign is no digit. -/
theorem Digits.head?_append_ne (d : Digits) (r : Text) :
    ∀ c ∈ (d.text ++ r).head?, ¬ (c = '+' ∨ c = '-') := by
  intro c hc hsign
  rw [List.head?_append_of_ne_nil _ d.ne_nil] at hc
  have hdigit := d.isDigit c (List.mem_of_head? hc)
  rcases hsign with rfl | rfl
  · exact absurd hdigit (by decide)
  · exact absurd hdigit (by decide)

theorem Power.sign_cases (p : Power) :
    p.sign = [] ∨ ∃ c, p.sign = [c] ∧ (c = '+' ∨ c = '-') := by
  rcases p.sign_eq with hsign | hsign | hsign
  · exact .inl hsign
  · exact .inr ⟨'+', hsign, .inl rfl⟩
  · exact .inr ⟨'-', hsign, .inr rfl⟩

/-- Before digits there is the same sign or none. -/
theorem Power.sign_append_inj {p q : Power} {t t' : Text}
    (ht : ∀ c ∈ t.head?, ¬ (c = '+' ∨ c = '-')) (ht' : ∀ c ∈ t'.head?, ¬ (c = '+' ∨ c = '-'))
    (h : p.sign ++ t = q.sign ++ t') : p.sign = q.sign ∧ t = t' := by
  rcases p.sign_cases with hp | ⟨c, hp, hc⟩ <;> rcases q.sign_cases with hq | ⟨d, hq, hd⟩ <;>
    rw [hp, hq] at h ⊢
  · exact ⟨rfl, h⟩
  · have hhead : d ∈ t.head? := congrArg List.head? h
    exact absurd hd (ht d hhead)
  · have hhead : c ∈ t'.head? := congrArg List.head? h.symm
    exact absurd hc (ht' c hhead)
  · obtain ⟨rfl, rfl⟩ := List.cons.inj h
    exact ⟨rfl, rfl⟩

namespace Numeral

def decimalsText (d : Option Digits) : Text := d.elim [] fun d => '.' :: d.text

def powerText (p : Option Power) : Text := p.elim [] fun p => p.mark :: (p.sign ++ p.digits.text)

theorem tail_eq (n : Numeral) : n.tail = decimalsText n.decimals ++ powerText n.power := rfl

/-- What follows the digits is no digit, and what follows the decimals no point. -/
theorem head?_powerText {p : Option Power} {r : Text} (hr : EndsNumber r) :
    ∀ c ∈ (powerText p ++ r).head?, c.isDigit = false ∧ c ≠ '.' := by
  intro c hc
  cases p with
  | none => exact ⟨(hr c hc).1, (hr c hc).2.1⟩
  | some p =>
    obtain rfl : p.mark = c := by simpa [powerText] using hc
    rcases p.mark_eq with hmark | hmark <;> rw [hmark] <;> decide

theorem not_endsNumber_powerText (p : Power) (r : Text) :
    ¬ EndsNumber (powerText (some p) ++ r) := by
  intro h
  obtain ⟨-, -, hsmall, hlarge⟩ := h p.mark rfl
  exact p.mark_eq.elim hsmall hlarge

theorem powerText_append_inj {p q : Option Power} {r r' : Text} (hr : EndsNumber r)
    (hr' : EndsNumber r') (h : powerText p ++ r = powerText q ++ r') : p = q ∧ r = r' := by
  cases p with
  | none =>
    cases q with
    | none => exact ⟨rfl, h⟩
    | some q =>
      have hrest : EndsNumber (powerText (some q) ++ r') := h ▸ hr
      exact absurd hrest (not_endsNumber_powerText q r')
  | some p =>
    cases q with
    | none =>
      have hrest : EndsNumber (powerText (some p) ++ r) := h ▸ hr'
      exact absurd hrest (not_endsNumber_powerText p r)
    | some q =>
      have hmark : p.mark = q.mark := (List.cons.inj h).1
      have hbody : p.sign ++ (p.digits.text ++ r) = q.sign ++ (q.digits.text ++ r') := by
        rw [← List.append_assoc, ← List.append_assoc]
        exact (List.cons.inj h).2
      obtain ⟨hsign, hboth⟩ :=
        Power.sign_append_inj (p.digits.head?_append_ne r) (q.digits.head?_append_ne r') hbody
      obtain ⟨hdigits, hrest⟩ := Digits.append_inj hr.endsDigits hr'.endsDigits hboth
      refine ⟨?_, hrest⟩
      cases p
      cases q
      obtain rfl := hmark
      obtain rfl := hsign
      obtain rfl := hdigits
      rfl

theorem decimalsText_append_inj {d e : Option Digits} {r r' : Text}
    (hr : ∀ c ∈ r.head?, c.isDigit = false ∧ c ≠ '.')
    (hr' : ∀ c ∈ r'.head?, c.isDigit = false ∧ c ≠ '.')
    (h : decimalsText d ++ r = decimalsText e ++ r') : d = e ∧ r = r' := by
  cases d with
  | none =>
    cases e with
    | none => exact ⟨rfl, h⟩
    | some e =>
      have hpoint : '.' ∈ r.head? := congrArg List.head? h
      exact absurd rfl (hr _ hpoint).2
  | some d =>
    cases e with
    | none =>
      have hpoint : '.' ∈ r'.head? := congrArg List.head? h.symm
      exact absurd rfl (hr' _ hpoint).2
    | some e =>
      have htext : d.text ++ r = e.text ++ r' := (List.cons.inj h).2
      obtain ⟨rfl, rfl⟩ :=
        Digits.append_inj (fun c hc => (hr c hc).1) (fun c hc => (hr' c hc).1) htext
      exact ⟨rfl, rfl⟩

theorem unsigned_append_inj {m n : Numeral} {r r' : Text} (hr : EndsNumber r)
    (hr' : EndsNumber r') (h : m.unsigned ++ r = n.unsigned ++ r') :
    (m.whole = n.whole ∧ m.decimals = n.decimals ∧ m.power = n.power) ∧ r = r' := by
  rw [unsigned, unsigned, List.append_assoc, List.append_assoc] at h
  obtain ⟨hwhole, htail⟩ := digits_append_inj (fun c => Text.isDigit_of_mem_ofNat)
    (fun c => Text.isDigit_of_mem_ofNat) (m.endsDigits_tail hr) (n.endsDigits_tail hr') h
  rw [tail_eq, tail_eq, List.append_assoc, List.append_assoc] at htail
  obtain ⟨hdecimals, hpowers⟩ :=
    decimalsText_append_inj (head?_powerText hr) (head?_powerText hr') htail
  obtain ⟨hpower, hrest⟩ := powerText_append_inj hr hr' hpowers
  exact ⟨⟨Text.ofNat_inj hwhole, hdecimals, hpower⟩, hrest⟩

theorem unsigned_ne_minus (n : Numeral) (r t : Text) : n.unsigned ++ r ≠ '-' :: t := by
  obtain ⟨c, rest, hcons, hdigit⟩ := Text.ofNat_eq_cons n.whole
  intro h
  rw [unsigned, hcons] at h
  obtain rfl : c = '-' := (List.cons.inj h).1
  exact absurd hdigit (by decide)

theorem text_append_inj {m n : Numeral} {r r' : Text} (hr : EndsNumber r) (hr' : EndsNumber r')
    (h : m.text ++ r = n.text ++ r') : m = n ∧ r = r' := by
  have hnegative : m.negative = n.negative ∧ m.unsigned ++ r = n.unsigned ++ r' := by
    cases hm : m.negative <;> cases hn : n.negative <;>
      simp only [text, hm, hn, if_true, if_false, Bool.false_eq_true, List.cons_append] at h
    · exact ⟨rfl, h⟩
    · exact absurd h (m.unsigned_ne_minus r _)
    · exact absurd h.symm (n.unsigned_ne_minus r' _)
    · exact ⟨rfl, (List.cons.inj h).2⟩
  obtain ⟨⟨hwhole, hdecimals, hpower⟩, hrest⟩ := unsigned_append_inj hr hr' hnegative.2
  refine ⟨?_, hrest⟩
  cases m
  cases n
  obtain rfl := hnegative.1
  obtain rfl := hwhole
  obtain rfl := hdecimals
  obtain rfl := hpower
  rfl

end Numeral

/-! ## Values -/

/-- The kinds of value that the first character tells apart. -/
inductive Lead where
  | null
  | yes
  | no
  | number
  | string
  | list
  | object

def Lead.ofFirst (c : Char) : Lead :=
  if c = 'n' then null
  else if c = 't' then yes
  else if c = 'f' then no
  else if c = '"' then string
  else if c = '[' then list
  else if c = '\x7b' then object
  else number

def Tree.lead : Tree → Lead
  | null => .null
  | boolean true => .yes
  | boolean false => .no
  | number _ => .number
  | string _ => .string
  | list _ => .list
  | object _ => .object

theorem Spelled.lead_eq {v : Tree} {s : Text} (h : Spelled (.value v) s) :
    ∃ c rest, s = c :: rest ∧ Lead.ofFirst c = v.lead := by
  cases h with
  | null => exact ⟨'n', _, rfl, rfl⟩
  | yes => exact ⟨'t', _, rfl, rfl⟩
  | no => exact ⟨'f', _, rfl, rfl⟩
  | string h => exact ⟨'"', _, rfl, rfl⟩
  | list h => exact ⟨'[', _, rfl, rfl⟩
  | object h => exact ⟨'\x7b', _, rfl, rfl⟩
  | number n =>
    obtain ⟨c, rest, hcons, hc⟩ := n.text_eq_cons
    obtain ⟨-, hn, ht, hf, hquote, hlist, hobject⟩ := ne_of_sign_or_digit hc
    refine ⟨c, rest, hcons, ?_⟩
    simp only [Lead.ofFirst, hn, ht, hf, hquote, hlist, hobject, if_false, Tree.lead]

/-- The piece at the front of a text is the only one of its sort that can stand there. -/
def Determined : Piece → Text → Prop
  | .value v, s => ∀ v' s' r r', Spelled (.value v') s' → EndsNumber r → EndsNumber r' →
      s ++ r = s' ++ r' → v = v' ∧ r = r'
  | .items first items, s => ∀ items' s' r r', Spelled (.items first items') s' →
      s ++ r = s' ++ r' → items = items' ∧ r = r'
  | .members first members, s => ∀ members' s' r r', Spelled (.members first members') s' →
      s ++ r = s' ++ r' → members = members' ∧ r = r'

theorem Spelled.lead_unique {v v' : Tree} {s s' r r' : Text} (h : Spelled (.value v) s)
    (h' : Spelled (.value v') s') (heq : s ++ r = s' ++ r') : v.lead = v'.lead := by
  obtain ⟨c, rest, rfl, hlead⟩ := h.lead_eq
  obtain ⟨c', rest', rfl, hlead'⟩ := h'.lead_eq
  obtain rfl : c = c' := (List.cons.inj heq).1
  exact hlead.symm.trans hlead'

theorem StringSpelled.unique {t t' s s' r r' : Text} (h : StringSpelled t s)
    (h' : StringSpelled t' s') (heq : s ++ '"' :: r = s' ++ '"' :: r') : t = t' ∧ r = r' := by
  have hread := h.readString_append r
  rw [heq, h'.readString_append r'] at hread
  obtain ⟨rfl, rfl⟩ := Prod.mk.inj (Except.ok.inj hread)
  exact ⟨rfl, rfl⟩

/-- Blanks before a value can be told from it. -/
theorem Spelled.dropBlank_append {v : Tree} {s blanks : Text} (h : Spelled (.value v) s)
    (hblanks : Blank blanks) (r : Text) : dropBlank (blanks ++ (s ++ r)) = s ++ r := by
  obtain ⟨c, rest, rfl, hblank, -⟩ := h.value_eq_cons
  exact dropBlank_append_cons hblanks hblank (rest ++ r)

theorem Spelled.nextItem_append {first : Bool} {separator s : Text} {v : Tree}
    (hseparator : Separator first separator) (h : Spelled (.value v) s) (r : Text) :
    nextItem first (separator ++ (s ++ r)) = .ok (.item (s ++ r)) := by
  obtain ⟨c, rest, rfl, hblank, hclose⟩ := h.value_eq_cons
  exact nextItem_item hseparator hblank hclose (rest ++ r)

/-! ## What is left of a list or an object -/

theorem determined_closeList {first : Bool} {blanks : Text} (hblanks : Blank blanks) :
    Determined (.items first []) (blanks ++ [']']) := by
  intro items' s' r r' h' heq
  have hnext : nextItem first (blanks ++ [']'] ++ r) = .ok (.closed r) := by
    rw [List.append_assoc]
    exact nextItem_close hblanks r
  rw [heq] at hnext
  cases h' with
  | closeList hblanks' =>
    rw [List.append_assoc, List.singleton_append, nextItem_close hblanks'] at hnext
    cases hnext
    exact ⟨rfl, rfl⟩
  | item hseparator hv hmore =>
    rw [List.append_assoc, List.append_assoc, hv.nextItem_append hseparator] at hnext
    cases hnext

theorem determined_item {first : Bool} {separator s more : Text} {v : Tree} {items : List Tree}
    (hseparator : Separator first separator) (hv : Spelled (.value v) s)
    (hmore : Spelled (.items false items) more) (ihv : Determined (.value v) s)
    (ihmore : Determined (.items false items) more) :
    Determined (.items first (v :: items)) (separator ++ (s ++ more)) := by
  intro items' s' r r' h' heq
  have hnext : nextItem first (separator ++ (s ++ more) ++ r) = .ok (.item (s ++ (more ++ r))) := by
    rw [List.append_assoc, List.append_assoc]
    exact hv.nextItem_append hseparator (more ++ r)
  rw [heq] at hnext
  cases h' with
  | closeList hblanks' =>
    rw [List.append_assoc, List.singleton_append, nextItem_close hblanks'] at hnext
    cases hnext
  | item hseparator' hv' hmore' =>
    rw [List.append_assoc, List.append_assoc, hv'.nextItem_append hseparator'] at hnext
    have hvalue := Next.item.inj (Except.ok.inj hnext)
    obtain ⟨rfl, hitems⟩ := ihv _ _ _ _ hv' (hmore.endsNumber_items r)
      (hmore'.endsNumber_items r') hvalue.symm
    obtain ⟨rfl, rfl⟩ := ihmore _ _ _ _ hmore' hitems
    exact ⟨rfl, rfl⟩

theorem determined_closeObject {first : Bool} {blanks : Text} (hblanks : Blank blanks) :
    Determined (.members first []) (blanks ++ ['\x7d']) := by
  intro members' s' r r' h' heq
  have hnext : nextKey first (blanks ++ ['\x7d'] ++ r) = .ok (.closed r) := by
    rw [List.append_assoc]
    exact nextKey_closed hblanks r
  rw [heq] at hnext
  cases h' with
  | closeObject hblanks' =>
    rw [List.append_assoc, List.singleton_append, nextKey_closed hblanks'] at hnext
    cases hnext
    exact ⟨rfl, rfl⟩
  | member hseparator hkey hbefore hafter hv hmore =>
    rw [List.append_assoc, List.cons_append, nextKey_key hseparator] at hnext
    cases hnext

/-- The key, the colon and the blanks around it are passed one after the other. -/
theorem determined_member {first : Bool} {separator key name before after s more : Text} {v : Tree}
    {members : List (Text × Tree)} (hseparator : Separator first separator)
    (hkey : StringSpelled key name) (hbefore : Blank before) (hafter : Blank after)
    (hv : Spelled (.value v) s) (hmore : Spelled (.members false members) more)
    (ihv : Determined (.value v) s) (ihmore : Determined (.members false members) more) :
    Determined (.members first ((key, v) :: members))
      (separator ++ ('"' :: (name ++ '"' :: (before ++ ':' :: (after ++ (s ++ more)))))) := by
  intro members' s' r r' h' heq
  rw [List.append_assoc, List.cons_append] at heq
  have hnext := nextKey_key hseparator
    (name ++ '"' :: (before ++ ':' :: (after ++ (s ++ more))) ++ r)
  rw [heq] at hnext
  cases h' with
  | closeObject hblanks' =>
    rw [List.append_assoc, List.singleton_append, nextKey_closed hblanks'] at hnext
    cases hnext
  | member hseparator' hkey' hbefore' hafter' hv' hmore' =>
    rw [List.append_assoc, List.cons_append, nextKey_key hseparator'] at hnext
    have htext := Next.item.inj (Except.ok.inj hnext)
    simp only [List.append_assoc, List.cons_append] at htext
    obtain ⟨rfl, hcolon⟩ := hkey'.unique hkey htext
    have hvalue := takeColon_append hbefore (after ++ (s ++ (more ++ r)))
    rw [← hcolon, takeColon_append hbefore'] at hvalue
    have hvalues := congrArg dropBlank (Except.ok.inj hvalue)
    rw [hv.dropBlank_append hafter, hv'.dropBlank_append hafter'] at hvalues
    obtain ⟨rfl, hmembers⟩ := ihv _ _ _ _ hv' (hmore.endsNumber_members r)
      (hmore'.endsNumber_members r') hvalues.symm
    obtain ⟨rfl, rfl⟩ := ihmore _ _ _ _ hmore' hmembers
    exact ⟨rfl, rfl⟩

/-! ## Whole texts -/

/-- What a spelled text stands for is settled by the text, from its front on. -/
theorem Spelled.determined {piece : Piece} {s : Text} (h : Spelled piece s) :
    Determined piece s := by
  induction h with
  | null =>
    intro v' s' r r' h' _ _ heq
    have hlead := Spelled.null.lead_unique h' heq
    cases h' with
    | null => exact ⟨rfl, List.append_cancel_left heq⟩
    | _ => cases hlead
  | yes =>
    intro v' s' r r' h' _ _ heq
    have hlead := Spelled.yes.lead_unique h' heq
    cases h' with
    | yes => exact ⟨rfl, List.append_cancel_left heq⟩
    | _ => cases hlead
  | no =>
    intro v' s' r r' h' _ _ heq
    have hlead := Spelled.no.lead_unique h' heq
    cases h' with
    | no => exact ⟨rfl, List.append_cancel_left heq⟩
    | _ => cases hlead
  | number n =>
    intro v' s' r r' h' hr hr' heq
    have hlead := (Spelled.number n).lead_unique h' heq
    cases h' with
    | number n' =>
      obtain ⟨rfl, rfl⟩ := Numeral.text_append_inj hr hr' heq
      exact ⟨rfl, rfl⟩
    | _ => cases hlead
  | string h =>
    intro v' s' r r' h' _ _ heq
    have hlead := (Spelled.string h).lead_unique h' heq
    cases h' with
    | string h' =>
      have hbody := (List.cons.inj heq).2
      simp only [List.append_eq, List.append_assoc, List.singleton_append] at hbody
      obtain ⟨rfl, rfl⟩ := h.unique h' hbody
      exact ⟨rfl, rfl⟩
    | _ => cases hlead
  | list h ih =>
    intro v' s' r r' h' _ _ heq
    have hlead := (Spelled.list h).lead_unique h' heq
    cases h' with
    | list h' =>
      obtain ⟨rfl, rfl⟩ := ih _ _ _ _ h' (List.cons.inj heq).2
      exact ⟨rfl, rfl⟩
    | _ => cases hlead
  | object h ih =>
    intro v' s' r r' h' _ _ heq
    have hlead := (Spelled.object h).lead_unique h' heq
    cases h' with
    | object h' =>
      obtain ⟨rfl, rfl⟩ := ih _ _ _ _ h' (List.cons.inj heq).2
      exact ⟨rfl, rfl⟩
    | _ => cases hlead
  | closeList hblanks => exact determined_closeList hblanks
  | item hseparator hv hmore ihv ihmore => exact determined_item hseparator hv hmore ihv ihmore
  | closeObject hblanks => exact determined_closeObject hblanks
  | member hseparator hkey hbefore hafter hv hmore ihv ihmore =>
    exact determined_member hseparator hkey hbefore hafter hv hmore ihv ihmore

/-- A text is one object at most. -/
theorem SpelledObject.unique {members members' : List (Text × Tree)} {text : Text}
    (h : SpelledObject members text) (h' : SpelledObject members' text) : members = members' := by
  obtain ⟨before, body, after, hbefore, -, hbody, rfl⟩ := h.exists_body
  obtain ⟨before', body', after', hbefore', -, hbody', htext⟩ := h'.exists_body
  have hbrace : isBlank '\x7b' = false := by decide
  have hbodies := congrArg dropBlank htext
  rw [dropBlank_append_cons hbefore hbrace, dropBlank_append_cons hbefore' hbrace] at hbodies
  exact (hbody.determined _ _ _ _ hbody' (List.cons.inj hbodies).2).1

end Json
end LedPattern
