import LedPattern.Json.Value
import LedPattern.Proofs.Json.Grammar
/-!
What is written is among the spellings of what is meant. A value that is written has a tree, and its
text in any layout spells that tree; so whatever holds of spelled texts holds of written ones, and
nothing has to be said about the writer again.
-/
namespace LedPattern
namespace Json

/-- A layout that puts nothing but blanks between tokens. -/
structure Layout.Loose (layout : Layout) : Prop where
  lineBreak : ∀ depth, Blank (layout.lineBreak depth)
  colon : ∃ blanks, layout.colon = ':' :: blanks ∧ Blank blanks

theorem Layout.loose_compact : Layout.compact.Loose where
  lineBreak := fun _ => blank_nil
  colon := ⟨[], rfl, blank_nil⟩

theorem Layout.loose_pretty : Layout.pretty.Loose where
  lineBreak := by
    intro depth c hc
    rcases List.mem_cons.mp hc with rfl | hmem
    · decide
    · rw [List.eq_of_mem_replicate hmem]
      decide
  colon := ⟨[' '], rfl, blank_singleton (by decide)⟩

/-! ## Integers -/

namespace Numeral

def ofInt (n : Int) : Numeral where
  negative := n < 0
  whole := n.natAbs

theorem text_ofInt (n : Int) : (ofInt n).text = Text.ofInt n := by
  cases n with
  | ofNat k =>
    simp [text, ofInt, unsigned, tail, Text.ofInt]
  | negSucc k =>
    have hnegative : Int.negSucc k < 0 := Int.negSucc_lt_zero k
    simp [text, ofInt, unsigned, tail, Text.ofInt, hnegative]

theorem int32?_ofInt (n : Int32) : (ofInt n.toInt).int32? = some n := by
  have hleast : -2147483648 ≤ n.toInt := n.le_toInt
  have hmost : n.toInt < 2147483648 := n.toInt_lt
  have hinteger : (ofInt n.toInt).integer? = some n.toInt := by
    simp only [integer?, ofInt, Option.isSome_none, Bool.false_eq_true, false_or, decide_eq_true_eq]
    rw [if_neg (by omega)]
    split <;> rw [Option.some.injEq] <;> omega
  rw [int32?, hinteger, Option.bind_some, if_pos (by omega), Int32.ofInt_toInt]

end Numeral

/-! ## Values -/

namespace Value

mutual

def tree : Value → Tree
  | boolean value => .boolean value
  | integer n => .number (.ofInt n)
  | string t => .string t
  | list items => .list (trees items)
  | object members => .object (memberTrees members)

def trees : List Value → List Tree
  | [] => []
  | item :: items => tree item :: trees items

def memberTrees : List (Text × Value) → List (Text × Tree)
  | [] => []
  | (key, value) :: members => (key, tree value) :: memberTrees members

end

theorem trees_map_string (texts : List Text) : trees (texts.map .string) = texts.map .string := by
  induction texts with
  | nil => rfl
  | cons t texts ih => rw [List.map_cons, List.map_cons, trees, tree, ih]

variable {layout : Layout}

mutual

/-- The text of a value at any depth spells its tree. -/
theorem spelled_write (h : layout.Loose) (depth : Nat) :
    (v : Value) → Spelled (.value v.tree) (v.write layout depth)
  | boolean true => .yes
  | boolean false => .no
  | integer n => by
    rw [tree, write, ← Numeral.text_ofInt]
    exact .number _
  | string t => .string (stringSpelled_flatMap_escapeChar t)
  | list [] => .list (.closeList blank_nil)
  | list (item :: items) => by
    simp only [tree, trees, write, List.cons_append, List.append_assoc]
    exact .list (.item (.first (h.lineBreak (depth + 1))) (spelled_write h (depth + 1) item)
      (spelled_writeItems h (depth + 1) (h.lineBreak depth) items))
  | object [] => .object (.closeObject blank_nil)
  | object ((key, value) :: members) => by
    obtain ⟨blanks, hcolon, hblanks⟩ := h.colon
    simp only [tree, memberTrees, write, quote, hcolon, List.cons_append, List.append_assoc,
      List.nil_append]
    exact .object (.member (.first (h.lineBreak (depth + 1)))
      (stringSpelled_flatMap_escapeChar key) blank_nil hblanks
      (spelled_write h (depth + 1) value)
      (spelled_writeMembers h (depth + 1) (h.lineBreak depth) members))

/-- The items after the first, with what closes the list. -/
theorem spelled_writeItems (h : layout.Loose) (depth : Nat) {close : Text} (hclose : Blank close) :
    (items : List Value) →
      Spelled (.items false (trees items)) (writeItems layout depth items ++ (close ++ [']']))
  | [] => .closeList hclose
  | item :: items => by
    simp only [trees, writeItems, List.cons_append, List.append_assoc]
    exact .item (.next blank_nil (h.lineBreak depth)) (spelled_write h depth item)
      (spelled_writeItems h depth hclose items)

theorem spelled_writeMembers (h : layout.Loose) (depth : Nat) {close : Text}
    (hclose : Blank close) :
    (members : List (Text × Value)) →
      Spelled (.members false (memberTrees members))
        (writeMembers layout depth members ++ (close ++ ['\x7d']))
  | [] => .closeObject hclose
  | (key, value) :: members => by
    obtain ⟨blanks, hcolon, hblanks⟩ := h.colon
    simp only [memberTrees, writeMembers, quote, hcolon, List.cons_append, List.append_assoc,
      List.nil_append]
    exact .member (.next blank_nil (h.lineBreak depth)) (stringSpelled_flatMap_escapeChar key)
      blank_nil hblanks (spelled_write h depth value)
      (spelled_writeMembers h depth hclose members)

end

/-- The text of an object is one object, and blanks after it do not matter. -/
theorem spelledObject_text (h : layout.Loose) {v : Value} {members : List (Text × Tree)}
    (hv : v.tree = .object members) {tail : Text} (htail : Blank tail) :
    SpelledObject members (v.text layout ++ tail) := by
  have hobject := spelled_write h 0 v
  rw [hv] at hobject
  obtain ⟨body, htext, hbody⟩ := hobject.object_eq_cons
  exact ⟨[], body, tail, blank_nil, htail, hbody, congrArg (· ++ tail) htext⟩

end Value
end Json
end LedPattern
