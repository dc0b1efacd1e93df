import LedPattern.Proofs.Json.Written
import LedPattern.Proofs.Pattern.Members
/-!
Patterns as objects. A pattern gives each of its fields a tree, and an object with the trees of some
fields describes the pattern as long as the fields that it leaves out have their defaults. The text
that a pattern is written as is such an object, so the pattern is read back from it.
-/
namespace LedPattern
namespace Pattern

open Json (Tree)

/-- What a field of the pattern holds; a name or a background that is absent is `null`. -/
def fieldTree (p : Pattern) : Field → Tree
  | .effect => .string p.effect
  | .name => p.name.elim .null .string
  | .colors => .list (p.colors.map .string)
  | .background => p.background.elim .null .string
  | .quantity q => .number (.ofInt (p.get q).toInt)

def member (p : Pattern) (f : Field) : Member := (f.key, p.fieldTree f)

theorem Field.mem_all (f : Field) : f ∈ all := by
  cases f with
  | quantity q => exact List.mem_append_right _ (List.mem_map_of_mem q.mem_all)
  | _ => decide

theorem of?_member (p : Pattern) (f : Field) : Field.of? (p.member f) = some f := by
  have hall : ∀ f ∈ Field.all, Field.keys.lookup f.key = some f := by decide
  exact hall f f.mem_all

theorem fits_fieldTree (p : Pattern) (f : Field) : f.Fits (p.fieldTree f) := by
  cases f with
  | effect => exact .inr ⟨_, rfl⟩
  | colors => exact .inr ⟨_, rfl⟩
  | quantity q => exact .inr ⟨_, _, rfl, Json.Numeral.int32?_ofInt _⟩
  | name =>
    rw [fieldTree]
    cases p.name with
    | none => exact .inl rfl
    | some name => exact .inr ⟨name, rfl⟩
  | background =>
    rw [fieldTree]
    cases p.background with
    | none => exact .inl rfl
    | some background => exact .inr ⟨background, rfl⟩

theorem holds_fieldTree (p : Pattern) (f : Field) : p.Holds (p.fieldTree f) f := by
  cases f with
  | effect => rfl
  | name =>
    show p.name = (p.name.elim .null .string : Tree).text?
    cases p.name <;> rfl
  | colors =>
    have hstrings : Tree.strings? (p.colors.map .string) = some p.colors :=
      Tree.strings?_eq_some_iff.mpr rfl
    show p.colors = (Tree.strings? (p.colors.map .string)).getD []
    rw [hstrings, Option.getD_some]
  | background =>
    show p.background = (p.background.elim .null .string : Tree).text?
    cases p.background <;> rfl
  | quantity q =>
    show p.get q = (Json.Numeral.ofInt (p.get q).toInt).int32?.getD 0
    rw [Json.Numeral.int32?_ofInt, Option.getD_some]

theorem fieldsOf_members (p : Pattern) (fields : List Field) :
    fieldsOf (fields.map p.member) = fields := by
  have hof : Field.of? ∘ p.member = some := funext p.of?_member
  rw [fieldsOf, List.filterMap_map, hof, List.filterMap_some]

/-- The fields that are left out have their defaults, and no field comes twice. -/
theorem describes_members {p : Pattern} {fields : List Field} (hnodup : fields.Nodup)
    (habsent : ∀ f, f ∉ fields → p.Holds .null f) : Describes (fields.map p.member) p := by
  have hmember {m : Member} (hm : m ∈ fields.map p.member) {f : Field}
      (hof : Field.of? m = some f) : m.2 = p.fieldTree f := by
    obtain ⟨g, -, rfl⟩ := List.mem_map.mp hm
    obtain rfl : g = f := Option.some.inj ((p.of?_member g).symm.trans hof)
    rfl
  refine ⟨?_, ?_, ?_, ?_⟩
  · rw [fieldsOf_members]
    exact hnodup
  · intro m hm f hof
    rw [hmember hm hof]
    exact p.fits_fieldTree f
  · intro m hm f hof
    rw [hmember hm hof]
    exact p.holds_fieldTree f
  · intro f hnone
    apply habsent
    intro hf
    exact hnone _ (List.mem_map_of_mem hf) (p.of?_member f)

/-! ## The text of a pattern -/

/-- The fields that a pattern writes, in order. -/
def present (p : Pattern) : List Field :=
  [.effect] ++ (if p.name.isSome then [.name] else []) ++ [.colors] ++
    (if p.background.isSome then [.background] else []) ++ Quantity.all.map .quantity

theorem nodup_present (p : Pattern) : p.present.Nodup := by
  rw [present]
  cases p.name.isSome <;> cases p.background.isSome <;> decide

theorem holds_null_of_notMem_present {p : Pattern} {f : Field} (h : f ∉ p.present) :
    p.Holds .null f := by
  cases f with
  | name =>
    show p.name = none
    cases hname : p.name with
    | none => rfl
    | some name => exact absurd (by simp [present, hname]) h
  | background =>
    show p.background = none
    cases hbackground : p.background with
    | none => rfl
    | some background => exact absurd (by simp [present, hbackground]) h
  | quantity q =>
    have hpresent : .quantity q ∈ p.present :=
      List.mem_append_right _ (List.mem_map_of_mem q.mem_all)
    exact absurd hpresent h
  | _ => exact absurd (by simp [present]) h

theorem describes_present (p : Pattern) : Describes (p.present.map p.member) p :=
  describes_members p.nodup_present fun _ => holds_null_of_notMem_present

theorem tree_toJson (p : Pattern) : p.toJson.tree = .object (p.present.map p.member) := by
  obtain ⟨effect, name, colors, background⟩ := p
  have hcolors := Json.Value.trees_map_string colors
  cases name <;> cases background <;>
    simp only [toJson, Option.map_none, Option.map_some, Option.toList_none, Option.toList_some,
      List.cons_append, List.nil_append, List.append_nil, Json.Value.tree, Json.Value.memberTrees,
      hcolors] <;> rfl

theorem toJson_spelled (p : Pattern) {layout : Json.Layout} (hlayout : layout.Loose) {tail : Text}
    (htail : Json.Blank tail) :
    Json.SpelledObject (p.present.map p.member) (p.toJson.text layout ++ tail) :=
  Json.Value.spelledObject_text hlayout p.tree_toJson htail

theorem read_toJson {p : Pattern} (heffect : Text.trim p.effect ≠ []) {layout : Json.Layout}
    (hlayout : layout.Loose) {tail : Text} (htail : Json.Blank tail) :
    (Source.detect (p.toJson.text layout ++ tail)).read = .ok (p, []) := by
  rw [read_of_describes (p.toJson_spelled hlayout htail) p.describes_present,
    if_neg (List.isEmpty_iff.not.mpr heffect)]

end Pattern
end LedPattern
