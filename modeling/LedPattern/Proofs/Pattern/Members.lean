import LedPattern.Pattern.Json
import LedPattern.Proofs.Compile
import LedPattern.Proofs.Json.Skip
import LedPattern.Proofs.Text.Strip
import Mathlib.Logic.Relation
/-!
Which JSON objects are patterns, and of what. The members of an object are read one after another,
and what comes of them depends neither on their order nor on their spelling: a field may be given
once, and only a value of its type or `null`; members that are no field are as good as absent,
whatever they hold.
-/
namespace LedPattern

open Json (Tree)

namespace Pattern

/-- A key and its value. -/
abbrev Member := Text × Tree

/-! ## Fields and their values -/

namespace Field

/-- The keys of a pattern, one of them a second name. -/
def keys : List (Text × Field) :=
  [("effect".toList, .effect), ("name".toList, .name), ("description".toList, .name),
    ("colors".toList, .colors), ("background_color".toList, .background),
    ("brightness".toList, .quantity .brightness), ("speed".toList, .quantity .speed),
    ("density".toList, .quantity .density), ("cooling".toList, .quantity .cooling),
    ("sparking".toList, .quantity .sparking), ("wave_count".toList, .quantity .waveCount),
    ("rhythm".toList, .quantity .rhythm), ("eye_size".toList, .quantity .eyeSize),
    ("tail_length".toList, .quantity .tailLength), ("direction".toList, .quantity .direction),
    ("style".toList, .quantity .style)]

def of? (m : Member) : Option Field := keys.lookup m.1

theorem named?_eq_lookup (key : Text) : named? key = keys.lookup key := by
  have hknown : ∀ k ∈ keys.map Prod.fst, named? k = keys.lookup k := by decide
  have hnamed : ∀ f ∈ all, f.key ∈ keys.map Prod.fst := by decide
  have halias : "description".toList ∈ keys.map Prod.fst := by decide
  by_cases hkey : key ∈ keys.map Prod.fst
  · exact hknown key hkey
  · have hlookup : keys.lookup key = none := by
      rw [List.lookup_eq_none_iff]
      intro entry hentry
      rw [bne_iff_ne]
      rintro rfl
      exact hkey (List.mem_map_of_mem hentry)
    have hfind : (all.find? fun f => f.key = key) = none := by
      rw [List.find?_eq_none]
      intro f hf
      rw [decide_eq_true_eq]
      rintro rfl
      exact hkey (hnamed f hf)
    have hdescription : key ≠ "description".toList := by
      rintro rfl
      exact hkey halias
    rw [named?, if_neg hdescription, hfind, hlookup]

/-- What a field may hold. -/
def Fits (v : Tree) : Field → Prop
  | effect | name | background => v = .null ∨ ∃ t, v = .string t
  | colors => v = .null ∨ ∃ texts : List Text, v = .list (texts.map .string)
  | quantity _ => v = .null ∨ ∃ numeral i, v = .number numeral ∧ numeral.int32? = some i

end Field

/-- A field is what a value says; `null` says that it has its default. -/
def Holds (p : Pattern) (v : Tree) : Field → Prop
  | .effect => p.effect = v.text?.getD []
  | .name => p.name = v.text?
  | .colors => p.colors = v.texts?.getD []
  | .background => p.background = v.text?
  | .quantity q => p.get q = v.int32?.getD 0

def store (p : Pattern) (v : Tree) : Field → Pattern
  | .effect => { p with effect := v.text?.getD [] }
  | .name => { p with name := v.text? }
  | .colors => { p with colors := v.texts?.getD [] }
  | .background => { p with background := v.text? }
  | .quantity q => p.set q (v.int32?.getD 0)

theorem holds_store (p : Pattern) (v : Tree) (f : Field) : (p.store v f).Holds v f := by
  cases f with
  | quantity q => simp only [Holds, store, get_set, if_true]
  | _ => rfl

theorem holds_store_of_ne {f g : Field} (h : f ≠ g) (p : Pattern) (v w : Tree) :
    (p.store w f).Holds v g ↔ p.Holds v g := by
  cases f with
  | quantity q =>
    cases g with
    | quantity r =>
      have hne : r ≠ q := fun heq => h (by rw [heq])
      simp only [Holds, store, get_set, if_neg hne]
    | _ => cases q <;> rfl
  | _ =>
    cases g with
    | quantity r => cases r <;> rfl
    | _ => first | rfl | exact absurd rfl h

theorem holds_default (f : Field) : Holds {} .null f := by
  cases f with
  | quantity q => cases q <;> rfl
  | _ => rfl

/-- A pattern is nothing but its fields. -/
theorem eq_of_holds {p q : Pattern} (h : ∀ f, ∃ v, p.Holds v f ∧ q.Holds v f) : p = q := by
  have heffect : p.effect = q.effect := by
    obtain ⟨v, hp, hq⟩ := h .effect
    exact hp.trans hq.symm
  have hname : p.name = q.name := by
    obtain ⟨v, hp, hq⟩ := h .name
    exact hp.trans hq.symm
  have hcolors : p.colors = q.colors := by
    obtain ⟨v, hp, hq⟩ := h .colors
    exact hp.trans hq.symm
  have hbackground : p.background = q.background := by
    obtain ⟨v, hp, hq⟩ := h .background
    exact hp.trans hq.symm
  have hget (r : Quantity) : p.get r = q.get r := by
    obtain ⟨v, hp, hq⟩ := h (.quantity r)
    exact hp.trans hq.symm
  obtain ⟨effect, name, colors, background⟩ := p
  obtain ⟨effect', name', colors', background'⟩ := q
  obtain rfl : effect = effect' := heffect
  obtain rfl : name = name' := hname
  obtain rfl : colors = colors' := hcolors
  obtain rfl : background = background' := hbackground
  congr 1
  · exact hget .brightness
  · exact hget .speed
  · exact hget .density
  · exact hget .cooling
  · exact hget .sparking
  · exact hget .waveCount
  · exact hget .rhythm
  · exact hget .eyeSize
  · exact hget .tailLength
  · exact hget .direction
  · exact hget .style

/-! ## Members one after another -/

/-- The pattern with the value of a field, if it may have it. -/
def assign? (p : Pattern) (v : Tree) : Field → Option Pattern
  | .effect => (v.orNull Tree.text?).map fun value => { p with effect := value.getD [] }
  | .name => (v.orNull Tree.text?).map fun value => { p with name := value }
  | .colors => (v.orNull Tree.texts?).map fun value => { p with colors := value.getD [] }
  | .background => (v.orNull Tree.text?).map fun value => { p with background := value }
  | .quantity q => (v.orNull Tree.int32?).map fun value => p.set q (value.getD 0)

def assignAll? (seen : List Field) (p : Pattern) : List Member → Option Pattern
  | [] => some p
  | m :: members =>
    match Field.of? m with
    | none => assignAll? seen p members
    | some f =>
      if f ∈ seen then none
      else (p.assign? m.2 f).bind fun p => assignAll? (f :: seen) p members

theorem readField_spelled (p : Pattern) (f : Field) {v : Tree} {s : Text}
    (h : Json.Spelled (.value v) s) {blanks : Text} (hblanks : Json.Blank blanks) {rest : Text}
    (hrest : Json.EndsNumber rest) :
    (readField p (blanks ++ (s ++ rest)) f).toOption =
      (p.assign? v f).map fun p => (p, rest) := by
  cases f with
  | effect | name | background =>
    rw [readField, Json.toOption_bind, Json.readText?_spelled h hblanks, assign?]
    cases v.orNull Tree.text? <;> rfl
  | colors =>
    rw [readField, Json.toOption_bind, Json.readTexts?_spelled h hblanks, assign?]
    cases v.orNull Tree.texts? <;> rfl
  | quantity q =>
    rw [readField, Json.toOption_bind, Json.readInt32?_spelled h hblanks hrest, assign?]
    cases v.orNull Tree.int32? <;> rfl

/-- One member, up to where its value begins. -/
theorem readMembers_member_of {first : Bool} {text rest key afterKey value : Text}
    (hnext : Json.nextKey first text = .ok (.item rest))
    (hkey : Json.readString rest = .ok (key, afterKey))
    (hcolon : Json.takeColon afterKey = .ok value) (fuel : Nat) (seen : List Field) (p : Pattern) :
    readMembers (fuel + 1) first seen p text =
      match Field.named? key with
      | none => Json.skipValue value >>= readMembers fuel false seen p
      | some f =>
        if f ∈ seen then .error (.repeatedField f.key)
        else readField p value f >>= fun r => readMembers fuel false (f :: seen) r.1 r.2 := by
  rw [readMembers]
  simp only [hnext, hkey, bind, Except.bind]
  cases Field.named? key with
  | none => simp only [hcolon]
  | some f => simp only [hcolon]

theorem readMembers_spelled {members : List Member} {first : Bool} {s : Text}
    (h : Json.Spelled (.members first members) s) {fuel : Nat} (hfuel : members.length < fuel)
    (seen : List Field) (p : Pattern) (rest : Text) :
    (readMembers fuel first seen p (s ++ rest)).toOption =
      (assignAll? seen p members).map fun p => (p, rest) := by
  obtain ⟨fuel, rfl⟩ : ∃ k, fuel = k + 1 := Nat.exists_eq_add_one_of_ne_zero (by omega)
  induction members generalizing first s fuel seen p with
  | nil =>
    cases h with
    | closeObject hblanks =>
      rw [List.append_assoc, List.singleton_append, readMembers, Json.nextKey_closed hblanks]
      rfl
  | cons m members ih =>
    cases h with
    | @member _ separator key name before after s more v _ hseparator hkey hbefore hafter hv
        hmore =>
      obtain ⟨fuel, rfl⟩ : ∃ k, fuel = k + 1 := by
        simp only [List.length_cons] at hfuel
        exact Nat.exists_eq_add_one_of_ne_zero (by omega)
      have hmembers (seen : List Field) (p : Pattern) := ih hmore seen p fuel (by simpa using hfuel)
      have hends := hmore.endsNumber_members rest
      have hskip := Json.skipValue_spelled hv hafter hends
      have hfield (f : Field) := readField_spelled p f hv hafter hends
      have hof : Field.of? (key, v) = Field.named? key := (Field.named?_eq_lookup key).symm
      have htext :
          separator ++ ('"' :: (name ++ '"' :: (before ++ ':' :: (after ++ (s ++ more))))) ++ rest =
            separator ++
              '"' :: (name ++ '"' :: (before ++ ':' :: (after ++ (s ++ (more ++ rest))))) := by
        simp only [List.append_assoc, List.cons_append]
      rw [htext, readMembers_member_of (Json.nextKey_key hseparator _) (hkey.readString_append _)
        (Json.takeColon_append hbefore _), assignAll?, hof]
      cases Field.named? key with
      | none =>
        simp only [hskip]
        exact hmembers seen p
      | some f =>
        by_cases hseen : f ∈ seen
        · simp only [if_pos hseen]
          rfl
        · simp only [if_neg hseen, Json.toOption_bind, hfield f]
          cases p.assign? v f with
          | none => rfl
          | some q => exact hmembers (f :: seen) q

theorem ofJson_spelled {members : List Member} {text : Text}
    (h : Json.SpelledObject members text) :
    (ofJson text).toOption = assignAll? [] {} members := by
  obtain ⟨before, body, after, hbefore, hafter, hbody, rfl⟩ := h.exists_body
  have hbrace : Json.isBlank '\x7b' = false := by decide
  have hopen : openBrace (before ++ '\x7b' :: (body ++ after)) = .ok (body ++ after) := by
    simp only [openBrace, Json.dropBlank_append_cons hbefore hbrace, if_true]
  have hend : Json.dropBlank after = [] := by
    rw [← List.append_nil after, Json.dropBlank_append hafter]
    rfl
  have hcount : members.length < body.length := hbody.count_lt_length
  have hfuel : members.length < (body ++ after).length + 1 := by
    rw [List.length_append]
    omega
  rw [ofJson, hopen]
  show Except.toOption
    (readMembers ((body ++ after).length + 1) true [] {} (body ++ after) >>= _) = _
  rw [Json.toOption_bind, readMembers_spelled hbody hfuel]
  cases assignAll? [] {} members with
  | none => rfl
  | some p =>
    show Except.toOption (if (Json.dropBlank after).isEmpty then _ else _) = _
    rw [hend]
    rfl

/-! ## What the members must be, and what comes of them -/

def fieldsOf (members : List Member) : List Field := members.filterMap Field.of?

theorem mem_fieldsOf {members : List Member} {f : Field} :
    f ∈ fieldsOf members ↔ ∃ m ∈ members, Field.of? m = some f := List.mem_filterMap

/-- Every member that is a field holds `null` or a value of the field's type. -/
def WellTyped (members : List Member) : Prop :=
  ∀ m ∈ members, ∀ f, Field.of? m = some f → f.Fits m.2

/-- Every field has the value of its member, or its default if it has no member. -/
structure Reads (members : List Member) (p : Pattern) : Prop where
  given : ∀ m ∈ members, ∀ f, Field.of? m = some f → p.Holds m.2 f
  absent : ∀ f, (∀ m ∈ members, Field.of? m ≠ some f) → p.Holds .null f

def storeMember (p : Pattern) (m : Member) : Pattern :=
  match Field.of? m with
  | none => p
  | some f => p.store m.2 f

theorem assign?_eq_some_iff {p q : Pattern} {v : Tree} {f : Field} :
    p.assign? v f = some q ↔ f.Fits v ∧ p.store v f = q := by
  cases f with
  | effect | name | background =>
    rw [assign?, Tree.map_orNull_eq_some_iff rfl, Tree.isSome_text?_iff]
    rfl
  | colors =>
    rw [assign?, Tree.map_orNull_eq_some_iff rfl, Tree.isSome_texts?_iff]
    rfl
  | quantity r =>
    rw [assign?, Tree.map_orNull_eq_some_iff rfl, Tree.isSome_int32?_iff]
    rfl

theorem assignAll?_eq_some_iff {members : List Member} {seen : List Field} {p q : Pattern} :
    assignAll? seen p members = some q ↔
      (fieldsOf members).Nodup ∧ (∀ f ∈ fieldsOf members, f ∉ seen) ∧ WellTyped members ∧
        members.foldl storeMember p = q := by
  induction members generalizing seen p with
  | nil => simp [assignAll?, fieldsOf, WellTyped]
  | cons m members ih =>
    have htyped : WellTyped (m :: members) ↔
        (∀ f, Field.of? m = some f → f.Fits m.2) ∧ WellTyped members := List.forall_mem_cons
    cases hof : Field.of? m with
    | none =>
      have hfields : fieldsOf (m :: members) = fieldsOf members := List.filterMap_cons_none hof
      have hstore : p.storeMember m = p := by rw [storeMember, hof]
      simp only [assignAll?, hof, ih, hfields, htyped, List.foldl_cons, hstore, reduceCtorEq,
        false_implies, implies_true, true_and]
    | some f =>
      have hfields : fieldsOf (m :: members) = f :: fieldsOf members :=
        List.filterMap_cons_some hof
      have hstore : p.storeMember m = p.store m.2 f := by rw [storeMember, hof]
      simp only [assignAll?, hof, hfields, htyped, List.foldl_cons, hstore, List.nodup_cons,
        List.forall_mem_cons, Option.some.injEq, forall_eq']
      by_cases hseen : f ∈ seen
      · simp [hseen]
      · simp only [if_neg hseen, Option.bind_eq_some_iff, assign?_eq_some_iff, ih, List.mem_cons,
          not_or]
        constructor
        · rintro ⟨_, ⟨hfits, rfl⟩, hnodup, hnew, hmembers, hq⟩
          exact ⟨⟨fun hmem => (hnew f hmem).1 rfl, hnodup⟩,
            ⟨hseen, fun g hg => (hnew g hg).2⟩, ⟨hfits, hmembers⟩, hq⟩
        · rintro ⟨⟨hnot, hnodup⟩, ⟨-, hnew⟩, ⟨hfits, hmembers⟩, hq⟩
          refine ⟨_, ⟨hfits, rfl⟩, hnodup, ?_, hmembers, hq⟩
          intro g hg
          refine ⟨?_, hnew g hg⟩
          rintro rfl
          exact hnot hg

theorem holds_foldl_of_notMem {members : List Member} {f : Field} (h : f ∉ fieldsOf members)
    (p : Pattern) (v : Tree) : (members.foldl storeMember p).Holds v f ↔ p.Holds v f := by
  induction members generalizing p with
  | nil => rfl
  | cons m members ih =>
    rw [mem_fieldsOf] at h
    have hrest : f ∉ fieldsOf members := by
      rw [mem_fieldsOf]
      rintro ⟨m', hm', hof⟩
      exact h ⟨m', List.mem_cons_of_mem m hm', hof⟩
    rw [List.foldl_cons, ih hrest, storeMember]
    split
    · rfl
    · rename_i g hof
      apply holds_store_of_ne
      rintro rfl
      exact h ⟨m, List.mem_cons_self, hof⟩

theorem holds_foldl_of_mem {members : List Member} (hnodup : (fieldsOf members).Nodup) {m : Member}
    (hm : m ∈ members) {f : Field} (hof : Field.of? m = some f) (p : Pattern) :
    (members.foldl storeMember p).Holds m.2 f := by
  induction members generalizing p with
  | nil => exact absurd hm List.not_mem_nil
  | cons m' members ih =>
    rw [List.foldl_cons]
    rcases List.mem_cons.mp hm with rfl | hrest
    · have hfields : fieldsOf (m :: members) = f :: fieldsOf members := List.filterMap_cons_some hof
      rw [hfields, List.nodup_cons] at hnodup
      have hstore : p.storeMember m = p.store m.2 f := by rw [storeMember, hof]
      rw [holds_foldl_of_notMem hnodup.1, hstore]
      exact p.holds_store m.2 f
    · apply ih _ hrest
      exact hnodup.sublist (List.Sublist.filterMap Field.of? (List.sublist_cons_self m' members))

theorem reads_foldl {members : List Member} (hnodup : (fieldsOf members).Nodup) :
    Reads members (members.foldl storeMember {}) where
  given := fun m hm f hof => holds_foldl_of_mem hnodup hm hof {}
  absent := by
    intro f hnone
    rw [holds_foldl_of_notMem]
    · exact holds_default f
    · rw [mem_fieldsOf]
      rintro ⟨m, hm, hof⟩
      exact hnone m hm hof

theorem Reads.unique {members : List Member} {p q : Pattern} (hp : Reads members p)
    (hq : Reads members q) : p = q := by
  apply eq_of_holds
  intro f
  by_cases hf : ∃ m ∈ members, Field.of? m = some f
  · obtain ⟨m, hm, hof⟩ := hf
    exact ⟨m.2, hp.given m hm f hof, hq.given m hm f hof⟩
  · have hnone : ∀ m ∈ members, Field.of? m ≠ some f := fun m hm hof => hf ⟨m, hm, hof⟩
    exact ⟨.null, hp.absent f hnone, hq.absent f hnone⟩

/-- What an object says about a pattern, apart from any text. -/
structure Describes (members : List Member) (p : Pattern) : Prop where
  unrepeated : (fieldsOf members).Nodup
  wellTyped : WellTyped members
  reads : Reads members p

theorem ofJson_eq_ok_iff {members : List Member} {text : Text}
    (h : Json.SpelledObject members text) {p : Pattern} :
    ofJson text = .ok p ↔ Describes members p := by
  have hoption : ofJson text = .ok p ↔ (ofJson text).toOption = some p := by
    cases ofJson text <;> simp [Except.toOption]
  rw [hoption, ofJson_spelled h, assignAll?_eq_some_iff]
  constructor
  · rintro ⟨hnodup, -, htyped, rfl⟩
    exact ⟨hnodup, htyped, reads_foldl hnodup⟩
  · rintro ⟨hnodup, htyped, hreads⟩
    exact ⟨hnodup, fun _ _ => List.not_mem_nil, htyped, (reads_foldl hnodup).unique hreads⟩

/-! ## What makes no difference -/

/-- Changing the order of the members, and putting in a member that is no field, or a `null` for a
field that has no member. -/
inductive Edit : List Member → List Member → Prop where
  | reorder {members members' : List Member} (h : members.Perm members') : Edit members members'
  | insertOther {before after : List Member} {m : Member} (h : Field.of? m = none) :
      Edit (before ++ after) (before ++ m :: after)
  | insertNull {before after : List Member} {key : Text} {f : Field}
      (hkey : Field.of? (key, .null) = some f)
      (habsent : ∀ m ∈ before ++ after, Field.of? m ≠ some f) :
      Edit (before ++ after) (before ++ (key, .null) :: after)

theorem Describes.perm {members members' : List Member} {p : Pattern} (h : Describes members p)
    (hperm : members.Perm members') : Describes members' p where
  unrepeated := (hperm.filterMap Field.of?).nodup_iff.mp h.unrepeated
  wellTyped := fun m hm => h.wellTyped m (hperm.mem_iff.mpr hm)
  reads := {
    given := fun m hm => h.reads.given m (hperm.mem_iff.mpr hm)
    absent := fun f hnone => h.reads.absent f fun m hm => hnone m (hperm.mem_iff.mp hm) }

theorem describes_perm {members members' : List Member} (h : members.Perm members')
    (p : Pattern) : Describes members p ↔ Describes members' p :=
  ⟨fun hp => hp.perm h, fun hp => hp.perm h.symm⟩

theorem describes_cons_other {members : List Member} {m : Member} (h : Field.of? m = none)
    (p : Pattern) : Describes (m :: members) p ↔ Describes members p := by
  have hfields : fieldsOf (m :: members) = fieldsOf members := List.filterMap_cons_none h
  have hne (f : Field) : Field.of? m ≠ some f := by
    rw [h]
    exact nofun
  constructor
  · intro hp
    refine ⟨hfields ▸ hp.unrepeated, (List.forall_mem_cons.mp hp.wellTyped).2,
      (List.forall_mem_cons.mp hp.reads.given).2, ?_⟩
    intro f hnone
    exact hp.reads.absent f (List.forall_mem_cons.mpr ⟨hne f, hnone⟩)
  · intro hp
    refine ⟨hfields ▸ hp.unrepeated,
      List.forall_mem_cons.mpr ⟨fun f hof => absurd hof (hne f), hp.wellTyped⟩,
      List.forall_mem_cons.mpr ⟨fun f hof => absurd hof (hne f), hp.reads.given⟩, ?_⟩
    intro f hnone
    exact hp.reads.absent f (List.forall_mem_cons.mp hnone).2

theorem fits_null (f : Field) : f.Fits .null := by
  cases f <;> exact .inl rfl

theorem describes_cons_null {members : List Member} {key : Text} {f : Field}
    (hkey : Field.of? (key, .null) = some f) (habsent : ∀ m ∈ members, Field.of? m ≠ some f)
    (p : Pattern) : Describes ((key, .null) :: members) p ↔ Describes members p := by
  have hfields : fieldsOf ((key, .null) :: members) = f :: fieldsOf members :=
    List.filterMap_cons_some hkey
  have hnew : f ∉ fieldsOf members := by
    rw [mem_fieldsOf]
    rintro ⟨m, hm, hof⟩
    exact habsent m hm hof
  constructor
  · intro hp
    have hnodup := hp.unrepeated
    rw [hfields, List.nodup_cons] at hnodup
    refine ⟨hnodup.2, (List.forall_mem_cons.mp hp.wellTyped).2,
      (List.forall_mem_cons.mp hp.reads.given).2, ?_⟩
    intro g hnone
    by_cases hg : g = f
    · subst hg
      exact hp.reads.given _ List.mem_cons_self g hkey
    · apply hp.reads.absent g
      refine List.forall_mem_cons.mpr ⟨?_, hnone⟩
      rw [hkey]
      exact fun hsome => hg (Option.some.inj hsome).symm
  · intro hp
    have hnodup : (f :: fieldsOf members).Nodup := List.nodup_cons.mpr ⟨hnew, hp.unrepeated⟩
    refine ⟨hfields ▸ hnodup, List.forall_mem_cons.mpr ⟨?_, hp.wellTyped⟩,
      List.forall_mem_cons.mpr ⟨?_, hp.reads.given⟩, ?_⟩
    · intro g _
      exact fits_null g
    · intro g hof
      obtain rfl : f = g := Option.some.inj (hkey.symm.trans hof)
      exact hp.reads.absent f habsent
    · intro g hnone
      exact hp.reads.absent g (List.forall_mem_cons.mp hnone).2

theorem describes_edit {members members' : List Member} (h : Edit members members')
    (p : Pattern) : Describes members p ↔ Describes members' p := by
  cases h with
  | reorder hperm => exact describes_perm hperm p
  | insertOther hother => rw [describes_perm List.perm_middle, describes_cons_other hother]
  | insertNull hkey habsent =>
    rw [describes_perm List.perm_middle, describes_cons_null hkey habsent]

theorem describes_of_edits {members members' : List Member}
    (h : Relation.EqvGen Edit members members') (p : Pattern) :
    Describes members p ↔ Describes members' p := by
  induction h with
  | rel _ _ hedit => exact describes_edit hedit p
  | refl _ => rfl
  | symm _ _ _ ih => exact ih.symm
  | trans _ _ _ _ _ ih ih' => exact ih.trans ih'

/-! ## Texts of objects -/

theorem isBlank_of_json {c : Char} (h : Json.isBlank c = true) : Text.isBlank c = true := by
  simp only [Json.isBlank, Bool.or_eq_true, beq_iff_eq] at h
  rcases h with ((rfl | rfl) | rfl) | rfl <;> decide

theorem stripped_object {members : List Member} {body : Text}
    (h : Json.Spelled (.members true members) body) :
    Text.Stripped Text.isBlank ('\x7b' :: body) := by
  obtain ⟨init, rfl⟩ := h.members_eq_append
  exact Text.stripped_between (by decide) (by decide) init

/-- The text of an object is taken for structured input, without the blanks around it. -/
theorem detect_spelled {members : List Member} {text : Text}
    (h : Json.SpelledObject members text) :
    ∃ trimmed, Source.detect text = .structured trimmed ∧ Json.SpelledObject members trimmed := by
  obtain ⟨before, body, after, hbefore, hafter, hbody, rfl⟩ := h.exists_body
  refine ⟨'\x7b' :: body, ?_, ⟨[], body, [], Json.blank_nil, Json.blank_nil, hbody, by simp⟩⟩
  have htrim : Text.trim (before ++ '\x7b' :: (body ++ after)) = '\x7b' :: body := by
    rw [Text.trim, Text.strip_append_left (fun c hc => isBlank_of_json (hbefore c hc)),
      ← List.cons_append]
    exact Text.strip_append (stripped_object hbody) fun c hc => isBlank_of_json (hafter c hc)
  rw [Source.detect, htrim]
  rfl

theorem trim_ne_nil_of_spelled {members : List Member} {text : Text}
    (h : Json.SpelledObject members text) : Text.trim text ≠ [] := by
  obtain ⟨before, body, after, -, -, -, rfl⟩ := h.exists_body
  intro hblank
  have hbrace := Text.trim_eq_nil_iff.mp hblank '\x7b'
    (List.mem_append_right before List.mem_cons_self)
  exact absurd hbrace (by decide)

theorem read_of_describes {members : List Member} {text : Text}
    (h : Json.SpelledObject members text) {p : Pattern} (hp : Describes members p) :
    (Source.detect text).read =
      if (Text.trim p.effect).isEmpty then .error (.badEffect .missing) else .ok (p, []) := by
  obtain ⟨trimmed, hdetect, htrimmed⟩ := detect_spelled h
  simp only [hdetect, Source.read, (ofJson_eq_ok_iff htrimmed).mpr hp]

theorem read_of_not_describes {members : List Member} {text : Text}
    (h : Json.SpelledObject members text) (hnone : ∀ p, ¬ Describes members p) :
    ∃ fault, (Source.detect text).read = .error (.badStructure fault) := by
  obtain ⟨trimmed, hdetect, htrimmed⟩ := detect_spelled h
  cases hread : ofJson trimmed with
  | ok p => exact absurd ((ofJson_eq_ok_iff htrimmed).mp hread) (hnone p)
  | error fault => exact ⟨fault, by simp only [hdetect, Source.read, hread]⟩

theorem describes_of_compile {members : List Member} {text : Text} {c : Compiled}
    (h : Json.SpelledObject members text) (hcompile : compile text = .ok c) :
    Describes members c.pattern := by
  obtain ⟨w, -, hread, -, -⟩ := compile_eq_ok_iff.mp hcompile
  by_cases hsome : ∃ p, Describes members p
  · obtain ⟨p, hp⟩ := hsome
    rw [read_of_describes h hp] at hread
    split at hread
    · cases hread
    · obtain ⟨rfl, -⟩ := Prod.mk.inj (Except.ok.inj hread)
      exact hp
  · obtain ⟨fault, hfault⟩ := read_of_not_describes h (not_exists.mp hsome)
    cases hfault.symm.trans hread

end Pattern

theorem object_describes_pattern (members : List Pattern.Member) :
    (∃ text, Json.SpelledObject members text) ∧
    ∀ text, Json.SpelledObject members text →
      ((∃ p, Pattern.ofJson text = .ok p) ↔
        (Pattern.fieldsOf members).Nodup ∧ Pattern.WellTyped members) ∧
      (∀ p, Pattern.ofJson text = .ok p →
        Pattern.Reads members p ∧
        (Source.detect text).read =
          if (Text.trim p.effect).isEmpty then .error (.badEffect .missing) else .ok (p, [])) ∧
      (∀ members' text', Relation.EqvGen Pattern.Edit members members' →
        Json.SpelledObject members' text' →
        ∀ p, Pattern.ofJson text = .ok p ↔ Pattern.ofJson text' = .ok p) ∧
      (¬ ((Pattern.fieldsOf members).Nodup ∧ Pattern.WellTyped members) →
        ∃ fault, (Source.detect text).read = .error (.badStructure fault) ∧
          compile text = .error (.badStructure fault)) := by
  refine ⟨Json.exists_spelledObject members, ?_⟩
  intro text h
  refine ⟨⟨?_, ?_⟩, ?_, ?_, ?_⟩
  · rintro ⟨p, hp⟩
    have hdescribes := (Pattern.ofJson_eq_ok_iff h).mp hp
    exact ⟨hdescribes.unrepeated, hdescribes.wellTyped⟩
  · rintro ⟨hnodup, htyped⟩
    exact ⟨_, (Pattern.ofJson_eq_ok_iff h).mpr ⟨hnodup, htyped, Pattern.reads_foldl hnodup⟩⟩
  · intro p hp
    have hdescribes := (Pattern.ofJson_eq_ok_iff h).mp hp
    exact ⟨hdescribes.reads, Pattern.read_of_describes h hdescribes⟩
  · intro members' text' hedits h' p
    rw [Pattern.ofJson_eq_ok_iff h, Pattern.ofJson_eq_ok_iff h',
      Pattern.describes_of_edits hedits p]
  · intro hnot
    have hnone (p : Pattern) : ¬ Pattern.Describes members p := fun hp =>
      hnot ⟨hp.unrepeated, hp.wellTyped⟩
    obtain ⟨fault, hread⟩ := Pattern.read_of_not_describes h hnone
    refine ⟨fault, hread, ?_⟩
    simp only [compile, hread]

/-- Two members that say something, in a short text. -/
def bareMembers : List Pattern.Member :=
  [("effect".toList, .string "fire".toList), ("colors".toList, .list [.string "red".toList])]

def bareText : Text := "\x7b\"effect\":\"fire\",\"colors\":[\"red\"]\x7d".toList

/-- A member that is no field, with a real number and an object in it. -/
def strayMember : Pattern.Member :=
  ("x".toList, .list
    [.number { whole := 1, decimals := some ⟨['5'], by decide, by decide⟩,
               power := some ⟨'e', .inl rfl, ['-'], by decide, ['3'], by decide, by decide⟩ },
      .object [("y".toList, .null)]])

/-- The same two, the other way round and among others. -/
def crowdedMembers : List Pattern.Member :=
  [strayMember, ("colors".toList, .list [.string "red".toList]), ("speed".toList, .null),
    ("effect".toList, .string "fire".toList)]

def crowdedText : Text :=
  ("\n\x7b \"x\" : [1.5e-3,\x7b\"y\":null\x7d], \"colors\":[\"r\\u0065d\"],\t\"speed\":null," ++
    "\"effect\":\"fire\" \x7d ").toList

theorem crowded_edits : Relation.EqvGen Pattern.Edit bareMembers crowdedMembers := by
  have hreorder : Pattern.Edit bareMembers bareMembers.reverse :=
    .reorder (List.reverse_perm bareMembers).symm
  have hnull : Pattern.Edit
      ([("colors".toList, .list [.string "red".toList])] ++
        [("effect".toList, .string "fire".toList)])
      ([("colors".toList, .list [.string "red".toList])] ++
        ("speed".toList, .null) :: [("effect".toList, .string "fire".toList)]) :=
    .insertNull (f := .quantity .speed) rfl (by decide)
  have hother : Pattern.Edit ([] ++ crowdedMembers.tail)
      ([] ++ strayMember :: crowdedMembers.tail) :=
    .insertOther rfl
  exact .trans _ _ _ (.rel _ _ hreorder) (.trans _ _ _ (.rel _ _ hnull) (.rel _ _ hother))

theorem bareText_spelled : Json.SpelledObject bareMembers bareText := by
  have hred : Json.Spelled (.value (.string "red".toList)) _ :=
    .string (Json.stringSpelled_self (by decide))
  have hfire : Json.Spelled (.value (.string "fire".toList)) _ :=
    .string (Json.stringSpelled_self (by decide))
  have hcolors : Json.Spelled (.members false [bareMembers.getLast (by decide)]) _ :=
    .member (.next Json.blank_nil Json.blank_nil) (Json.stringSpelled_self (by decide))
      Json.blank_nil Json.blank_nil
      (.list (.item (.first Json.blank_nil) hred (.closeList Json.blank_nil)))
      (.closeObject Json.blank_nil)
  have hmembers : Json.Spelled (.members true bareMembers) _ :=
    .member (.first Json.blank_nil) (Json.stringSpelled_self (by decide)) Json.blank_nil
      Json.blank_nil hfire hcolors
  exact ⟨[], _, [], Json.blank_nil, Json.blank_nil, hmembers, rfl⟩

theorem crowdedText_spelled : Json.SpelledObject crowdedMembers crowdedText := by
  have hspace : Json.Blank [' '] := Json.blank_singleton (by decide)
  have htab : Json.Blank ['\t'] := Json.blank_singleton (by decide)
  have hline : Json.Blank ['\n'] := Json.blank_singleton (by decide)
  -- The letter in the middle is written as an escape.
  have hunit : Json.HexUnit 'e'.toNat ['0', '0', '6', '5'] :=
    show Json.HexUnit (16 * (16 * (16 * 0 + 0) + 6) + 5) _ from .digits rfl rfl rfl rfl
  have hred : Json.Spelled (.value (.string "red".toList)) _ :=
    .string (.cons (.plain (by decide) (by decide) (by decide))
      (.cons (.unit hunit) (.cons (.plain (by decide) (by decide) (by decide)) .nil)))
  have hfire : Json.Spelled (.value (.string "fire".toList)) _ :=
    .string (Json.stringSpelled_self (by decide))
  have hstray : Json.Spelled (.value strayMember.2) _ :=
    .list (.item (.first Json.blank_nil) (.number _)
      (.item (.next Json.blank_nil Json.blank_nil)
        (.object (.member (.first Json.blank_nil) (Json.stringSpelled_self (by decide))
          Json.blank_nil Json.blank_nil .null (.closeObject Json.blank_nil)))
        (.closeList Json.blank_nil)))
  have heffect : Json.Spelled (.members false [("effect".toList, .string "fire".toList)]) _ :=
    .member (.next Json.blank_nil Json.blank_nil) (Json.stringSpelled_self (by decide))
      Json.blank_nil Json.blank_nil hfire (.closeObject hspace)
  have hspeed : Json.Spelled (.members false
      [("speed".toList, .null), ("effect".toList, .string "fire".toList)]) _ :=
    .member (.next Json.blank_nil htab) (Json.stringSpelled_self (by decide)) Json.blank_nil
      Json.blank_nil .null heffect
  have hcolors : Json.Spelled (.members false crowdedMembers.tail) _ :=
    .member (.next Json.blank_nil hspace) (Json.stringSpelled_self (by decide)) Json.blank_nil
      Json.blank_nil (.list (.item (.first Json.blank_nil) hred (.closeList Json.blank_nil))) hspeed
  have hmembers : Json.Spelled (.members true crowdedMembers) _ :=
    .member (.first hspace) (Json.stringSpelled_self (by decide)) hspace hspace hstray hcolors
  exact ⟨['\n'], _, [' '], hline, hspace, hmembers, rfl⟩

/-- A field under both of its names, once as `null`. -/
def twiceNamed : List Pattern.Member :=
  [("name".toList, .null), ("description".toList, .string [])]

theorem object_describes_pattern_crowded :
    Pattern.ofJson crowdedText =
      .ok { effect := "fire".toList, colors := ["red".toList] } ∧
    ∃ text fault, Json.SpelledObject twiceNamed text ∧
      compile text = .error (.badStructure fault) := by
  obtain ⟨-, hbare⟩ := object_describes_pattern bareMembers
  obtain ⟨-, -, hedits, -⟩ := hbare bareText bareText_spelled
  have hread : Pattern.ofJson bareText =
      .ok { effect := "fire".toList, colors := ["red".toList] } := by
    decide
  refine ⟨(hedits crowdedMembers crowdedText crowded_edits crowdedText_spelled _).mp hread, ?_⟩
  obtain ⟨⟨text, htext⟩, htwice⟩ := object_describes_pattern twiceNamed
  obtain ⟨-, -, -, hfails⟩ := htwice text htext
  have hrepeated : ¬ (Pattern.fieldsOf twiceNamed).Nodup := by decide
  obtain ⟨fault, -, hcompile⟩ := hfails fun h => hrepeated h.1
  exact ⟨text, fault, htext, hcompile⟩

end LedPattern
