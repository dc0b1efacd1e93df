import LedPattern.CommandLine.FileTree
import Mathlib.Data.List.Basic
/-!
What writing a file does to a tree. A path is followed through folders only, so every place above
the one that it leads to is on the way to something already, and a new file makes no new folder. A
file that was written is read back under its path, and whatever stands at any other place stands
there as before.
-/
namespace LedPattern
namespace CommandLine
namespace FileTree

variable {tree : FileTree} {place other : Place} {bytes : List UInt8}

theorem look_eq_ok_iff {entry : Entry} :
    tree.look place = .ok entry ↔ hasLongName place = false ∧ tree.find? place = some entry := by
  rw [look]
  cases hasLongName place with
  | true => simp
  | false => cases tree.find? place <;> simp

theorem look_eq_notFound_iff :
    tree.look place = .error .notFound ↔ hasLongName place = false ∧ tree.find? place = none := by
  rw [look]
  cases hasLongName place with
  | true => simp
  | false => cases tree.find? place <;> simp

/-! ## Places on the way -/

theorem isOnTheWay_iff : tree.isOnTheWay place = true ↔
    place <+: tree.location ∨ ∃ entry ∈ tree.entries, place <+: entry.1 := by
  simp only [isOnTheWay, Bool.or_eq_true, List.any_eq_true, List.isPrefixOf_iff_prefix]

/-- Every place above this one is on the way to something. -/
def Open (tree : FileTree) (place : Place) : Prop :=
  ∀ above, above <+: place → above ≠ place → tree.isOnTheWay above = true

theorem isOnTheWay_of_folder (h : tree.look place = .ok .folder) (hother : other <+: place) :
    tree.isOnTheWay other = true := by
  have hfind := (look_eq_ok_iff.mp h).2
  rw [find?] at hfind
  rw [isOnTheWay_iff]
  cases hlookup : tree.entries.lookup place with
  | some entry =>
    obtain ⟨before, after, hentries, -⟩ := List.lookup_eq_some_iff.mp hlookup
    have hmem : (place, entry) ∈ tree.entries := by
      rw [hentries]
      exact List.mem_append_right before List.mem_cons_self
    exact .inr ⟨_, hmem, hother⟩
  | none =>
    have hway : tree.isOnTheWay place = true := by
      by_contra hnot
      simp only [hlookup, if_neg hnot] at hfind
      cases hfind
    rcases isOnTheWay_iff.mp hway with hlocation | ⟨entry, hentry, hmem⟩
    · exact .inl (hother.trans hlocation)
    · exact .inr ⟨entry, hentry, hother.trans hmem⟩

/-- A name is followed from a folder only, and leads to it, above it or just below it. -/
theorem enter_cases {name : Text} {next : Place} (h : tree.enter place name = .ok next) :
    tree.look place = .ok .folder ∧
      (next = place ∨ next = place.dropLast ∨ next = place ++ [name]) := by
  rw [enter] at h
  split at h
  next => cases h
  next hlook =>
    refine ⟨hlook, ?_⟩
    obtain rfl := Except.ok.inj h
    split
    next => exact .inl rfl
    next =>
      split
      next => exact .inr (.inl rfl)
      next => exact .inr (.inr rfl)
  next => cases h

theorem open_enter {name : Text} {next : Place} (h : tree.enter place name = .ok next) :
    tree.Open next := by
  obtain ⟨hlook, hnext⟩ := enter_cases h
  have hup : place.dropLast <+: place := List.dropLast_prefix place
  intro above habove hne
  apply isOnTheWay_of_folder hlook
  rcases hnext with rfl | rfl | rfl
  · exact habove
  · exact habove.trans hup
  · exact (List.prefix_concat_iff.mp habove).resolve_left hne

theorem open_foldlM {names : List Text} {start : Place} (hstart : tree.Open start)
    (h : names.foldlM tree.enter start = .ok place) : tree.Open place := by
  induction names generalizing start with
  | nil =>
    obtain rfl := Except.ok.inj h
    exact hstart
  | cons name rest ih =>
    rw [List.foldlM_cons] at h
    cases henter : tree.enter start name with
    | error e =>
      rw [henter] at h
      cases h
    | ok next =>
      rw [henter] at h
      exact ih (open_enter henter) h

theorem open_follow {path : Text} (h : tree.follow path = .ok place) : tree.Open place := by
  have hroot : tree.Open [] := fun above habove hne => absurd (List.prefix_nil.mp habove) hne
  have hlocation : tree.Open tree.location := fun above habove _ => isOnTheWay_iff.mpr (.inl habove)
  rw [follow] at h
  split at h
  next => cases h
  next =>
    refine open_foldlM ?_ h
    split
    next => exact hroot
    next => exact hlocation

/-! ## One file put -/

theorem lookup_put_ne (hne : other ≠ place) :
    (tree.put place bytes).entries.lookup other = tree.entries.lookup other := by
  have hfilter (entries : List (Place × Entry)) :
      (entries.filter fun entry => entry.1 ≠ place).lookup other = entries.lookup other := by
    induction entries with
    | nil => rfl
    | cons entry rest ih =>
      obtain ⟨spot, what⟩ := entry
      by_cases hplace : spot = place
      · subst hplace
        rw [List.filter_cons_of_neg (by simp), ih, List.lookup_cons, beq_false_of_ne hne]
      · rw [List.filter_cons_of_pos (by simpa using hplace), List.lookup_cons, List.lookup_cons, ih]
  rw [put, List.lookup_cons, beq_false_of_ne hne]
  exact hfilter tree.entries

theorem isOnTheWay_put : (tree.put place bytes).isOnTheWay other = true ↔
    tree.isOnTheWay other = true ∨ other <+: place := by
  rw [isOnTheWay_iff, isOnTheWay_iff]
  simp only [put, List.mem_cons, List.mem_filter, decide_eq_true_eq, exists_eq_or_imp]
  constructor
  · rintro (hlocation | hplace | ⟨entry, ⟨hmem, -⟩, hentry⟩)
    · exact .inl (.inl hlocation)
    · exact .inr hplace
    · exact .inl (.inr ⟨entry, hmem, hentry⟩)
  · rintro ((hlocation | ⟨entry, hmem, hentry⟩) | hplace)
    · exact .inl hlocation
    · by_cases heq : entry.1 = place
      · exact .inr (.inl (heq ▸ hentry))
      · exact .inr (.inr ⟨entry, ⟨hmem, heq⟩, hentry⟩)
    · exact .inr (.inl hplace)

theorem find?_put_ne (hopen : tree.Open place) (hne : other ≠ place) :
    (tree.put place bytes).find? other = tree.find? other := by
  have hway : (tree.put place bytes).isOnTheWay other = tree.isOnTheWay other := by
    rw [Bool.eq_iff_iff, isOnTheWay_put]
    constructor
    · rintro (hway | habove)
      · exact hway
      · exact hopen other habove hne
    · exact .inl
  rw [find?, find?, lookup_put_ne hne, hway]

theorem look_put_ne (hopen : tree.Open place) (hne : other ≠ place) :
    (tree.put place bytes).look other = tree.look other := by
  rw [look, look, find?_put_ne hopen hne]

/-! Where no folder stands, a file can be put without a path leading elsewhere for it. -/

section Put

variable (hopen : tree.Open place) (hfolder : tree.look place ≠ .ok .folder)
include hopen hfolder

theorem enter_put {start next : Place} {name : Text} (h : tree.enter start name = .ok next) :
    (tree.put place bytes).enter start name = .ok next := by
  have hne : start ≠ place := by
    rintro rfl
    exact hfolder (enter_cases h).1
  rw [enter, look_put_ne hopen hne]
  exact h

theorem foldlM_enter_put {names : List Text} {start last : Place}
    (h : names.foldlM tree.enter start = .ok last) :
    names.foldlM (tree.put place bytes).enter start = .ok last := by
  induction names generalizing start with
  | nil => exact h
  | cons name rest ih =>
    rw [List.foldlM_cons] at h ⊢
    cases henter : tree.enter start name with
    | error e =>
      rw [henter] at h
      cases h
    | ok next =>
      rw [henter] at h
      rw [enter_put hopen hfolder henter]
      exact ih h

theorem follow_put {path : Text} {last : Place} (h : tree.follow path = .ok last) :
    (tree.put place bytes).follow path = .ok last := by
  rw [follow] at h ⊢
  split at h
  next => cases h
  next hshort =>
    rw [if_neg hshort]
    exact foldlM_enter_put hopen hfolder h

end Put

/-! ## Writing -/

/-- A file was there or nothing was, and now it has the bytes; or they went into a sink. -/
theorem write_cases {after : FileTree} {path : Text} (h : tree.write path bytes = .ok after) :
    ∃ place, tree.follow path = .ok place ∧ asksFolder path = false ∧ hasLongName place = false ∧
      tree.look place ≠ .ok .folder ∧
      (if tree.find? place = some .sink then after = tree else after = tree.put place bytes) := by
  rw [write] at h
  cases hfollow : tree.follow path with
  | error e =>
    rw [hfollow] at h
    cases h
  | ok place =>
    rw [hfollow] at h
    refine ⟨place, rfl, ?_⟩
    change (if asksFolder path = true then _ else _) = _ at h
    split at h
    next => cases h
    next hasks =>
      refine ⟨by simpa using hasks, ?_⟩
      split at h
      next => cases h
      next old hlook =>
        obtain ⟨hlong, hfind⟩ := look_eq_ok_iff.mp hlook
        rw [hlook, hfind]
        exact ⟨hlong, by simp, by simpa using (Except.ok.inj h).symm⟩
      next hlook =>
        obtain ⟨hlong, hfind⟩ := look_eq_ok_iff.mp hlook
        rw [hlook, hfind]
        exact ⟨hlong, by simp, by simpa using (Except.ok.inj h).symm⟩
      next hlook =>
        obtain ⟨hlong, hfind⟩ := look_eq_notFound_iff.mp hlook
        rw [hlook, hfind]
        exact ⟨hlong, by simp, by simpa using (Except.ok.inj h).symm⟩
      next => cases h

/-- The tree after the bytes went to the path, and nowhere else. A sink keeps nothing. -/
structure Saved (tree : FileTree) (path : Text) (bytes : List UInt8) (after : FileTree) : Prop where
  target : ∃ place, tree.follow path = .ok place ∧
    (if tree.find? place = some .sink then after = tree
      else after.find? place = some (.file bytes) ∧ after.read path = .ok bytes) ∧
    ∀ other, other ≠ place → after.find? other = tree.find? other
  location : after.location = tree.location

theorem saved_of_write {after : FileTree} {path : Text} (h : tree.write path bytes = .ok after) :
    tree.Saved path bytes after := by
  obtain ⟨place, hfollow, hasks, hlong, hfolder, hafter⟩ := write_cases h
  have hopen := open_follow hfollow
  split at hafter
  next hsink =>
    subst hafter
    exact ⟨⟨place, hfollow, by rw [if_pos hsink], fun _ _ => rfl⟩, rfl⟩
  next hsink =>
    subst hafter
    have hread : (tree.put place bytes).read path = .ok bytes := by
      have hlook := look_eq_ok_iff.mpr ⟨hlong, find?_put_self tree place bytes⟩
      simp only [read, follow_put hopen hfolder hfollow, bind, Except.bind, hlook, hasks]
      rfl
    refine ⟨⟨place, hfollow, ?_, fun other hne => find?_put_ne hopen hne⟩, rfl⟩
    rw [if_neg hsink]
    exact ⟨find?_put_self tree place bytes, hread⟩

end FileTree
end CommandLine
end LedPattern
