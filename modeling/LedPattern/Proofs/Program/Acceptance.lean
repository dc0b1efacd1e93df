import LedPattern.Proofs.Program.Image
import Mathlib.Tactic.SplitIfs
/-!
What the decoder accepts. `Program.layout` gives the format byte by byte, and `Requirement` lists
what an image must satisfy, in the order in which it is asked. A program is decoded exactly from its
layout, and an image that is no layout is refused for the first requirement that it violates.

`Image.inspect?` makes the same checks with every byte fetched by its offset, and `Image.Fetches`
does so for the fields of the program. A fetch behind the end of the image would be refused; none
is, whatever the bytes are.
-/
namespace LedPattern

namespace Offset

def flags : Nat := 7

def reserved : Nat := 16

end Offset

namespace Image

def slice? (image : List UInt8) (offset count : Nat) : Option (List UInt8) :=
  if offset + count ≤ image.length then some ((image.drop offset).take count) else none

def color? (image : List UInt8) (offset : Nat) : Option Rgb := do
  let red ← image[offset]?
  let green ← image[offset + 1]?
  let blue ← image[offset + 2]?
  some ⟨red, green, blue⟩

/-- So many colours from an offset on. -/
def colors? (image : List UInt8) : Nat → Nat → Option (List Rgb)
  | _, 0 => some []
  | offset, count + 1 => do
    let c ← color? image offset
    let rest ← colors? image (offset + 3) count
    some (c :: rest)

/-- The byte at an offset, and zero behind the end. -/
def byte (image : List UInt8) (offset : Nat) : UInt8 := image.getD offset 0

/-- The checks of the decoder on an image, every byte fetched by its offset. -/
def inspect? (image : List UInt8) : Option (Except DecodeError (Header × Effect)) :=
  if image.length < minProgramSize then some (.error (.tooShort image.length))
  else do
    let head ← slice? image 0 8
    let (header, _) ← Header.split? head
    if header.magic ≠ Header.expectedMagic then some (.error .badMagic)
    else if header.version ≠ Header.expectedVersion then some (.error (.badVersion header.version))
    else do
      let payload ← from? image Offset.effect
      if header.payloadLength.toNat ≠ payload.length then
        some (.error (.badLength header.payloadLength payload.length))
      else if checksum payload ≠ header.checksum then
        some (.error (.badChecksum header.checksum (checksum payload)))
      else do
        let count ← image[Offset.count]?
        if maxPalette < count.toNat then some (.error (.paletteTooLarge count))
        else do
          let colors ← from? image Offset.palette
          if colors.length ≠ 3 * count.toNat then
            some (.error (.badPaletteLength count (3 * count.toNat) colors.length))
          else do
            let id ← image[Offset.effect]?
            match Effect.ofId? id with
            | none => some (.error (.unknownEffect id))
            | some effect => some (.ok (header, effect))

/-- Every field of the program stands at its offset. -/
structure Fetches (image : List UInt8) (m : Program) : Prop where
  header : (slice? image 0 8).bind Header.split? = some (m.header, [])
  flags : image[Offset.flags]? = some m.flags
  effect : image[Offset.effect]? = some m.effect.id
  brightness : image[Offset.brightness]? = some m.brightness
  speed : image[Offset.speed]? = some m.speed
  params : slice? image Offset.params 4 = some m.params.toList
  direction : (image[Offset.params + 3]?).map (· &&& 1) = some m.direction
  colorMode : image[Offset.colorMode]? = some m.colorMode
  reserved : slice? image Offset.reserved 8 = some m.reserved.toList
  primary : color? image Offset.primary = some m.primary
  secondary : color? image Offset.secondary = some m.secondary
  count : (image[Offset.count]?).map UInt8.toNat = some m.palette.length
  palette : colors? image Offset.palette m.palette.length = some m.palette

end Image

/-! ## The requirements -/

inductive Requirement where
  | size
  | magic
  | version
  | length
  | checksum
  | count
  | palette
  | effect
deriving DecidableEq, Repr

namespace Requirement

/-- The order in which the requirements are asked. -/
def all : List Requirement := [size, magic, version, length, checksum, count, palette, effect]

def Met (b : List UInt8) : Requirement → Prop
  | size => 31 ≤ b.length
  | magic => b.take 3 = [0x4c, 0x43, 0x4c]
  | version => Image.byte b 3 = 4
  | length => 256 * (Image.byte b 4).toNat + (Image.byte b 5).toNat = b.length - 8
  | checksum => (b.drop 8).foldl (· ^^^ ·) 0 = Image.byte b 6
  | count => (Image.byte b 30).toNat ≤ 8
  | palette => b.length - 31 = 3 * (Image.byte b 30).toNat
  | effect => Image.byte b 8 ∈ [1, 2, 4, 5, 7, 8, 9, 10, 11, 12]

instance (b : List UInt8) (r : Requirement) : Decidable (r.Met b) :=
  match r with
  | size => inferInstanceAs (Decidable (_ ≤ _))
  | magic => inferInstanceAs (Decidable (_ = _))
  | version => inferInstanceAs (Decidable (_ = _))
  | length => inferInstanceAs (Decidable (_ = _))
  | checksum => inferInstanceAs (Decidable (_ = _))
  | count => inferInstanceAs (Decidable (_ ≤ _))
  | palette => inferInstanceAs (Decidable (_ = _))
  | effect => inferInstanceAs (Decidable (_ ∈ _))

def error (b : List UInt8) : Requirement → DecodeError
  | size => .tooShort b.length
  | magic => .badMagic
  | version => .badVersion (Image.byte b 3)
  | length =>
    .badLength (UInt16.ofNat (256 * (Image.byte b 4).toNat + (Image.byte b 5).toNat)) (b.length - 8)
  | checksum => .badChecksum (Image.byte b 6) ((b.drop 8).foldl (· ^^^ ·) 0)
  | count => .paletteTooLarge (Image.byte b 30)
  | palette => .badPaletteLength (Image.byte b 30) (3 * (Image.byte b 30).toNat) (b.length - 31)
  | effect => .unknownEffect (Image.byte b 8)

/-- The requirements that are asked before this one. -/
def earlier (r : Requirement) : List Requirement := all.takeWhile (· ≠ r)

structure FirstViolated (b : List UInt8) (r : Requirement) : Prop where
  violated : ¬ r.Met b
  earlier : ∀ s ∈ r.earlier, s.Met b

theorem exists_first {α : Type} [DecidableEq α] {p : α → Prop} {l : List α}
    (h : ∃ a ∈ l, ¬ p a) : ∃ a ∈ l, ¬ p a ∧ ∀ s ∈ l.takeWhile (· ≠ a), p s := by
  induction l with
  | nil =>
    obtain ⟨a, ha, -⟩ := h
    cases ha
  | cons a l ih =>
    by_cases ha : p a
    · have hrest : ∃ b ∈ l, ¬ p b := by
        obtain ⟨b, hb, hnot⟩ := h
        rcases List.mem_cons.mp hb with rfl | hmem
        · exact absurd ha hnot
        · exact ⟨b, hmem, hnot⟩
      obtain ⟨b, hb, hnot, hbefore⟩ := ih hrest
      refine ⟨b, List.mem_cons_of_mem a hb, hnot, ?_⟩
      have hne : a ≠ b := by
        rintro rfl
        exact hnot ha
      intro s hs
      rw [List.takeWhile_cons_of_pos (by simpa using hne)] at hs
      rcases List.mem_cons.mp hs with rfl | hmem
      · exact ha
      · exact hbefore s hmem
    · refine ⟨a, List.mem_cons_self, ha, ?_⟩
      simp

theorem mem_all (r : Requirement) : r ∈ all := by cases r <;> decide

theorem met_or_firstViolated (b : List UInt8) :
    (∀ r : Requirement, r.Met b) ∨ ∃ r, FirstViolated b r := by
  by_cases h : ∀ r : Requirement, r.Met b
  · exact .inl h
  · obtain ⟨r, hr⟩ := not_forall.mp h
    obtain ⟨s, -, hnot, hbefore⟩ := exists_first ⟨r, mem_all r, hr⟩
    exact .inr ⟨s, hnot, hbefore⟩

end Requirement

/-! ## An image taken apart -/

theorem Header.exists_split? {b : List UInt8} (h : 8 ≤ b.length) :
    ∃ header body, split? b = some (header, body) := by
  match b, h with
  | _ :: _ :: _ :: _ :: _ :: _ :: _ :: _ :: body, _ => exact ⟨_, body, rfl⟩

theorem Payload.exists_ofBytes? {b : List UInt8} (h : 23 ≤ b.length) :
    ∃ fields, ofBytes? b = some fields := by
  match b, h with
  | _ :: _ :: _ :: _ :: _ :: _ :: _ :: _ :: _ :: _ :: _ :: _ :: rest, h =>
    have hrest : 11 ≤ rest.length := by
      simp only [List.length_cons] at h
      omega
    match rest, hrest with
    | _ :: _ :: _ :: _ :: _ :: _ :: _ :: _ :: _ :: _ :: _ :: _, _ => exact ⟨_, rfl⟩

/-- An image with room for the fixed fields is a header with a payload, checked or not. -/
theorem exists_fields {b : List UInt8} (h : 31 ≤ b.length) :
    ∃ (header : Header) (fields : Payload), b = header.bytes ++ fields.bytes := by
  obtain ⟨header, body, hsplit⟩ := Header.exists_split? (b := b) (by omega)
  have hb := Header.bytes_append_of_split? hsplit
  have hlength : 8 + body.length = b.length := by
    rw [← hb, List.length_append, Header.length_bytes]
  obtain ⟨fields, hfields⟩ := Payload.exists_ofBytes? (b := body) (by omega)
  exact ⟨header, fields, by rw [Payload.bytes_of_ofBytes? hfields, hb]⟩

section Fields

variable (header : Header) (fields : Payload)

theorem Header.bytes_eq : header.bytes =
    [header.magic[0], header.magic[1], header.magic[2], header.version,
      UInt8.ofNat (header.payloadLength.toNat / 256), UInt8.ofNat header.payloadLength.toNat,
      header.checksum, header.flags] := by
  obtain ⟨⟨⟨magic⟩, hmagic⟩, version, length, sum, flags⟩ := header
  match magic, hmagic with
  | [_, _, _], _ => rfl

theorem Payload.bytes_eq : fields.bytes =
    fields.effect :: fields.brightness :: fields.speed :: fields.params.first ::
      fields.params.second :: fields.params.third :: fields.params.fourth :: fields.colorMode ::
      (fields.reserved.toList ++
        fields.primary.red :: fields.primary.green :: fields.primary.blue ::
        fields.secondary.red :: fields.secondary.green :: fields.secondary.blue :: fields.count ::
        fields.colors) := by
  simp [bytes, Slots.toList, Rgb.bytes]

theorem drop_header (rest : List UInt8) : (header.bytes ++ rest).drop 8 = rest := by
  rw [← header.length_bytes, List.drop_left]

theorem drop_payload : fields.bytes.drop 23 = fields.colors := by
  rw [Payload.bytes]
  exact List.drop_left' (by simp [Slots.toList, Rgb.bytes])

theorem getElem?_header (rest : List UInt8) (i : Nat) :
    (header.bytes ++ rest)[8 + i]? = rest[i]? := by
  rw [List.getElem?_append_right (by rw [header.length_bytes]; omega), header.length_bytes]
  congr 1
  omega

theorem getElem?_reserved (i : Nat) : fields.bytes[16 + i]? =
    (fields.primary.red :: fields.primary.green :: fields.primary.blue :: fields.secondary.red ::
      fields.secondary.green :: fields.secondary.blue :: fields.count :: fields.colors)[i]? := by
  have hlength : fields.reserved.toList.length = 8 := by simp
  rw [Payload.bytes_eq, show 16 + i = 8 + i + 8 by omega]
  simp only [List.getElem?_cons_succ]
  rw [List.getElem?_append_right (by omega), hlength]
  congr 1
  omega

/-- The bytes that the requirements speak of. -/
structure Image.Parts (b : List UInt8) : Prop where
  split : Header.split? b = some (header, fields.bytes)
  size : 31 ≤ b.length
  magic : b.take 3 = header.magic.toList
  version : byte b 3 = header.version
  length : 256 * (byte b 4).toNat + (byte b 5).toNat = header.payloadLength.toNat
  sum : byte b 6 = header.checksum
  drop : b.drop 8 = fields.bytes
  rest : b.length - 8 = fields.bytes.length
  effect : byte b 8 = fields.effect
  count : byte b 30 = fields.count
  colors : b.length - 31 = fields.colors.length

theorem Image.parts_append : Parts header fields (header.bytes ++ fields.bytes) where
  split := Header.split?_bytes_append header fields.bytes
  size := by
    rw [List.length_append, Header.length_bytes, Payload.length_bytes]
    omega
  magic := by
    rw [List.take_append_of_le_length (by rw [Header.length_bytes]; omega)]
    obtain ⟨⟨⟨magic⟩, hmagic⟩, version, length, sum, flags⟩ := header
    match magic, hmagic with
    | [_, _, _], _ => rfl
  version := by
    rw [Header.bytes_eq]
    rfl
  length := by
    have hlt := header.payloadLength.toNat_lt
    rw [Header.bytes_eq]
    show 256 * (UInt8.ofNat (header.payloadLength.toNat / 256)).toNat +
      (UInt8.ofNat header.payloadLength.toNat).toNat = header.payloadLength.toNat
    rw [UInt8.toNat_ofNat', UInt8.toNat_ofNat']
    omega
  sum := by
    rw [Header.bytes_eq]
    rfl
  drop := drop_header header fields.bytes
  rest := by
    rw [List.length_append, Header.length_bytes]
    omega
  effect := by
    rw [byte, List.getD_eq_getElem?_getD, getElem?_header header fields.bytes 0, Payload.bytes_eq]
    rfl
  count := by
    rw [byte, List.getD_eq_getElem?_getD, getElem?_header header fields.bytes (16 + 6),
      getElem?_reserved]
    rfl
  colors := by
    rw [List.length_append, Header.length_bytes, Payload.length_bytes]
    omega

variable {header fields} {b : List UInt8}

theorem mem_ids_iff {id : UInt8} :
    id ∈ [1, 2, 4, 5, 7, 8, 9, 10, 11, 12] ↔ ∃ effect, Effect.ofId? id = some effect := by
  rw [show [1, 2, 4, 5, 7, 8, 9, 10, 11, 12] = Effect.all.map Effect.id from rfl, List.mem_map]
  constructor
  · rintro ⟨effect, -, rfl⟩
    exact ⟨effect, Effect.ofId?_id effect⟩
  · rintro ⟨effect, heffect⟩
    exact ⟨effect, by cases effect <;> decide, Effect.id_of_ofId? heffect⟩

/-- What a requirement asks of the fields. -/
def Requirement.Asks (header : Header) (fields : Payload) : Requirement → Prop
  | size => True
  | magic => header.magic = Header.expectedMagic
  | version => header.version = Header.expectedVersion
  | length => header.payloadLength.toNat = fields.bytes.length
  | checksum => LedPattern.checksum fields.bytes = header.checksum
  | count => ¬ maxPalette < fields.count.toNat
  | palette => fields.colors.length = 3 * fields.count.toNat
  | effect => ∃ effect, Effect.ofId? fields.effect = some effect

theorem Image.Parts.met_iff (h : Parts header fields b) (r : Requirement) :
    r.Met b ↔ r.Asks header fields := by
  cases r with
  | size => exact iff_of_true h.size trivial
  | magic =>
    show b.take 3 = Header.expectedMagic.toList ↔ _
    rw [h.magic, Vector.toList_inj]
    rfl
  | version =>
    show byte b 3 = 4 ↔ _
    rw [h.version]
    rfl
  | length =>
    show 256 * (byte b 4).toNat + (byte b 5).toNat = b.length - 8 ↔ _
    rw [h.length, h.rest]
    rfl
  | checksum =>
    show LedPattern.checksum (b.drop 8) = byte b 6 ↔ _
    rw [h.drop, h.sum]
    rfl
  | count =>
    show (byte b 30).toNat ≤ maxPalette ↔ ¬ maxPalette < fields.count.toNat
    rw [h.count]
    omega
  | palette =>
    show b.length - 31 = 3 * (byte b 30).toNat ↔ _
    rw [h.colors, h.count]
    rfl
  | effect =>
    show byte b 8 ∈ [1, 2, 4, 5, 7, 8, 9, 10, 11, 12] ↔ _
    rw [h.effect]
    exact mem_ids_iff

theorem Program.decode_tooShort (h : b.length < 31) : decode b = .error (.tooShort b.length) := by
  unfold decode
  split
  · rfl
  · rename_i header body hsplit
    have hb := Header.bytes_append_of_split? hsplit
    have hlength : 8 + body.length = b.length := by
      rw [← hb, List.length_append, Header.length_bytes]
    split
    · rfl
    · rename_i fields hfields
      have hbody : fields.bytes.length = body.length := by
        rw [Payload.bytes_of_ofBytes? hfields]
      rw [Payload.length_bytes] at hbody
      omega

/-- An image is refused for the first requirement that it violates. -/
theorem Program.decode_of_firstViolated {r : Requirement} (h : r.FirstViolated b) :
    decode b = .error (r.error b) := by
  by_cases hsize : 31 ≤ b.length
  · obtain ⟨header, fields, rfl⟩ := exists_fields hsize
    have hparts := Image.parts_append header fields
    have hviolated := (not_congr (hparts.met_iff r)).mp h.violated
    have hasked (s : Requirement) (hs : s ∈ r.earlier) : s.Asks header fields :=
      (hparts.met_iff s).mp (h.earlier s hs)
    -- The branches of the decoder that are passed, each once its requirement has been asked.
    have hmagic (hs : .magic ∈ r.earlier) : ¬ header.magic ≠ Header.expectedMagic :=
      not_not.mpr (hasked .magic hs)
    have hversion (hs : .version ∈ r.earlier) : ¬ header.version ≠ Header.expectedVersion :=
      not_not.mpr (hasked .version hs)
    have hlength (hs : .length ∈ r.earlier) :
        ¬ header.payloadLength.toNat ≠ fields.bytes.length := not_not.mpr (hasked .length hs)
    have hsum (hs : .checksum ∈ r.earlier) : ¬ checksum fields.bytes ≠ header.checksum :=
      not_not.mpr (hasked .checksum hs)
    have hcount (hs : .count ∈ r.earlier) : ¬ maxPalette < fields.count.toNat := hasked .count hs
    have hcolors (hs : .palette ∈ r.earlier) :
        ¬ fields.colors.length ≠ 3 * fields.count.toNat := not_not.mpr (hasked .palette hs)
    unfold decode
    rw [hparts.split]
    simp only [Payload.ofBytes?_bytes]
    cases r with
    | size => exact absurd trivial hviolated
    | magic =>
      have hnot : header.magic ≠ Header.expectedMagic := hviolated
      rw [if_pos hnot, Requirement.error]
    | version =>
      have hnot : header.version ≠ Header.expectedVersion := hviolated
      rw [if_neg (hmagic (by decide)), if_pos hnot, Requirement.error, hparts.version]
    | length =>
      have hnot : header.payloadLength.toNat ≠ fields.bytes.length := hviolated
      rw [if_neg (hmagic (by decide)), if_neg (hversion (by decide)), if_pos hnot,
        Requirement.error, hparts.length, hparts.rest, UInt16.ofNat_toNat]
    | checksum =>
      have hnot : checksum fields.bytes ≠ header.checksum := hviolated
      rw [if_neg (hmagic (by decide)), if_neg (hversion (by decide)),
        if_neg (hlength (by decide)), if_pos hnot, Requirement.error, hparts.sum, hparts.drop]
      rfl
    | count =>
      have hnot : maxPalette < fields.count.toNat := not_not.mp hviolated
      rw [if_neg (hmagic (by decide)), if_neg (hversion (by decide)),
        if_neg (hlength (by decide)), if_neg (hsum (by decide)), dif_pos hnot, Requirement.error,
        hparts.count]
    | palette =>
      have hnot : fields.colors.length ≠ 3 * fields.count.toNat := hviolated
      rw [if_neg (hmagic (by decide)), if_neg (hversion (by decide)),
        if_neg (hlength (by decide)), if_neg (hsum (by decide)), dif_neg (hcount (by decide)),
        dif_pos hnot, Requirement.error, hparts.count, hparts.colors]
    | effect =>
      have hnot : ¬ ∃ effect, Effect.ofId? fields.effect = some effect := hviolated
      rw [if_neg (hmagic (by decide)), if_neg (hversion (by decide)),
        if_neg (hlength (by decide)), if_neg (hsum (by decide)), dif_neg (hcount (by decide)),
        dif_neg (hcolors (by decide)), Requirement.error, hparts.effect]
      split
      · rfl
      · rename_i effect heffect
        exact absurd ⟨effect, heffect⟩ hnot
  · cases r with
    | size => exact decode_tooShort (Nat.lt_of_not_le hsize)
    | _ => exact absurd (h.earlier .size (by decide)) hsize

/-- An image that violates nothing is a program. -/
theorem Program.exists_decode_of_met (h : ∀ r : Requirement, r.Met b) :
    ∃ m, decode b = .ok m := by
  obtain ⟨header, fields, rfl⟩ := exists_fields (h .size)
  have hparts := Image.parts_append header fields
  have hasked (r : Requirement) : r.Asks header fields := (hparts.met_iff r).mp (h r)
  have hmagic : ¬ header.magic ≠ Header.expectedMagic := not_not.mpr (hasked .magic)
  have hversion : ¬ header.version ≠ Header.expectedVersion := not_not.mpr (hasked .version)
  have hlength : ¬ header.payloadLength.toNat ≠ fields.bytes.length :=
    not_not.mpr (hasked .length)
  have hsum : ¬ checksum fields.bytes ≠ header.checksum := not_not.mpr (hasked .checksum)
  have hcount : ¬ maxPalette < fields.count.toNat := hasked .count
  have hcolors : ¬ fields.colors.length ≠ 3 * fields.count.toNat := not_not.mpr (hasked .palette)
  obtain ⟨effect, heffect⟩ : ∃ effect, Effect.ofId? fields.effect = some effect := hasked .effect
  unfold decode
  rw [hparts.split]
  simp only [Payload.ofBytes?_bytes, heffect]
  rw [if_neg hmagic, if_neg hversion, if_neg hlength, if_neg hsum, dif_neg hcount,
    dif_neg hcolors]
  exact ⟨_, rfl⟩

theorem Program.met_of_decode {m : Program} (h : decode b = .ok m) (r : Requirement) : r.Met b := by
  rcases Requirement.met_or_firstViolated b with hmet | ⟨s, hs⟩
  · exact hmet r
  · rw [decode_of_firstViolated hs] at h
    cases h

theorem Program.decode_eq_error_iff {e : DecodeError} :
    decode b = .error e ↔ ∃ r, Requirement.FirstViolated b r ∧ e = r.error b := by
  constructor
  · intro h
    rcases Requirement.met_or_firstViolated b with hmet | ⟨r, hr⟩
    · obtain ⟨m, hm⟩ := exists_decode_of_met hmet
      rw [hm] at h
      cases h
    · rw [decode_of_firstViolated hr] at h
      cases h
      exact ⟨r, hr, rfl⟩
  · rintro ⟨r, hr, rfl⟩
    exact decode_of_firstViolated hr

theorem Image.slice?_append (before middle after : List UInt8) {offset count : Nat}
    (hoffset : before.length = offset) (hcount : middle.length = count) :
    slice? (before ++ (middle ++ after)) offset count = some middle := by
  have hroom : offset + count ≤ (before ++ (middle ++ after)).length := by
    rw [List.length_append, List.length_append]
    omega
  rw [slice?, if_pos hroom, ← hoffset, ← hcount, List.drop_left, List.take_left]

/-- No fetch of the checks lies outside the image, and they come to what decoding comes to. -/
theorem Image.inspect?_eq (b : List UInt8) :
    inspect? b = some ((Program.decode b).map fun m => (m.header, m.effect)) := by
  by_cases hsize : b.length < minProgramSize
  · rw [inspect?, if_pos hsize, Program.decode_tooShort hsize]
    rfl
  obtain ⟨header, fields, rfl⟩ := exists_fields (Nat.le_of_not_lt hsize)
  have hparts := Image.parts_append header fields
  have hhead : slice? (header.bytes ++ fields.bytes) 0 8 = some header.bytes :=
    slice?_append [] header.bytes fields.bytes rfl header.length_bytes
  have hsplit : Header.split? header.bytes = some (header, []) := by
    simpa using Header.split?_bytes_append header []
  have hpayload : from? (header.bytes ++ fields.bytes) Offset.effect = some fields.bytes := by
    have h := from?_append header.bytes fields.bytes
    rwa [Header.length_bytes] at h
  have hcount : (header.bytes ++ fields.bytes)[Offset.count]? = some fields.count := by
    rw [show Offset.count = 8 + (16 + 6) from rfl, getElem?_header, getElem?_reserved]
    rfl
  have hcolors : from? (header.bytes ++ fields.bytes) Offset.palette = some fields.colors := by
    have hroom : Offset.palette ≤ (header.bytes ++ fields.bytes).length := hparts.size
    rw [from?, if_pos hroom, show Offset.palette = 8 + 23 from rfl, ← List.drop_drop, drop_header,
      drop_payload]
  have heffect : (header.bytes ++ fields.bytes)[Offset.effect]? = some fields.effect := by
    rw [show Offset.effect = 8 + 0 from rfl, getElem?_header, Payload.bytes_eq]
    rfl
  -- Whatever is decoded has the header that was fetched.
  have hheader {m : Program} (hm : Program.decode (header.bytes ++ fields.bytes) = .ok m) :
      m.header = header := by
    have hsame := Header.split?_bytes_append m.header m.payload.bytes
    rw [show m.header.bytes ++ m.payload.bytes = _ from Program.bytes_of_decode hm,
      hparts.split] at hsame
    exact (Prod.mk.inj (Option.some.inj hsame)).1.symm
  rw [inspect?, if_neg hsize]
  simp only [hhead, hsplit, hpayload, hcount, hcolors, heffect, bind, Option.bind_some]
  generalize hresult : Program.decode (header.bytes ++ fields.bytes) = result at hheader ⊢
  unfold Program.decode at hresult
  rw [hparts.split] at hresult
  simp only [Payload.ofBytes?_bytes] at hresult
  -- Both sides ask the same questions in the same order.
  split_ifs at hresult ⊢ with hmagic hversion hlength hsum hcount hcolors
  case neg =>
    cases hid : Effect.ofId? fields.effect with
    | none =>
      simp only [hid] at hresult
      subst hresult
      rfl
    | some effect =>
      simp only [hid] at hresult
      subst hresult
      rw [← hheader rfl]
      rfl
  all_goals
    subst hresult
    rfl

end Fields

/-! ## Programs in their layout -/

namespace Program

/-- The format, byte by byte. -/
def layout (m : Program) : List UInt8 :=
  let payload :=
    [m.effect.id, m.brightness, m.speed, m.params.first, m.params.second, m.params.third,
      m.params.fourth, m.colorMode] ++ m.reserved.toList ++
      [m.primary.red, m.primary.green, m.primary.blue, m.secondary.red, m.secondary.green,
        m.secondary.blue, UInt8.ofNat m.palette.length] ++
      m.palette.flatMap fun c => [c.red, c.green, c.blue]
  [0x4c, 0x43, 0x4c, 4, UInt8.ofNat (payload.length / 256), UInt8.ofNat (payload.length % 256),
    payload.foldl (· ^^^ ·) 0, m.flags] ++ payload

theorem layout_eq (m : Program) : m.layout = m.bytes := by
  have hhigh (n : Nat) : UInt8.ofNat ((UInt16.ofNat n).toNat / 256) = UInt8.ofNat (n / 256) := by
    apply UInt8.toNat_inj.mp
    rw [UInt8.toNat_ofNat', UInt8.toNat_ofNat', UInt16.toNat_ofNat']
    omega
  have hlow (n : Nat) : UInt8.ofNat (UInt16.ofNat n).toNat = UInt8.ofNat (n % 256) := by
    apply UInt8.toNat_inj.mp
    rw [UInt8.toNat_ofNat', UInt8.toNat_ofNat', UInt16.toNat_ofNat']
    omega
  have hpayload : m.payload.bytes =
      [m.effect.id, m.brightness, m.speed, m.params.first, m.params.second, m.params.third,
        m.params.fourth, m.colorMode] ++ m.reserved.toList ++
        [m.primary.red, m.primary.green, m.primary.blue, m.secondary.red, m.secondary.green,
          m.secondary.blue, UInt8.ofNat m.palette.length] ++
        m.palette.flatMap fun c => [c.red, c.green, c.blue] := by
    rw [Payload.bytes_eq, List.append_assoc, List.append_assoc]
    rfl
  rw [layout, ← hpayload, bytes, Header.bytes_eq, ← hhigh, ← hlow]
  rfl

end Program

namespace Image

theorem color?_append (before after : List UInt8) (c : Rgb) {offset : Nat}
    (hoffset : before.length = offset) :
    color? (before ++ (c.bytes ++ after)) offset = some c := by
  subst hoffset
  have hget (i : Nat) (hi : i < 3) :
      (before ++ (c.bytes ++ after))[before.length + i]? = c.bytes[i]? := by
    rw [List.getElem?_append_right (by omega), Nat.add_sub_cancel_left,
      List.getElem?_append_left (by simpa [Rgb.bytes] using hi)]
  rw [color?, show before.length = before.length + 0 from rfl, hget 0 (by omega), hget 1 (by omega),
    hget 2 (by omega)]
  rfl

theorem colors?_append (before : List UInt8) (palette : List Rgb) {offset : Nat}
    (hoffset : before.length = offset) :
    colors? (before ++ palette.flatMap Rgb.bytes) offset palette.length = some palette := by
  induction palette generalizing before offset with
  | nil => rfl
  | cons c palette ih =>
    have hlength : (before ++ c.bytes).length = offset + 3 := by
      rw [List.length_append, hoffset]
      rfl
    have hrest := ih (before ++ c.bytes) hlength
    rw [List.append_assoc] at hrest
    rw [List.flatMap_cons, List.length_cons, colors?, color?_append before _ c hoffset]
    simp only [bind, Option.bind_some, hrest]

/-- The image cut before the reserved bytes and before every colour after them. -/
theorem bytes_split (m : Program) :
    ∃ core count : List UInt8, core.length = 8 ∧ count.length = 1 ∧
      m.bytes = m.header.bytes ++ core ++ (m.reserved.toList ++ (m.primary.bytes ++
        (m.secondary.bytes ++ (count ++ m.palette.flatMap Rgb.bytes)))) := by
  refine ⟨[m.effect.id, m.brightness, m.speed] ++ m.params.toList ++ [m.colorMode],
    [m.payload.count], rfl, rfl, ?_⟩
  simp only [Program.bytes, Payload.bytes, Program.payload, List.append_assoc]

theorem getElem?_bytes (m : Program) (i : Nat) : m.bytes[8 + i]? = m.payload.bytes[i]? :=
  getElem?_header m.header m.payload.bytes i

theorem fetches_bytes (m : Program) : Fetches m.bytes m where
  header := by
    have hhead : slice? m.bytes 0 8 = some m.header.bytes :=
      slice?_append [] m.header.bytes m.payload.bytes rfl m.header.length_bytes
    rw [hhead, Option.bind_some]
    simpa using Header.split?_bytes_append m.header []
  flags := by
    rw [Program.bytes, Header.bytes_eq]
    rfl
  effect := by
    rw [show Offset.effect = 8 + 0 from rfl, getElem?_bytes, Payload.bytes_eq]
    rfl
  brightness := by
    rw [show Offset.brightness = 8 + 1 from rfl, getElem?_bytes, Payload.bytes_eq]
    rfl
  speed := by
    rw [show Offset.speed = 8 + 2 from rfl, getElem?_bytes, Payload.bytes_eq]
    rfl
  params := by
    have hbytes : m.bytes = m.header.bytes ++ [m.effect.id, m.brightness, m.speed] ++
        (m.params.toList ++ m.payload.bytes.drop 7) := by
      rw [List.append_assoc, Program.bytes, Payload.bytes_eq]
      rfl
    rw [hbytes]
    exact slice?_append _ _ _ (by rw [List.length_append, Header.length_bytes]; rfl) rfl
  direction := by
    rw [show Offset.params + 3 = 8 + 6 from rfl, getElem?_bytes, Payload.bytes_eq]
    rfl
  colorMode := by
    rw [show Offset.colorMode = 8 + 7 from rfl, getElem?_bytes, Payload.bytes_eq]
    rfl
  reserved := by
    obtain ⟨core, count, hcore, -, hbytes⟩ := bytes_split m
    rw [hbytes]
    exact slice?_append _ _ _ (by rw [List.length_append, Header.length_bytes, hcore]; rfl)
      m.reserved.length_toList
  primary := by
    obtain ⟨core, count, hcore, -, hbytes⟩ := bytes_split m
    rw [hbytes, ← List.append_assoc]
    apply color?_append
    rw [List.length_append, List.length_append, Header.length_bytes, hcore, Vector.length_toList]
    rfl
  secondary := by
    obtain ⟨core, count, hcore, -, hbytes⟩ := bytes_split m
    rw [hbytes, ← List.append_assoc, ← List.append_assoc]
    apply color?_append
    rw [List.length_append, List.length_append, List.length_append, Header.length_bytes, hcore,
      Vector.length_toList]
    rfl
  count := by
    rw [show Offset.count = 8 + (16 + 6) from rfl, getElem?_bytes, getElem?_reserved]
    exact congrArg some m.count_toNat
  palette := by
    obtain ⟨core, count, hcore, hcount, hbytes⟩ := bytes_split m
    rw [hbytes, ← List.append_assoc, ← List.append_assoc, ← List.append_assoc, ← List.append_assoc]
    apply colors?_append
    rw [List.length_append, List.length_append, List.length_append, List.length_append,
      List.length_append, Header.length_bytes, hcore, hcount, Vector.length_toList]
    rfl

end Image

theorem decode_exact (b : List UInt8) :
    (∀ m : Program, Program.decode b = .ok m ↔ b = m.layout) ∧
    (∀ m : Program, Program.decode b = .ok m → Image.Fetches b m) ∧
    (∀ e : DecodeError, Program.decode b = .error e ↔
      ∃ r : Requirement, Requirement.FirstViolated b r ∧ e = r.error b) ∧
    Image.inspect? b = some ((Program.decode b).map fun m => (m.header, m.effect)) := by
  refine ⟨fun m => ?_, fun m hm => ?_, fun e => Program.decode_eq_error_iff, Image.inspect?_eq b⟩
  · rw [Program.layout_eq, Program.decode_eq_ok_iff, eq_comm]
  · rw [← Program.bytes_of_decode hm]
    exact Image.fetches_bytes m

/-- A scanner with flags and reserved bytes that no pattern leads to. -/
def flagged : Program where
  flags := 165
  effect := .scanner
  brightness := 0
  speed := 255
  params := ⟨7, 0, 9, 130⟩
  colorMode := 3
  reserved := #v[1, 2, 3, 4, 5, 6, 7, 8]
  primary := ⟨1, 2, 3⟩
  secondary := ⟨250, 251, 252⟩
  palette := [⟨10, 20, 30⟩, ⟨40, 50, 60⟩]
  palette_le := by decide

/-- The same image in another version and with an effect that there is not: the version is asked
first. -/
def outdated : List UInt8 := (flagged.layout.set 3 3).set 8 0

theorem decode_exact_flagged :
    Program.decode flagged.layout = .ok flagged ∧ Image.Fetches flagged.layout flagged ∧
      Requirement.FirstViolated outdated .version ∧
      Program.decode outdated = .error (.badVersion 3) := by
  have hdecode : Program.decode flagged.layout = .ok flagged :=
    ((decode_exact flagged.layout).1 flagged).mpr rfl
  have hfirst : Requirement.FirstViolated outdated .version := by
    refine ⟨by decide, fun s hs => ?_⟩
    have hcases : s = .size ∨ s = .magic := by
      simpa [Requirement.earlier, Requirement.all] using hs
    rcases hcases with rfl | rfl <;> decide
  exact ⟨hdecode, (decode_exact flagged.layout).2.1 flagged hdecode, hfirst,
    ((decode_exact outdated).2.2.1 _).mpr ⟨.version, hfirst, by decide⟩⟩

end LedPattern
