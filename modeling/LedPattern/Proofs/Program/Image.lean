import LedPattern.Pattern.Encode
import LedPattern.Proofs.Program.Layout
/-!
A program put together in place: an image of zeros, into which every field is written at its own offset
and the header last of all, once its checksum is known. A write that would leave the image is refused.

`assemble?_eq` says that for every pattern no write is refused, and that the image is the layout of the
pattern's program. The offsets are given field by field, as devices know them; that each field begins
where the one before it ends is what the proof finds out.
-/
namespace LedPattern
namespace Image

/-- Overwrites the bytes from an offset on; refused unless all of them lie in the image. -/
def put? (image : List UInt8) (offset : Nat) (field : List UInt8) : Option (List UInt8) :=
  if offset + field.length ≤ image.length then
    some (image.take offset ++ field ++ image.drop (offset + field.length))
  else none

def putAll? : List UInt8 → List (Nat × List UInt8) → Option (List UInt8)
  | image, [] => some image
  | image, (offset, field) :: rest => (put? image offset field).bind fun image => putAll? image rest

/-- The bytes from an offset to the end; refused if the offset lies behind it. -/
def from? (image : List UInt8) (offset : Nat) : Option (List UInt8) :=
  if offset ≤ image.length then some (image.drop offset) else none

/-- Writes of which each begins where the one before it ends. -/
def consecutive : Nat → List (List UInt8) → List (Nat × List UInt8)
  | _, [] => []
  | offset, field :: rest => (offset, field) :: consecutive (offset + field.length) rest

theorem put?_append (before after : List UInt8) {old field : List UInt8}
    (h : old.length = field.length) :
    put? (before ++ old ++ after) before.length field = some (before ++ field ++ after) := by
  have hroom : before.length + field.length ≤ (before ++ old ++ after).length := by
    simp only [List.length_append]
    omega
  have htake : (before ++ old ++ after).take before.length = before := by
    rw [List.append_assoc, List.take_left]
  have hdrop : (before ++ old ++ after).drop (before.length + field.length) = after := by
    rw [← h, ← List.length_append, List.drop_left]
  rw [put?, if_pos hroom, htake, hdrop]

theorem from?_append (before after : List UInt8) :
    from? (before ++ after) before.length = some after := by
  have h : before.length ≤ (before ++ after).length := by simp
  rw [from?, if_pos h, List.drop_left]

theorem putAll?_consecutive (before after : List UInt8) {old : List UInt8}
    {fields : List (List UInt8)} (h : old.length = fields.flatten.length) :
    putAll? (before ++ old ++ after) (consecutive before.length fields) =
      some (before ++ fields.flatten ++ after) := by
  induction fields generalizing before old with
  | nil =>
    have hold : old = [] := by simpa using h
    simp [consecutive, putAll?, hold]
  | cons field rest ih =>
    have hlength : old.length = field.length + rest.flatten.length := by simpa using h
    -- The first field goes over the first bytes, and the others find the rest untouched.
    have hfirst : (old.take field.length).length = field.length := by
      rw [List.length_take]
      omega
    have hrest : (old.drop field.length).length = rest.flatten.length := by
      rw [List.length_drop]
      omega
    have himage : before ++ old ++ after =
        before ++ old.take field.length ++ (old.drop field.length ++ after) := by
      rw [List.append_assoc before (old.take _), ← List.append_assoc (old.take _),
        List.take_append_drop, List.append_assoc]
    have hnext := ih (before ++ field) hrest
    simp only [List.length_append, List.append_assoc] at hnext
    rw [consecutive, putAll?, himage, put?_append _ _ hfirst, Option.bind_some, List.append_assoc,
      hnext]
    simp [List.append_assoc]

theorem consecutive_append (offset : Nat) (a b : List (List UInt8)) :
    consecutive offset (a ++ b) =
      consecutive offset a ++ consecutive (offset + a.flatten.length) b := by
  induction a generalizing offset with
  | nil => simp [consecutive]
  | cons field rest ih =>
    simp only [List.cons_append, consecutive, ih, List.flatten_cons, List.length_append,
      Nat.add_assoc]

end Image

/- Where the fields of a program stand, counted from its first byte. -/
namespace Offset

def effect : Nat := 8

def brightness : Nat := 9

def speed : Nat := 10

def params : Nat := 11

def colorMode : Nat := 15

def primary : Nat := 24

def secondary : Nat := 27

def count : Nat := 30

def palette : Nat := 31

end Offset

namespace Pattern

def coreWrites (p : Pattern) (effect : Effect) : List (Nat × List UInt8) :=
  [(Offset.effect, [effect.id]),
    (Offset.brightness, [level p.brightness defaultBrightness]),
    (Offset.speed, [level p.speed defaultSpeed]),
    (Offset.params, (p.params effect).toList),
    (Offset.colorMode, [0])]

def paletteWrites (palette : List Rgb) : List (Nat × List UInt8) :=
  palette.zipIdx.map fun (c, i) => (Offset.palette + 3 * i, c.bytes)

def colorWrites (primary secondary : Rgb) (palette : List Rgb) : List (Nat × List UInt8) :=
  [(Offset.primary, primary.bytes),
    (Offset.secondary, secondary.bytes),
    (Offset.count, [UInt8.ofNat palette.length])] ++ paletteWrites palette

/-- The program of a pattern under an effect, written field by field. The reserved bytes are not
written: they stay zero. -/
def assemble? (p : Pattern) (effect : Effect) : Option (List UInt8) := do
  let palette := paletteColors p.colors
  let primary ← palette[0]?
  let blank := List.replicate (minProgramSize + 3 * palette.length) 0
  let core ← Image.putAll? blank (p.coreWrites effect)
  let image ← Image.putAll? core (colorWrites primary p.secondaryColor palette)
  let payload ← Image.from? image Offset.effect
  Image.put? image 0 (Header.forPayload payload).bytes

theorem paletteColors_ne_nil (colors : List Text) : paletteColors colors ≠ [] := by
  rw [paletteColors]
  cases colors with
  | nil => simp
  | cons token rest => simp [maxPalette]

/-- A palette has a first colour, so the one that would stand in for it is never used. -/
theorem head?_paletteColors (colors : List Text) :
    (paletteColors colors).head? = some ((paletteColors colors).headD .white) := by
  cases h : paletteColors colors with
  | nil => exact absurd h (paletteColors_ne_nil colors)
  | cons c rest => rfl

theorem paletteWrites_eq (palette : List Rgb) :
    paletteWrites palette = Image.consecutive Offset.palette (palette.map Rgb.bytes) := by
  have main : ∀ (palette : List Rgb) (i : Nat),
      ((palette.zipIdx i).map fun (c, i) => (Offset.palette + 3 * i, c.bytes)) =
        Image.consecutive (Offset.palette + 3 * i) (palette.map Rgb.bytes) := by
    intro palette
    induction palette with
    | nil => intro i; rfl
    | cons c rest ih =>
      intro i
      have hnext : Offset.palette + 3 * i + c.bytes.length = Offset.palette + 3 * (i + 1) := by
        simp only [Rgb.bytes, List.length_cons, List.length_nil]
        omega
      simp only [List.zipIdx_cons, List.map_cons, Image.consecutive, ih, hnext]
  exact main palette 0

def coreFields (p : Pattern) (effect : Effect) : List (List UInt8) :=
  [[effect.id], [level p.brightness defaultBrightness], [level p.speed defaultSpeed],
    (p.params effect).toList, [0]]

def colorFields (primary secondary : Rgb) (palette : List Rgb) : List (List UInt8) :=
  [primary.bytes, secondary.bytes, [UInt8.ofNat palette.length]] ++ palette.map Rgb.bytes

theorem coreWrites_eq (p : Pattern) (effect : Effect) :
    p.coreWrites effect = Image.consecutive Offset.effect (p.coreFields effect) := rfl

theorem colorWrites_eq (primary secondary : Rgb) (palette : List Rgb) :
    colorWrites primary secondary palette =
      Image.consecutive Offset.primary (colorFields primary secondary palette) := by
  rw [colorFields, Image.consecutive_append, colorWrites, paletteWrites_eq]
  rfl

theorem length_flatten_colorFields (primary secondary : Rgb) (palette : List Rgb) :
    (colorFields primary secondary palette).flatten.length = 7 + 3 * palette.length := by
  have hpalette : (palette.map Rgb.bytes).flatten.length = 3 * palette.length := by
    induction palette with
    | nil => rfl
    | cons c rest ih =>
      simp only [List.map_cons, List.flatten_cons, List.length_append, ih, Rgb.bytes,
        List.length_cons, List.length_nil]
      omega
  rw [colorFields, List.flatten_append, List.length_append, hpalette]
  rfl

/-- The image on the way: eight bytes for the header, the core, the reserved bytes, the colours. -/
def image (head core colors : List UInt8) : List UInt8 :=
  head ++ core ++ (List.replicate 8 0 ++ colors)

theorem blank_eq (n : Nat) :
    List.replicate (minProgramSize + n) (0 : UInt8) =
      image (List.replicate 8 0) (List.replicate 8 0) (List.replicate (7 + n) 0) := by
  simp only [image, List.replicate_append_replicate, minProgramSize]
  congr 1
  omega

theorem putAll?_coreWrites (p : Pattern) (effect : Effect) (colors : List UInt8) :
    Image.putAll? (image (List.replicate 8 0) (List.replicate 8 0) colors) (p.coreWrites effect) =
      some (image (List.replicate 8 0) (p.coreFields effect).flatten colors) := by
  rw [coreWrites_eq]
  exact Image.putAll?_consecutive (List.replicate 8 0) _ rfl

theorem putAll?_colorWrites (p : Pattern) (effect : Effect) (primary secondary : Rgb)
    (palette : List Rgb) :
    Image.putAll?
        (image (List.replicate 8 0) (p.coreFields effect).flatten
          (List.replicate (7 + 3 * palette.length) 0))
        (colorWrites primary secondary palette) =
      some (image (List.replicate 8 0) (p.coreFields effect).flatten
        (colorFields primary secondary palette).flatten) := by
  let before := List.replicate 8 0 ++ (p.coreFields effect).flatten ++ List.replicate 8 0
  have hbefore : before.length = Offset.primary := rfl
  have hlength : (List.replicate (7 + 3 * palette.length) (0 : UInt8)).length =
      (colorFields primary secondary palette).flatten.length := by
    rw [List.length_replicate, length_flatten_colorFields]
  have h := Image.putAll?_consecutive before [] hlength
  rw [hbefore, ← colorWrites_eq] at h
  simpa only [before, image, List.append_nil, List.append_assoc] using h

theorem payload_programWith (p : Pattern) (effect : Effect) :
    (p.programWith effect).payload.bytes =
      (p.coreFields effect).flatten ++
        (List.replicate 8 0 ++
          (colorFields ((paletteColors p.colors).headD .white) p.secondaryColor
            (paletteColors p.colors)).flatten) := by
  simp [coreFields, colorFields, programWith, Program.payload, Payload.bytes, List.flatMap_def]

/-- Every write lies in the image, and together they make up the layout. -/
theorem assemble?_eq (p : Pattern) (effect : Effect) :
    p.assemble? effect = some (p.programWith effect).bytes := by
  let palette := paletteColors p.colors
  let primary := palette.headD .white
  let payload := (p.programWith effect).payload.bytes
  have hprimary : palette[0]? = some primary := by
    rw [← List.head?_eq_getElem?]
    exact head?_paletteColors p.colors
  have himage : image (List.replicate 8 0) (p.coreFields effect).flatten
      (colorFields primary p.secondaryColor palette).flatten = List.replicate 8 0 ++ payload := by
    rw [image, List.append_assoc, ← payload_programWith]
  have hfrom : Image.from? (List.replicate 8 0 ++ payload) Offset.effect = some payload :=
    Image.from?_append (List.replicate 8 0) payload
  have hlength : (List.replicate 8 (0 : UInt8)).length =
      (Header.forPayload payload).bytes.length := by
    rw [Header.length_bytes]
    rfl
  have hheader : Image.put? (List.replicate 8 0 ++ payload) 0 (Header.forPayload payload).bytes =
      some (p.programWith effect).bytes :=
    Image.put?_append [] payload hlength
  show (palette[0]?.bind fun primary =>
    (Image.putAll? (List.replicate (minProgramSize + 3 * palette.length) 0)
      (p.coreWrites effect)).bind fun core =>
        (Image.putAll? core (colorWrites primary p.secondaryColor palette)).bind fun image =>
          (Image.from? image Offset.effect).bind fun payload =>
            Image.put? image 0 (Header.forPayload payload).bytes) = _
  rw [hprimary, Option.bind_some, blank_eq, putAll?_coreWrites, Option.bind_some,
    putAll?_colorWrites, Option.bind_some, himage, hfrom, Option.bind_some, hheader]

end Pattern
end LedPattern
