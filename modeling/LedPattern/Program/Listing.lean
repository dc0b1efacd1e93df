import LedPattern.Program.Basic
import LedPattern.Terminal.Ink
/-!
A program listed for a reader, one line for each field: label, value and a remark on its meaning. The
lines are chosen first and written afterwards, so that colour can change only how a line looks.
-/
namespace LedPattern
namespace Program

inductive ListingLine where
  | heading (name : Text)
  | field (label value : Text) (remark : Option Text)
  | color (label : Text) (value : Rgb)
  | blank
deriving DecidableEq, Repr

namespace ListingLine

def labelWidth : Nat := 11

/-- The line without its line feed. A colour is followed by a swatch of itself when there is colour
to show it in. -/
def text (colored : Bool) : ListingLine → Text
  | heading name => Terminal.paint colored .blue ("[".toList ++ name ++ "]".toList)
  | field label value remark =>
    label.rightpad labelWidth ' ' ++ " ".toList ++ Terminal.paint colored .green value ++
      match remark with
      | some r => Terminal.paint colored .dim ("  ; ".toList ++ r)
      | none => []
  | color label value =>
    label.rightpad labelWidth ' ' ++ " ".toList ++ Terminal.paint colored .green value.text ++
      if colored then " ".toList ++ Terminal.swatch colored value else []
  | blank => []

end ListingLine

/-- A byte as `0x` and two digits. -/
def hexField (b : UInt8) : Text := "0x".toList ++ Text.hexByteUpper b

def directionName (p : Program) : Text :=
  if p.direction = 0 then "forward".toList else "reverse".toList

/-- How the colours are applied. Only the first mode is ever written by the encoder. -/
def colorModeName (mode : UInt8) : Text :=
  if mode = 0 then "palette".toList
  else if mode = 1 then "dual".toList
  else if mode = 2 then "texture".toList
  else "reserved".toList

def headerLines (h : Header) : List ListingLine :=
  [.heading "header".toList,
    .field "magic".toList (h.magic.toList.map fun b => Char.ofNat b.toNat) none,
    .field "version".toList (Text.ofNat h.version.toNat) none,
    .field "length".toList (Text.ofNat h.payloadLength.toNat) none,
    .field "checksum".toList (hexField h.checksum) none,
    .field "flags".toList (hexField h.flags) none]

/-- A parameter with the name of the quantity that it holds. -/
def paramLine (label : Text) (value : UInt8) (quantity : Option Quantity) : ListingLine :=
  .field label (Text.ofNat value.toNat) (quantity.map Quantity.key)

def coreLines (p : Program) : List ListingLine :=
  let labels := p.effect.labels
  [.heading "core".toList,
    .field "effect".toList p.effect.name (some ("id ".toList ++ hexField p.effect.id)),
    .field "brightness".toList (Text.ofNat p.brightness.toNat) none,
    .field "speed".toList (Text.ofNat p.speed.toNat) none,
    paramLine "param1".toList p.params.first labels.first,
    paramLine "param2".toList p.params.second labels.second,
    paramLine "param3".toList p.params.third labels.third,
    .field "param4".toList (Text.ofNat p.params.fourth.toNat)
      (some ("direction ".toList ++ p.directionName)),
    .field "color_mode".toList (Text.ofNat p.colorMode.toNat) (some (colorModeName p.colorMode))]

/-- The palette, numbered from the given index. -/
def paletteLines : Nat → List Rgb → List ListingLine
  | _, [] => []
  | i, c :: rest =>
    .color ("  [".toList ++ Text.ofNat i ++ "]".toList) c :: paletteLines (i + 1) rest

def colorLines (p : Program) : List ListingLine :=
  [.heading "colors".toList,
    .color "primary".toList p.primary,
    .color "secondary".toList p.secondary,
    .field "palette".toList (Text.ofNat p.palette.length) none] ++
    paletteLines 0 p.palette

def listingLines (p : Program) : List ListingLine :=
  headerLines p.header ++ [.blank] ++ p.coreLines ++ [.blank] ++ p.colorLines

/-- The whole listing, every line ended by a line feed. -/
def listing (colored : Bool) (p : Program) : Text :=
  p.listingLines.flatMap fun line => line.text colored ++ ['\n']

end Program
end LedPattern
