import LedPattern.Program.Header
import LedPattern.Program.Payload
/-!
Programs: what a device runs. `Program.bytes` is the layout, and `Program.decode` reads it back or
names the first thing that is wrong.
-/
namespace LedPattern

/-- The most colours that a palette can have. -/
def maxPalette : Nat := 8

/-- The fewest bytes that a program can have. -/
def minProgramSize : Nat := 31

structure Program where
  flags : UInt8
  effect : Effect
  brightness : UInt8
  speed : UInt8
  params : Slots UInt8
  colorMode : UInt8
  reserved : Vector UInt8 8
  primary : Rgb
  secondary : Rgb
  palette : List Rgb
  palette_le : palette.length ≤ maxPalette
deriving DecidableEq, Repr

/-- What is wrong with the bytes of a program. -/
inductive DecodeError where
  | tooShort (size : Nat)
  | badMagic
  | badVersion (version : UInt8)
  | badLength (stated : UInt16) (actual : Nat)
  | badChecksum (stated computed : UInt8)
  | paletteTooLarge (count : UInt8)
  | badPaletteLength (count : UInt8) (expected actual : Nat)
  | unknownEffect (id : UInt8)
deriving DecidableEq, Repr

namespace DecodeError

def message : DecodeError → Text
  | tooShort n =>
    "program too small: ".toList ++ Text.ofNat n ++ " bytes (minimum ".toList ++
      Text.ofNat minProgramSize ++ ")".toList
  | badMagic => "invalid magic: expected LCL".toList
  | badVersion v =>
    "unsupported version: ".toList ++ Text.ofNat v.toNat ++ " (expected ".toList ++
      Text.ofNat Header.expectedVersion.toNat ++ ")".toList
  | badLength stated actual =>
    "length mismatch: header says ".toList ++ Text.ofNat stated.toNat ++
      " payload bytes, got ".toList ++ Text.ofNat actual
  | badChecksum stated computed =>
    "checksum mismatch: header has 0x".toList ++ Text.hexByteUpper stated ++
      ", payload gives 0x".toList ++ Text.hexByteUpper computed
  | paletteTooLarge n =>
    "palette too large: ".toList ++ Text.ofNat n.toNat ++ " colors (max ".toList ++
      Text.ofNat maxPalette ++ ")".toList
  | badPaletteLength count expected actual =>
    "palette count ".toList ++ Text.ofNat count.toNat ++ " needs ".toList ++
      Text.ofNat expected ++ " bytes, got ".toList ++ Text.ofNat actual
  | unknownEffect id => "unknown effect id: 0x".toList ++ Text.hexByteUpper id

end DecodeError

namespace Program

/-- The fields of the program as they stand after the header. -/
def payload (p : Program) : Payload where
  effect := p.effect.id
  brightness := p.brightness
  speed := p.speed
  params := p.params
  colorMode := p.colorMode
  reserved := p.reserved
  primary := p.primary
  secondary := p.secondary
  count := UInt8.ofNat p.palette.length
  colors := p.palette.flatMap Rgb.bytes

def header (p : Program) : Header := { Header.forPayload p.payload.bytes with flags := p.flags }

/-- The program as a device stores it. -/
def bytes (p : Program) : List UInt8 := p.header.bytes ++ p.payload.bytes

/-- Whether the lights run backward: the lowest bit of the last parameter. -/
def direction (p : Program) : UInt8 := p.params.fourth &&& 1

/-- Reads a program. The conditions are checked in the order of the branches, and the first that
fails is the error. -/
def decode (bytes : List UInt8) : Except DecodeError Program :=
  match Header.split? bytes with
  | none => .error (.tooShort bytes.length)
  | some (header, body) =>
    match Payload.ofBytes? body with
    | none => .error (.tooShort bytes.length)
    | some fields =>
      if header.magic ≠ Header.expectedMagic then .error .badMagic
      else if header.version ≠ Header.expectedVersion then .error (.badVersion header.version)
      else if header.payloadLength.toNat ≠ body.length then
        .error (.badLength header.payloadLength body.length)
      else if checksum body ≠ header.checksum then
        .error (.badChecksum header.checksum (checksum body))
      else if hcount : maxPalette < fields.count.toNat then .error (.paletteTooLarge fields.count)
      else if hlength : fields.colors.length ≠ 3 * fields.count.toNat then
        .error (.badPaletteLength fields.count (3 * fields.count.toNat) fields.colors.length)
      else
        match Effect.ofId? fields.effect with
        | none => .error (.unknownEffect fields.effect)
        | some effect =>
          .ok { flags := header.flags, effect, brightness := fields.brightness,
                speed := fields.speed, params := fields.params, colorMode := fields.colorMode,
                reserved := fields.reserved, primary := fields.primary,
                secondary := fields.secondary, palette := Rgb.ofBytes fields.colors,
                palette_le := by
                  rw [Rgb.length_ofBytes]
                  omega }

end Program
end LedPattern
