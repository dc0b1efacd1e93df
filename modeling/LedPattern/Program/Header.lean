/-!
The eight bytes at the head of a program: three bytes that mark the format, its version, the length
of what follows with the high byte first, a checksum over it, and flags.
-/
namespace LedPattern

structure Header where
  magic : Vector UInt8 3
  version : UInt8
  payloadLength : UInt16
  checksum : UInt8
  flags : UInt8
deriving DecidableEq, Repr

/-- All bytes combined by exclusive or. -/
def checksum (bytes : List UInt8) : UInt8 := bytes.foldl (· ^^^ ·) 0

namespace Header

/-- The letters `LCL`. -/
def expectedMagic : Vector UInt8 3 := #v[0x4c, 0x43, 0x4c]

def expectedVersion : UInt8 := 4

/-- The header that goes before a payload. Its length field counts modulo 65536. -/
def forPayload (payload : List UInt8) : Header where
  magic := expectedMagic
  version := expectedVersion
  payloadLength := UInt16.ofNat payload.length
  checksum := LedPattern.checksum payload
  flags := 0

def bytes (h : Header) : List UInt8 :=
  h.magic.toList ++
    [h.version, UInt8.ofNat (h.payloadLength.toNat / 256), UInt8.ofNat h.payloadLength.toNat,
      h.checksum, h.flags]

/-- The header at the front of the bytes, and what follows it. -/
def split? : List UInt8 → Option (Header × List UInt8)
  | m₁ :: m₂ :: m₃ :: version :: high :: low :: sum :: flags :: payload =>
    some ({ magic := #v[m₁, m₂, m₃], version,
            payloadLength := UInt16.ofNat (256 * high.toNat + low.toNat),
            checksum := sum, flags }, payload)
  | _ => none

@[simp] theorem length_bytes (h : Header) : h.bytes.length = 8 := by simp [bytes]

theorem split?_bytes_append (h : Header) (rest : List UInt8) :
    split? (h.bytes ++ rest) = some (h, rest) := by
  obtain ⟨⟨⟨magic⟩, hmagic⟩, version, length, sum, flags⟩ := h
  match magic, hmagic with
  | [_, _, _], _ =>
    have hlength : UInt16.ofNat (256 * (UInt8.ofNat (length.toNat / 256)).toNat
        + (UInt8.ofNat length.toNat).toNat) = length := by
      apply UInt16.toNat_inj.mp
      have := length.toNat_lt
      simp only [UInt16.toNat_ofNat', UInt8.toNat_ofNat']
      omega
    simp only [bytes, Vector.toList, List.cons_append, List.nil_append, split?, hlength]

theorem bytes_append_of_split? {bytes rest : List UInt8} {h : Header}
    (hsplit : split? bytes = some (h, rest)) : h.bytes ++ rest = bytes := by
  unfold split? at hsplit
  split at hsplit
  · rename_i high low _ _ _
    simp only [Option.some.injEq, Prod.mk.injEq] at hsplit
    obtain ⟨rfl, rfl⟩ := hsplit
    have hhigh := high.toNat_lt
    have hlow := low.toNat_lt
    have quotient : UInt8.ofNat ((256 * high.toNat + low.toNat) % 65536 / 256) = high := by
      apply UInt8.toNat_inj.mp
      simp only [UInt8.toNat_ofNat']
      omega
    have remainder : UInt8.ofNat ((256 * high.toNat + low.toNat) % 65536) = low := by
      apply UInt8.toNat_inj.mp
      simp only [UInt8.toNat_ofNat']
      omega
    simp [Header.bytes, Vector.toList, quotient, remainder]
  · simp at hsplit

/-- The bytes with the right header for what follows the first eight of them; fewer than eight bytes
stay as they are. -/
def replace (bytes : List UInt8) : List UInt8 :=
  match split? bytes with
  | some (_, payload) => (forPayload payload).bytes ++ payload
  | none => bytes

end Header
end LedPattern
