import LedPattern.Proofs.Program.Acceptance
/-!
A payload under a header of its own. The header is worked out from the payload alone, so a payload
can be given a new one whatever stood before it, and what is then refused is refused for its
payload: for its size, its palette or its effect. The length is counted modulo 65536, but an image
states its length once and has it once, and the two cannot agree where the count has run over.
-/
namespace LedPattern

namespace Header

/-- The payload under the header that belongs to it. -/
def headed (payload : List UInt8) : List UInt8 := (forPayload payload).bytes ++ payload

theorem length_headed (payload : List UInt8) : (headed payload).length = 8 + payload.length := by
  rw [headed, List.length_append, length_bytes]

theorem drop_headed (payload : List UInt8) : (headed payload).drop 8 = payload :=
  drop_header (forPayload payload) payload

/-- Eight bytes are a header, and whatever follows them is left for the payload. -/
theorem exists_eq_append {b : List UInt8} (h : 8 ≤ b.length) :
    ∃ header : Header, b = header.bytes ++ b.drop 8 := by
  obtain ⟨header, body, hsplit⟩ := exists_split? h
  have hb := bytes_append_of_split? hsplit
  refine ⟨header, ?_⟩
  rw [← hb, drop_header]

theorem split?_bytes (header : Header) : split? header.bytes = some (header, []) := by
  have h := split?_bytes_append header []
  rwa [List.append_nil] at h

theorem exists_split?_of_length {raw : List UInt8} (h : raw.length = 8) :
    ∃ header, split? raw = some (header, []) ∧ header.bytes = raw := by
  obtain ⟨header, hraw⟩ := exists_eq_append (Nat.le_of_eq h.symm)
  rw [List.drop_eq_nil_of_le (Nat.le_of_eq h), List.append_nil] at hraw
  subst hraw
  exact ⟨header, split?_bytes header, rfl⟩

theorem replace_append (header : Header) (payload : List UInt8) :
    replace (header.bytes ++ payload) = headed payload := by
  rw [replace, split?_bytes_append]
  rfl

theorem replace_eq {b : List UInt8} (h : 8 ≤ b.length) : replace b = headed (b.drop 8) := by
  obtain ⟨header, hb⟩ := exists_eq_append h
  generalize b.drop 8 = payload at hb ⊢
  rw [hb, replace_append]

theorem replace_headed (payload : List UInt8) : replace (headed payload) = headed payload :=
  replace_append (forPayload payload) payload

end Header

/-! ## What a headed payload satisfies -/

namespace Requirement

variable (payload : List UInt8)

theorem met_magic_headed : magic.Met (Header.headed payload) := by
  show (Header.headed payload).take 3 = _
  rw [Header.headed, Header.bytes_eq]
  rfl

theorem met_version_headed : version.Met (Header.headed payload) := by
  show Image.byte (Header.headed payload) 3 = 4
  rw [Header.headed, Header.bytes_eq]
  rfl

theorem met_checksum_headed : checksum.Met (Header.headed payload) := by
  have hsum : Image.byte (Header.headed payload) 6 = LedPattern.checksum payload := by
    rw [Header.headed, Header.bytes_eq]
    rfl
  show ((Header.headed payload).drop 8).foldl (· ^^^ ·) 0 = _
  rw [Header.drop_headed, hsum]
  rfl

/-- The two bytes of the length hold what is left of it modulo 65536. -/
theorem stated_length_headed :
    256 * (Image.byte (Header.headed payload) 4).toNat +
      (Image.byte (Header.headed payload) 5).toNat = payload.length % 65536 := by
  rw [Header.headed, Header.bytes_eq]
  show 256 * (UInt8.ofNat ((UInt16.ofNat payload.length).toNat / 256)).toNat +
    (UInt8.ofNat (UInt16.ofNat payload.length).toNat).toNat = _
  rw [UInt8.toNat_ofNat', UInt8.toNat_ofNat', UInt16.toNat_ofNat']
  omega

theorem met_length_headed_iff : length.Met (Header.headed payload) ↔ payload.length < 65536 := by
  show _ = (Header.headed payload).length - 8 ↔ _
  rw [stated_length_headed, Header.length_headed]
  omega

theorem firstViolated_length_headed (h : 65536 ≤ payload.length) :
    FirstViolated (Header.headed payload) length where
  violated := by
    rw [met_length_headed_iff]
    omega
  earlier := by
    intro s hs
    have hcases : s = size ∨ s = magic ∨ s = version := by
      simpa [Requirement.earlier, all] using hs
    rcases hcases with rfl | rfl | rfl
    · show 31 ≤ (Header.headed payload).length
      rw [Header.length_headed]
      omega
    · exact met_magic_headed payload
    · exact met_version_headed payload

/-- The requirements that a headed payload can violate. -/
theorem of_error_headed {e : DecodeError}
    (h : Program.decode (Header.headed payload) = .error e) :
    ∃ r ∈ [size, length, count, palette, effect],
      ¬ r.Met (Header.headed payload) ∧ e = r.error (Header.headed payload) := by
  obtain ⟨r, hfirst, rfl⟩ := Program.decode_eq_error_iff.mp h
  have hnot := hfirst.violated
  refine ⟨r, ?_, hnot, rfl⟩
  cases r with
  | magic => exact absurd (met_magic_headed payload) hnot
  | version => exact absurd (met_version_headed payload) hnot
  | checksum => exact absurd (met_checksum_headed payload) hnot
  | _ => decide

end Requirement

namespace Program

theorem decode_headed_badLength_iff (payload : List UInt8) :
    (∃ stated actual, decode (Header.headed payload) = .error (.badLength stated actual)) ↔
      65536 ≤ payload.length := by
  constructor
  · rintro ⟨stated, actual, h⟩
    obtain ⟨r, hr, hnot, herror⟩ := Requirement.of_error_headed payload h
    simp only [List.mem_cons, List.not_mem_nil, or_false] at hr
    rcases hr with rfl | rfl | rfl | rfl | rfl
    case inr.inl =>
      rw [Requirement.met_length_headed_iff] at hnot
      omega
    all_goals cases herror
  · intro h
    exact ⟨_, _, decode_of_firstViolated (Requirement.firstViolated_length_headed payload h)⟩

theorem decode_headed_payload (m : Program) :
    decode (Header.headed m.payload.bytes) = .ok { m with flags := 0 } :=
  decode_bytes { m with flags := 0 }

/-- Without flags, the layout of a program is its payload under the header that belongs to it. -/
theorem headed_of_decode {b : List UInt8} {m : Program} (h : decode b = .ok m)
    (hflags : m.flags = 0) : Header.headed (b.drop 8) = b := by
  have hb := bytes_of_decode h
  have hheader : m.header = Header.forPayload m.payload.bytes := by
    rw [header, hflags]
    rfl
  have hbytes : m.bytes = Header.headed m.payload.bytes := by
    rw [bytes, hheader, Header.headed]
  rw [← hb, hbytes, Header.drop_headed]

end Program

theorem reheading_sound (b : List UInt8) (hb : 8 ≤ b.length) :
    Header.replace b = (Header.forPayload (b.drop 8)).bytes ++ b.drop 8 ∧
    (∀ e, Program.decode (Header.replace b) = .error e →
      e ≠ .badMagic ∧ (∀ version, e ≠ .badVersion version) ∧
        ∀ stated computed, e ≠ .badChecksum stated computed) ∧
    ((∃ stated actual, Program.decode (Header.replace b) = .error (.badLength stated actual)) ↔
      65536 ≤ (b.drop 8).length) ∧
    (∀ m : Program, b.drop 8 = m.payload.bytes →
      Program.decode (Header.replace b) = .ok { m with flags := 0 }) ∧
    Header.replace (Header.replace b) = Header.replace b ∧
    (∀ m, Program.decode b = .ok m → m.flags = 0 → Header.replace b = b) ∧
    (∀ header : Header, header.bytes.length = 8 ∧ Header.split? header.bytes = some (header, [])) ∧
    ∀ raw : List UInt8, raw.length = 8 →
      ∃ header, Header.split? raw = some (header, []) ∧ header.bytes = raw := by
  rw [Header.replace_eq hb]
  refine ⟨rfl, ?_, Program.decode_headed_badLength_iff _, ?_, Header.replace_headed _, ?_, ?_, ?_⟩
  · intro e he
    obtain ⟨r, hr, -, rfl⟩ := Requirement.of_error_headed _ he
    simp only [List.mem_cons, List.not_mem_nil, or_false] at hr
    rcases hr with rfl | rfl | rfl | rfl | rfl <;> simp [Requirement.error]
  · intro m hm
    rw [hm]
    exact Program.decode_headed_payload m
  · intro m hm hflags
    exact Program.headed_of_decode hm hflags
  · intro header
    exact ⟨header.length_bytes, Header.split?_bytes header⟩
  · intro raw hraw
    exact Header.exists_split?_of_length hraw

/-- A scanner with a byte of its header damaged, and with so much behind it that the count of its
length comes round to what it was. -/
theorem reheading_sound_flagged :
    8 ≤ (flagged.bytes.set 3 9).length ∧
      Program.decode (flagged.bytes.set 3 9) = .error (.badVersion 9) ∧
      Program.decode (Header.replace (flagged.bytes.set 3 9)) = .ok { flagged with flags := 0 } ∧
      Header.replace { flagged with flags := 0 }.bytes = { flagged with flags := 0 }.bytes ∧
      (Header.forPayload ((flagged.bytes ++ List.replicate 65536 0).drop 8)).payloadLength = 29 ∧
      ∃ stated actual,
        Program.decode (Header.replace (flagged.bytes ++ List.replicate 65536 0)) =
          .error (.badLength stated actual) := by
  have hlength : ((flagged.bytes ++ List.replicate 65536 0).drop 8).length = 65565 := by
    rw [List.length_drop, List.length_append, List.length_replicate, Program.length_bytes]
    rfl
  have hlong : 8 ≤ (flagged.bytes ++ List.replicate 65536 0).length := by
    rw [List.length_drop] at hlength
    omega
  refine ⟨by decide, rfl, ?_, ?_, ?_, ?_⟩
  · exact (reheading_sound (flagged.bytes.set 3 9) (by decide)).2.2.2.1 flagged (by decide)
  · exact (reheading_sound _ (by decide)).2.2.2.2.2.1 _ (Program.decode_bytes _) rfl
  · rw [Header.forPayload, hlength]
    rfl
  · exact (reheading_sound _ hlong).2.2.1.mpr (by rw [hlength]; decide)

end LedPattern
