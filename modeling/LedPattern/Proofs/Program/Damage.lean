import LedPattern.Proofs.Program.Acceptance
/-!
Damage to a stored program. An image that was accepted and then had one byte changed, was cut short
or had bytes added is refused, and the error says where the damage is. The flags are the one byte
that nothing depends on: changing them changes nothing else.
-/
namespace LedPattern

/-! ## The checksum -/

theorem foldl_xor (bytes : List UInt8) (a : UInt8) :
    bytes.foldl (· ^^^ ·) a = a ^^^ bytes.foldl (· ^^^ ·) 0 := by
  induction bytes generalizing a with
  | nil => simp
  | cons x rest ih =>
    rw [List.foldl_cons, List.foldl_cons, ih (a ^^^ x), ih (0 ^^^ x), UInt8.zero_xor,
      UInt8.xor_assoc]

theorem checksum_cons (x : UInt8) (rest : List UInt8) :
    checksum (x :: rest) = x ^^^ checksum rest := by
  rw [checksum, List.foldl_cons, foldl_xor, UInt8.zero_xor]
  rfl

/-- A byte that is changed changes the checksum, wherever it stands. -/
theorem checksum_set_ne {bytes : List UInt8} {i : Nat} {v : UInt8} (hi : i < bytes.length)
    (hv : v ≠ bytes[i]) : checksum (bytes.set i v) ≠ checksum bytes := by
  induction bytes generalizing i with
  | nil => exact absurd hi (Nat.not_lt_zero i)
  | cons x rest ih =>
    cases i with
    | zero =>
      rw [List.set_cons_zero, checksum_cons, checksum_cons]
      intro heq
      exact hv ((UInt8.xor_left_inj _).mp heq)
    | succ i =>
      rw [List.set_cons_succ, checksum_cons, checksum_cons]
      intro heq
      exact ih (by simpa using hi) (by simpa using hv) ((UInt8.xor_right_inj _).mp heq)

/-! ## Images that agree up to some offset -/

namespace Image

theorem byte_eq {b : List UInt8} {i : Nat} (hi : i < b.length) : byte b i = b[i] := by
  rw [byte, List.getD_eq_getElem?_getD, List.getElem?_eq_getElem hi, Option.getD_some]

theorem byte_set_self {b : List UInt8} {i : Nat} (hi : i < b.length) (v : UInt8) :
    byte (b.set i v) i = v := by
  rw [byte_eq (by rwa [List.length_set]), List.getElem_set_self]

theorem byte_of_agree {b b' : List UInt8} {k i : Nat} (h : b'.take k = b.take k) (hi : i < k) :
    byte b' i = byte b i := by
  rw [byte, byte, List.getD_eq_getElem?_getD, List.getD_eq_getElem?_getD,
    ← List.getElem?_take_of_lt hi, h, List.getElem?_take_of_lt hi]

theorem byte_set_ne {b : List UInt8} {i j : Nat} (h : i ≠ j) (v : UInt8) :
    byte (b.set i v) j = byte b j := by
  rw [byte, byte, List.getD_eq_getElem?_getD, List.getElem?_set_ne h, List.getD_eq_getElem?_getD]

end Image

namespace Requirement

variable {b b' : List UInt8} (hmet : ∀ r : Requirement, r.Met b) {k : Nat}
  (hagree : b'.take k = b.take k)
include hmet hagree

theorem met_magic (hk : 3 ≤ k) : magic.Met b' := by
  have htake : b'.take 3 = b.take 3 := by
    have h := congrArg (List.take 3) hagree
    rwa [List.take_take, List.take_take, Nat.min_eq_left hk] at h
  show b'.take 3 = _
  rw [htake]
  exact hmet .magic

theorem met_version (hk : 4 ≤ k) : version.Met b' := by
  show Image.byte b' 3 = 4
  rw [Image.byte_of_agree hagree (by omega)]
  exact hmet .version

/-- The length that an image states, as long as the damage lies behind it. -/
theorem stated_length (hk : 6 ≤ k) :
    256 * (Image.byte b' 4).toNat + (Image.byte b' 5).toNat = b.length - 8 := by
  rw [Image.byte_of_agree hagree (by omega), Image.byte_of_agree hagree (by omega)]
  exact hmet .length

theorem firstViolated_version (hk : 3 ≤ k) (hsize : 31 ≤ b'.length) (h : ¬ version.Met b') :
    FirstViolated b' version where
  violated := h
  earlier := by
    intro s hs
    have hcases : s = size ∨ s = magic := by simpa [Requirement.earlier, all] using hs
    rcases hcases with rfl | rfl
    · exact hsize
    · exact met_magic hmet hagree hk

theorem firstViolated_length (hk : 4 ≤ k) (hsize : 31 ≤ b'.length) (h : ¬ length.Met b') :
    FirstViolated b' length where
  violated := h
  earlier := by
    intro s hs
    have hcases : s = size ∨ s = magic ∨ s = version := by
      simpa [Requirement.earlier, all] using hs
    rcases hcases with rfl | rfl | rfl
    · exact hsize
    · exact met_magic hmet hagree (by omega)
    · exact met_version hmet hagree hk

theorem firstViolated_checksum (hk : 6 ≤ k) (hsize : b'.length = b.length)
    (h : ¬ checksum.Met b') : FirstViolated b' checksum where
  violated := h
  earlier := by
    intro s hs
    have hcases : s = size ∨ s = magic ∨ s = version ∨ s = length := by
      simpa [Requirement.earlier, all] using hs
    rcases hcases with rfl | rfl | rfl | rfl
    · show 31 ≤ b'.length
      rw [hsize]
      exact hmet .size
    · exact met_magic hmet hagree (by omega)
    · exact met_version hmet hagree (by omega)
    · show _ = b'.length - 8
      rw [hsize]
      exact stated_length hmet hagree hk

end Requirement

/-! ## One byte changed -/

namespace Program

theorem size_set {b : List UInt8} {m : Program} (hm : decode b = .ok m) (i : Nat) (v : UInt8) :
    31 ≤ (b.set i v).length := by
  rw [List.length_set]
  exact met_of_decode hm .size

variable {b : List UInt8} {m : Program} (hm : decode b = .ok m) {i : Nat} (hi : i < b.length)
  {v : UInt8} (hv : v ≠ b[i])
include hm hi hv

theorem decode_set_magic (h : i ≤ 2) : decode (b.set i v) = .error .badMagic := by
  have hmet := met_of_decode hm
  refine decode_of_firstViolated (r := .magic) ⟨fun hset => hv ?_, fun s hs => ?_⟩
  · have hsame : (b.set i v).take 3 = b.take 3 := Eq.trans hset (hmet .magic).symm
    have hat := congrArg (fun l => l[i]?) hsame
    have hthree : i < 3 := by omega
    simpa [List.getElem?_take_of_lt hthree, List.getElem?_set_self hi,
      List.getElem?_eq_getElem hi] using hat
  · obtain rfl : s = .size := by simpa [Requirement.earlier, Requirement.all] using hs
    exact size_set hm i v

theorem decode_set_version (h : i = 3) : decode (b.set i v) = .error (.badVersion v) := by
  have hmet := met_of_decode hm
  have hversion : Image.byte b i = 4 := h ▸ hmet .version
  have hset : Image.byte (b.set i v) 3 = v := by
    rw [← h]
    exact Image.byte_set_self hi v
  have hnot : ¬ Requirement.version.Met (b.set i v) := by
    intro hfour
    rw [Image.byte_eq hi] at hversion
    exact hv ((hset.symm.trans hfour).trans hversion.symm)
  have hagree : (b.set i v).take i = b.take i := List.take_set_of_le (Nat.le_refl i)
  rw [decode_of_firstViolated
    (Requirement.firstViolated_version hmet hagree (by omega) (size_set hm i v) hnot),
    Requirement.error, hset]

theorem decode_set_length (h : i = 4 ∨ i = 5) :
    ∃ stated, stated.toNat ≠ b.length - 8 ∧
      decode (b.set i v) = .error (.badLength stated (b.length - 8)) := by
  have hmet := met_of_decode hm
  have hlength : 256 * (Image.byte b 4).toNat + (Image.byte b 5).toNat = b.length - 8 :=
    hmet .length
  have hne : v.toNat ≠ (Image.byte b i).toNat := by
    rw [Image.byte_eq hi]
    exact fun heq => hv (UInt8.toNat_inj.mp heq)
  have hv256 := v.toNat_lt
  have hfour := (Image.byte b 4).toNat_lt
  have hfive := (Image.byte b 5).toNat_lt
  -- The bytes of the length are digits, so no change of one of them leaves it as it was.
  have hstated : 256 * (Image.byte (b.set i v) 4).toNat + (Image.byte (b.set i v) 5).toNat ≠
      b.length - 8 := by
    rcases h with rfl | rfl
    · rw [Image.byte_set_self hi, Image.byte_set_ne (by decide)]
      omega
    · rw [Image.byte_set_self hi, Image.byte_set_ne (by decide)]
      omega
  have hnot : ¬ Requirement.length.Met (b.set i v) := by
    show ¬ _ = (b.set i v).length - 8
    rw [List.length_set]
    exact hstated
  have hagree : (b.set i v).take i = b.take i := List.take_set_of_le (Nat.le_refl i)
  have hdecode := decode_of_firstViolated
    (Requirement.firstViolated_length hmet hagree (by omega) (size_set hm i v) hnot)
  rw [Requirement.error, List.length_set] at hdecode
  refine ⟨_, ?_, hdecode⟩
  have hfour' := (Image.byte (b.set i v) 4).toNat_lt
  have hfive' := (Image.byte (b.set i v) 5).toNat_lt
  rwa [UInt16.toNat_ofNat', Nat.mod_eq_of_lt (by omega)]

theorem decode_set_checksum (h : i = 6 ∨ 8 ≤ i) :
    ∃ stated computed, stated ≠ computed ∧
      decode (b.set i v) = .error (.badChecksum stated computed) := by
  have hmet := met_of_decode hm
  have hsum : checksum (b.drop 8) = Image.byte b 6 := hmet .checksum
  have hne : checksum ((b.set i v).drop 8) ≠ Image.byte (b.set i v) 6 := by
    rcases h with rfl | h
    · rw [List.drop_set_of_lt (by decide), Image.byte_set_self hi, hsum, Image.byte_eq hi]
      exact hv.symm
    · have hlength : i - 8 < (b.drop 8).length := by
        rw [List.length_drop]
        omega
      have hat : v ≠ (b.drop 8)[i - 8] := by
        rw [List.getElem_drop]
        simpa only [Nat.add_sub_cancel' h] using hv
      rw [List.drop_set, if_neg (by omega), Image.byte_set_ne (by omega), ← hsum]
      exact checksum_set_ne hlength hat
  have hagree : (b.set i v).take i = b.take i := List.take_set_of_le (Nat.le_refl i)
  exact ⟨_, _, hne.symm, decode_of_firstViolated
    (Requirement.firstViolated_checksum hmet hagree (by omega) List.length_set hne)⟩

omit hi hv in
theorem decode_set_flags (h : i = 7) : decode (b.set i v) = .ok { m with flags := v } := by
  rw [decode_eq_ok_iff, ← bytes_of_decode hm, h, bytes, bytes, Header.bytes_eq, Header.bytes_eq]
  rfl

end Program

/-! ## Bytes lost and added -/

namespace Program

variable {b : List UInt8} {m : Program} (hm : decode b = .ok m)
include hm

/-- An image of the wrong length says how long it was. -/
theorem decode_badLength {b' : List UInt8} {k : Nat} (hagree : b'.take k = b.take k) (hk : 6 ≤ k)
    (hsize : 31 ≤ b'.length) (hlength : b'.length ≠ b.length) :
    decode b' = .error (.badLength (UInt16.ofNat (b.length - 8)) (b'.length - 8)) := by
  have hmet := met_of_decode hm
  have hsizes : 31 ≤ b.length := hmet .size
  have hstated := Requirement.stated_length hmet hagree hk
  have hnot : ¬ Requirement.length.Met b' := by
    show ¬ 256 * (Image.byte b' 4).toNat + (Image.byte b' 5).toNat = b'.length - 8
    omega
  rw [decode_of_firstViolated
    (Requirement.firstViolated_length hmet hagree (by omega) hsize hnot), Requirement.error,
    hstated]

theorem decode_take {n : Nat} (hn : n < b.length) :
    (n < 31 → decode (b.take n) = .error (.tooShort n)) ∧
    (31 ≤ n → decode (b.take n) =
      .error (.badLength (UInt16.ofNat (b.length - 8)) (n - 8))) := by
  have hlength : (b.take n).length = n := List.length_take_of_le (by omega)
  constructor
  · intro h
    rw [decode_tooShort (by rwa [hlength]), hlength]
  · intro h
    have hagree : (b.take n).take n = b.take n := by rw [List.take_take, Nat.min_self]
    rw [decode_badLength hm hagree (by omega) (by omega) (by omega), hlength]

theorem decode_append {extra : List UInt8} (h : extra ≠ []) :
    decode (b ++ extra) =
      .error (.badLength (UInt16.ofNat (b.length - 8)) (b.length + extra.length - 8)) := by
  have hsize : 31 ≤ b.length := met_of_decode hm .size
  have hextra : 0 < extra.length := List.length_pos_iff.mpr h
  have hlength : (b ++ extra).length = b.length + extra.length := List.length_append
  have hagree : (b ++ extra).take b.length = b.take b.length := by
    rw [List.take_left, List.take_length]
  rw [decode_badLength hm hagree (by omega) (by omega) (by omega), hlength]

end Program

theorem damage_classified (b : List UInt8) (m : Program) (hm : Program.decode b = .ok m) :
    (∀ (i : Nat) (hi : i < b.length) (v : UInt8), v ≠ b[i] →
      (i ≤ 2 → Program.decode (b.set i v) = .error .badMagic) ∧
      (i = 3 → Program.decode (b.set i v) = .error (.badVersion v)) ∧
      (i = 4 ∨ i = 5 → ∃ stated, stated.toNat ≠ b.length - 8 ∧
        Program.decode (b.set i v) = .error (.badLength stated (b.length - 8))) ∧
      (i = 6 ∨ 8 ≤ i → ∃ stated computed, stated ≠ computed ∧
        Program.decode (b.set i v) = .error (.badChecksum stated computed)) ∧
      (i = 7 → Program.decode (b.set i v) = .ok { m with flags := v })) ∧
    (∀ n, n < b.length →
      (n < 31 → Program.decode (b.take n) = .error (.tooShort n)) ∧
      (31 ≤ n → Program.decode (b.take n) =
        .error (.badLength (UInt16.ofNat (b.length - 8)) (n - 8)))) ∧
    (∀ extra : List UInt8, extra ≠ [] →
      Program.decode (b ++ extra) =
        .error (.badLength (UInt16.ofNat (b.length - 8)) (b.length + extra.length - 8))) := by
  refine ⟨fun i hi v hv => ⟨?_, ?_, ?_, ?_, ?_⟩, fun n hn => Program.decode_take hm hn,
    fun extra h => Program.decode_append hm h⟩
  · exact Program.decode_set_magic hm hi hv
  · exact Program.decode_set_version hm hi hv
  · exact Program.decode_set_length hm hi hv
  · exact Program.decode_set_checksum hm hi hv
  · exact Program.decode_set_flags hm

/-- A larger palette is stated, the image ends where its palette begins, or a byte is left over. -/
theorem damage_classified_flagged :
    Program.decode flagged.bytes = .ok flagged ∧
      (∃ stated computed, stated ≠ computed ∧
        Program.decode (flagged.bytes.set 30 9) = .error (.badChecksum stated computed)) ∧
      Program.decode (flagged.bytes.set 7 0) = .ok { flagged with flags := 0 } ∧
      Program.decode (flagged.bytes.take 31) = .error (.badLength 29 23) ∧
      Program.decode (flagged.bytes ++ [0]) = .error (.badLength 29 30) := by
  have hdecode := Program.decode_bytes flagged
  obtain ⟨hset, htake, happend⟩ := damage_classified flagged.bytes flagged hdecode
  refine ⟨hdecode, ?_, ?_, ?_, ?_⟩
  · exact (hset 30 (by decide) 9 (by decide)).2.2.2.1 (.inr (by decide))
  · exact (hset 7 (by decide) 0 (by decide)).2.2.2.2 rfl
  · exact (htake 31 (by decide)).2 (by decide)
  · exact happend [0] (by decide)

end LedPattern
