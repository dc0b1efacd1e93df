import LedPattern.Text.Utf8
/-!
Text written as bytes is read back, and cut at byte offsets. A cut is refused behind the end of the
text and inside a character; in a text of characters of one byte each it is where it would be among the
characters.
-/
namespace LedPattern
namespace Text

theorem toByteArray_toUtf8 (t : Text) : (⟨(toUtf8 t).toArray⟩ : ByteArray) = t.utf8Encode := by
  apply ByteArray.ext
  rw [List.utf8Encode, List.data_toByteArray]
  rfl

theorem ofUtf8?_toUtf8 (t : Text) : ofUtf8? (toUtf8 t) = some t := by
  have hvalid : (t.utf8Encode).IsValidUTF8 := ByteArray.isValidUTF8_utf8Encode
  have hstring : String.fromUTF8 t.utf8Encode hvalid = String.ofList t := by
    apply String.toByteArray_inj.mp
    rw [String.toByteArray_ofList]
    rfl
  rw [ofUtf8?, toByteArray_toUtf8, String.fromUTF8?, dif_pos hvalid, hstring, Option.map_some,
    String.toList_ofList]

/-- The text before and after so many bytes. -/
def splitBytes? : Nat → Text → Option (Text × Text)
  | 0, t => some ([], t)
  | _ + 1, [] => none
  | n + 1, c :: rest =>
    if c.utf8Size ≤ n + 1 then
      (splitBytes? (n + 1 - c.utf8Size) rest).map fun (before, after) => (c :: before, after)
    else none

/-- So many bytes from an offset on. -/
def slice? (t : Text) (offset count : Nat) : Option Text := do
  let (_, rest) ← splitBytes? offset t
  let (piece, _) ← splitBytes? count rest
  some piece

theorem splitBytes?_of_narrow {t : Text} (h : ∀ c ∈ t, c.utf8Size = 1) {n : Nat}
    (hn : n ≤ t.length) : splitBytes? n t = some (t.take n, t.drop n) := by
  induction t generalizing n with
  | nil =>
    obtain rfl : n = 0 := Nat.le_zero.mp hn
    rfl
  | cons c rest ih =>
    cases n with
    | zero => rfl
    | succ n =>
      have hc : c.utf8Size = 1 := h c List.mem_cons_self
      have hrest := ih (fun d hd => h d (List.mem_cons_of_mem c hd)) (Nat.le_of_succ_le_succ hn)
      rw [splitBytes?, hc, if_pos (by omega), Nat.add_sub_cancel, hrest]
      rfl

theorem slice?_of_narrow {t : Text} (h : ∀ c ∈ t, c.utf8Size = 1) {offset count : Nat}
    (hroom : offset + count ≤ t.length) :
    slice? t offset count = some ((t.drop offset).take count) := by
  have hrest : ∀ c ∈ t.drop offset, c.utf8Size = 1 := fun c hc => h c (List.mem_of_mem_drop hc)
  have hcount : count ≤ (t.drop offset).length := by
    rw [List.length_drop]
    omega
  have hoffset : offset ≤ t.length := by omega
  simp only [slice?, splitBytes?_of_narrow h hoffset, splitBytes?_of_narrow hrest hcount, bind,
    Option.bind_some]

theorem byteLength_of_narrow {t : Text} (h : ∀ c ∈ t, c.utf8Size = 1) : byteLength t = t.length := by
  induction t with
  | nil => rfl
  | cons c rest ih =>
    rw [byteLength, h c List.mem_cons_self, ih fun d hd => h d (List.mem_cons_of_mem c hd),
      List.length_cons, Nat.add_comm]

end Text
end LedPattern
