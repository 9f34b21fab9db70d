import Mathlib.Data.List.Basic

/-!
The bytes of a text: those of its characters one after the other. A character that is no control
character has no byte of one.
-/
namespace BranchCount

theorem toList_loop (bytes : ByteArray) (i : Nat) (read : List UInt8) :
    ByteArray.toList.loop bytes i read = read.reverse ++ bytes.data.toList.drop i := by
  induction i, read using ByteArray.toList.loop.induct bytes with
  | case1 i read more ih =>
    have bound : i < bytes.data.toList.length := more
    have byte : bytes.get! i = bytes.data.toList[i] := by
      rw [Array.getElem_toList]
      exact getElem!_pos bytes.data i more
    rw [ByteArray.toList.loop, if_pos more, ih, List.drop_eq_getElem_cons bound, byte,
      List.reverse_cons, List.append_assoc, List.singleton_append]
  | case2 i read done =>
    have all : bytes.data.toList.length ≤ i := Nat.le_of_not_lt done
    rw [ByteArray.toList.loop, if_neg done, List.drop_eq_nil_of_le all, List.append_nil]

theorem toUTF8_toList (text : String) :
    text.toUTF8.toList = text.toList.flatMap String.utf8EncodeChar := by
  have encoded := String.toByteArray_ofList (l := text.toList)
  rw [String.ofList_toList, List.utf8Encode] at encoded
  rw [String.toUTF8_eq_toByteArray, encoded, ByteArray.toList, toList_loop, List.reverse_nil,
    List.nil_append, List.drop_zero, List.toList_data_toByteArray]

theorem toUTF8_length (text : String) : text.toUTF8.toList.length = text.utf8ByteSize := by
  rw [String.toUTF8_eq_toByteArray, ByteArray.toList, toList_loop, List.reverse_nil, List.nil_append,
    List.drop_zero, Array.length_toList]
  rfl

theorem utf8EncodeChar_visible {c : Char} (visible : 32 ≤ c.toNat) :
    ∀ b ∈ String.utf8EncodeChar c, 32 ≤ b.toNat := by
  have value : c.val.toNat = c.toNat := rfl
  have byte {n : Nat} (bits : 32 ≤ n ∧ n < 256) : 32 ≤ (UInt8.ofNat n).toNat := by
    rw [UInt8.toNat_ofNat']
    omega
  -- one character is one byte of seven bits, or bytes that are all above them
  rw [String.utf8EncodeChar, value]
  split
  · simpa using byte (by omega)
  · split
    · simp only [List.forall_mem_cons]
      exact ⟨byte (by omega), byte (by omega), by simp⟩
    · split
      · simp only [List.forall_mem_cons]
        exact ⟨byte (by omega), byte (by omega), byte (by omega), by simp⟩
      · simp only [List.forall_mem_cons]
        exact ⟨byte (by omega), byte (by omega), byte (by omega), byte (by omega), by simp⟩

/-- Of all characters only the line feed starts with the byte of a line feed. -/
theorem utf8EncodeChar_feed {c : Char} {more : List UInt8}
    (feed : (String.utf8EncodeChar c ++ more).head? = some 10) : c = '\n' := by
  have nonempty : String.utf8EncodeChar c ≠ [] := String.utf8EncodeChar_ne_nil
  obtain ⟨b, bytes, encoded⟩ := List.exists_cons_of_ne_nil nonempty
  have first : b = 10 := by
    simpa [encoded] using feed
  by_cases visible : 32 ≤ c.toNat
  · have bound := utf8EncodeChar_visible visible b (by simp [encoded])
    rw [first] at bound
    contradiction
  · have value : c.val.toNat = c.toNat := rfl
    have small : c.val.toNat ≤ 127 := by omega
    simp only [String.utf8EncodeChar, if_pos small, List.cons.injEq] at encoded
    have code : c.toNat % 256 = 10 := by
      have byte := congrArg UInt8.toNat (encoded.1.trans first)
      rwa [UInt8.toNat_ofNat'] at byte
    have feed : '\n'.toNat = 10 := rfl
    apply Char.toNat_inj.mp
    omega

end BranchCount
