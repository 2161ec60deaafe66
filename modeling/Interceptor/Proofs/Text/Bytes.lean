/-
# Interceptor.Proofs.Text.Bytes — the bytes of a text

* `toUTF8_toList`: the bytes of a text are those of its characters, one after another;
* `fromUTF8?_toUTF8`: a text is read from its bytes;
* `utf8EncodeChar_of_ascii`: a character of ASCII is one byte;
* `utf8ByteSize_le_of_sublist`: what is left of a text has no more bytes than it had.
-/

namespace Interceptor.Text

set_option autoImplicit false

theorem toList_loop (bytes : ByteArray) (i : Nat) (read : List UInt8) :
    ByteArray.toList.loop bytes i read = read.reverse ++ bytes.data.toList.drop i := by
  fun_induction ByteArray.toList.loop bytes i read with
  | case1 i read less ih =>
      have there : i < bytes.data.toList.length := by simpa using less
      rw [ih, List.reverse_cons, List.append_assoc, List.drop_eq_getElem_cons there]
      congr 1
      simp [ByteArray.get!, getElem!_pos, less]
  | case2 i read done =>
      rw [List.drop_of_length_le]
      · simp
      · simpa using done

theorem toUTF8_toList (s : String) : s.toUTF8.toList = s.toList.flatMap String.utf8EncodeChar := by
  rw [ByteArray.toList, toList_loop, String.toUTF8, ← String.utf8Encode_toList, List.utf8Encode]
  simp

theorem fromUTF8?_toUTF8 (s : String) : String.fromUTF8? (ByteArray.mk s.toUTF8.toList.toArray) = some s := by
  have valid : s.toByteArray.IsValidUTF8 := s.isValidUTF8
  rw [ByteArray.toList, toList_loop]
  simp [String.fromUTF8?, String.fromUTF8, valid]

theorem utf8EncodeChar_of_ascii {c : Char} (ascii : c.toNat < 128) :
    String.utf8EncodeChar c = [c.toUInt8] := by
  have single : c.utf8Size = 1 := by
    rw [Char.utf8Size_eq_one_iff, UInt32.le_iff_toNat_le]
    exact Nat.le_of_lt_succ ascii
  exact String.utf8EncodeChar_eq_singleton single

theorem length_encode_le_of_sublist {part whole : List Char} (sublist : part.Sublist whole) :
    (part.flatMap String.utf8EncodeChar).length ≤ (whole.flatMap String.utf8EncodeChar).length := by
  induction sublist with
  | slnil => exact Nat.le_refl _
  | cons c _ ih =>
      rw [List.flatMap_cons, List.length_append]
      omega
  | cons_cons c _ ih =>
      rw [List.flatMap_cons, List.flatMap_cons, List.length_append, List.length_append]
      omega

theorem utf8ByteSize_eq (s : String) :
    s.utf8ByteSize = (s.toList.flatMap String.utf8EncodeChar).length := by
  rw [← toUTF8_toList, ByteArray.toList, toList_loop]
  rfl

theorem utf8ByteSize_le_of_sublist {s t : String} (part : s.toList.Sublist t.toList) :
    s.utf8ByteSize ≤ t.utf8ByteSize := by
  rw [utf8ByteSize_eq, utf8ByteSize_eq]
  exact length_encode_le_of_sublist part

end Interceptor.Text
