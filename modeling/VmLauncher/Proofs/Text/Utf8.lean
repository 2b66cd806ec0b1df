import VmLauncher.Text.Utf8
-- The bytes of a text give it back.
namespace VmLauncher.Text

theorem toList_loop (bytes : ByteArray) (i : Nat) (taken : List UInt8) :
    ByteArray.toList.loop bytes i taken = taken.reverse ++ bytes.data.toList.drop i := by
  generalize hk : bytes.size - i = k
  have hsize : bytes.size = bytes.data.toList.length := rfl
  induction k generalizing i taken with
  | zero =>
      have hend : bytes.data.toList.length ≤ i := by omega
      rw [ByteArray.toList.loop, if_neg (by omega), List.drop_eq_nil_of_le hend, List.append_nil]
  | succ k ih =>
      have hi : i < bytes.data.toList.length := by omega
      have hget : bytes.get! i = bytes.data.toList[i] := by
        cases bytes with
        | mk data => simp [ByteArray.get!, getElem!_pos data i hi]
      rw [ByteArray.toList.loop, if_pos (by omega), ih (i + 1) _ (by omega), hget,
        List.drop_eq_getElem_cons hi, List.reverse_cons, List.append_assoc, List.singleton_append]

theorem utf8_eq_data (text : String) : utf8 text = text.toByteArray.data.toList :=
  toList_loop text.toByteArray 0 []

theorem toByteArray_utf8 (text : String) : (utf8 text).toByteArray = text.toByteArray := by
  apply ByteArray.ext
  apply Array.toList_inj.mp
  rw [List.toList_data_toByteArray, utf8_eq_data]

-- The text that bytes spell, if all of them are part of one.
def ofUtf8? (bytes : List UInt8) : Option String := String.fromUTF8? bytes.toByteArray

@[simp] theorem ofUtf8?_utf8 (text : String) : ofUtf8? (utf8 text) = some text := by
  have hvalid : text.toByteArray.IsValidUTF8 := text.isValidUTF8
  simp [ofUtf8?, String.fromUTF8?, toByteArray_utf8, hvalid, String.fromUTF8]

theorem utf8_ofList (cs : List Char) :
    utf8 (String.ofList cs) = cs.flatMap String.utf8EncodeChar := by
  rw [utf8_eq_data, String.toByteArray_ofList, List.utf8Encode, List.toList_data_toByteArray]

end VmLauncher.Text
