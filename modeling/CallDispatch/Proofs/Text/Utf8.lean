import CallDispatch.Text.Utf8
import Mathlib.Data.List.Basic

/-!
# Texts as bytes

Reading is the inverse of writing: bytes are read as a text exactly if they are the UTF-8 form of
that text, and are refused exactly if they are the form of none.
-/

namespace CallDispatch.Text

/-- The list of a byte array is collected from a position on. -/
lemma toList_loop (bytes : ByteArray) (i : Nat) (seen : List UInt8) :
    ByteArray.toList.loop bytes i seen = seen.reverse ++ bytes.data.toList.drop i := by
  induction i, seen using ByteArray.toList.loop.induct bytes with
  | case1 i seen hin ih =>
    have hdrop : bytes.data.toList.drop i = bytes.get! i :: bytes.data.toList.drop (i + 1) := by
      have hget : bytes.get! i = bytes.data[i] := getElem!_pos bytes.data i hin
      rw [hget, List.drop_eq_getElem_cons (l := bytes.data.toList) hin]
      rfl
    rw [ByteArray.toList.loop, if_pos hin, ih, hdrop]
    simp
  | case2 i seen hend =>
    have hdrop : bytes.data.toList.drop i = [] := List.drop_eq_nil_of_le (Nat.le_of_not_lt hend)
    rw [ByteArray.toList.loop, if_neg hend, hdrop, List.append_nil]

lemma toList_eq_data (bytes : ByteArray) : bytes.toList = bytes.data.toList := by
  rw [ByteArray.toList, toList_loop]
  simp

/-- Bytes are read as a text if and only if they are its form. -/
lemma readUtf8_eq_some_iff {bytes : Bytes} {text : String} :
    readUtf8 bytes = some text ↔ utf8Bytes text = bytes := by
  rw [readUtf8, String.fromUTF8?, utf8Bytes, toList_eq_data]
  constructor
  · intro h
    split at h
    · cases h
      exact List.toList_data_toByteArray
    · cases h
  · intro h
    have hbytes : bytes.toByteArray = text.toByteArray := by
      refine ByteArray.ext ?_
      rw [List.data_toByteArray, ← h]
      rfl
    rw [hbytes, dif_pos text.isValidUTF8]
    rfl

/-- Bytes are refused if and only if they are the form of no text. -/
lemma readUtf8_eq_none_iff {bytes : Bytes} :
    readUtf8 bytes = none ↔ ∀ text, utf8Bytes text ≠ bytes := by
  rw [Option.eq_none_iff_forall_not_mem]
  exact forall_congr' fun text => not_congr readUtf8_eq_some_iff

/-! ## Texts made up of others -/

/-- The form of a text is that of its characters, one after another. -/
lemma utf8Bytes_ofList (cs : List Char) :
    utf8Bytes (String.ofList cs) = cs.flatMap String.utf8EncodeChar := by
  have hbytes : (String.ofList cs).toUTF8 = (cs.flatMap String.utf8EncodeChar).toByteArray :=
    String.toByteArray_ofList
  rw [utf8Bytes, toList_eq_data, hbytes, List.data_toByteArray]

lemma length_utf8Bytes (text : String) : (utf8Bytes text).length = text.utf8ByteSize := by
  rw [utf8Bytes, toList_eq_data, Array.length_toList]
  rfl

lemma utf8Bytes_eq_nil_iff {text : String} : utf8Bytes text = [] ↔ text = "" := by
  rw [← List.length_eq_zero_iff, length_utf8Bytes, String.utf8ByteSize_eq_zero_iff]

end CallDispatch.Text
