import DataMover.Engine.Frame

/-!
# UTF-8

`text.encode("utf-8")` is one to one and compatible with concatenation, and `data.decode("utf-8")` takes
it back.
-/

namespace DataMover

/-- `data.decode("utf-8")`; `none` is `UnicodeDecodeError`. -/
def decodeUtf8 (data : Bytes) : Option String := String.fromUTF8? ⟨data.toArray⟩

theorem toList_loop (bytes : ByteArray) (i : Nat) (read : List UInt8) :
    ByteArray.toList.loop bytes i read = read.reverse ++ bytes.data.toList.drop i := by
  induction i, read using ByteArray.toList.loop.induct bytes with
  | case1 i read more ih =>
    have bound : i < bytes.data.toList.length := more
    have byte : bytes.get! i = bytes.data.toList[i] := by
      rw [ByteArray.get!, getElem!_pos bytes.data i more, Array.getElem_toList]
    rw [ByteArray.toList.loop, if_pos more, ih, List.drop_eq_getElem_cons bound, byte,
      List.reverse_cons, List.append_assoc]
    rfl
  | case2 i read done =>
    have bound : bytes.data.toList.length ≤ i := not_lt.1 done
    rw [ByteArray.toList.loop, if_neg done, List.drop_eq_nil_of_le bound, List.append_nil]

theorem utf8_eq (s : String) : utf8 s = s.toByteArray.data.toList := by
  unfold utf8 ByteArray.toList
  exact toList_loop _ 0 []

theorem utf8_injective : Function.Injective utf8 := by
  intro s t same
  rw [utf8_eq, utf8_eq] at same
  exact String.toByteArray_inj.1 (ByteArray.ext (Array.toList_inj.1 same))

theorem utf8_append (s t : String) : utf8 (s ++ t) = utf8 s ++ utf8 t := by
  rw [utf8_eq, utf8_eq, utf8_eq, String.toByteArray_append, ByteArray.data_append,
    Array.toList_append]

theorem decodeUtf8_utf8 (s : String) : decodeUtf8 (utf8 s) = some s := by
  rw [decodeUtf8, utf8_eq, Array.toArray_toList, String.fromUTF8?, dif_pos s.isValidUTF8]
  rfl

end DataMover
