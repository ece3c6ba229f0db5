import EventTickets.Json.Source

/-!
# Bytes of texts

A text and its UTF-8 bytes determine each other. An ASCII character is one byte; other characters
have bytes above ASCII only.
-/

namespace EventTickets.Text

theorem toList_loop_eq (bytes : ByteArray) (i : Nat) (before : List UInt8) :
    ByteArray.toList.loop bytes i before = before.reverse ++ bytes.data.toList.drop i := by
  induction i, before using ByteArray.toList.loop.induct bytes with
  | case1 i before h ih =>
    have hget : bytes.data.toList.drop i = bytes.get! i :: bytes.data.toList.drop (i + 1) := by
      rw [List.drop_eq_getElem_cons (by simpa using h)]
      congr 1
      simp [ByteArray.get!, getElem!_pos, h]
    rw [ByteArray.toList.loop, if_pos h, ih, hget]
    simp
  | case2 i before h =>
    rw [ByteArray.toList.loop, if_neg h, List.drop_eq_nil_of_le (by simpa using h), List.append_nil]

theorem toList_eq (bytes : ByteArray) : bytes.toList = bytes.data.toList := by
  rw [ByteArray.toList, toList_loop_eq]
  simp

def utf8Bytes (cs : List Char) : Bytes := cs.flatMap String.utf8EncodeChar

theorem utf8Bytes_cons (c : Char) (cs : List Char) :
    utf8Bytes (c :: cs) = String.utf8EncodeChar c ++ utf8Bytes cs :=
  List.flatMap_cons

theorem utf8Bytes_append (cs cs' : List Char) :
    utf8Bytes (cs ++ cs') = utf8Bytes cs ++ utf8Bytes cs' :=
  List.flatMap_append

theorem utf8Encode_eq (cs : List Char) : cs.utf8Encode = (utf8Bytes cs).toByteArray := rfl

theorem toUTF8_toList (s : String) : s.toUTF8.toList = utf8Bytes s.toList := by
  rw [toList_eq, String.toUTF8_eq_toByteArray, ← String.utf8Encode_toList, utf8Encode_eq,
    List.toList_data_toByteArray]

theorem ofUtf8?_utf8Bytes (s : String) : JsonSource.ofUtf8? (utf8Bytes s.toList) = some s := by
  have hbytes : (⟨(utf8Bytes s.toList).toArray⟩ : ByteArray) = s.toByteArray := by
    rw [← String.utf8Encode_toList, utf8Encode_eq]
    exact ByteArray.ext (List.data_toByteArray).symm
  rw [JsonSource.ofUtf8?, hbytes, String.fromUTF8?, dif_pos s.isValidUTF8]
  rfl

theorem utf8EncodeChar_ascii {c : Char} (h : c.toNat < 128) :
    String.utf8EncodeChar c = [UInt8.ofNat c.toNat] :=
  if_pos (Nat.le_of_lt_succ h)

theorem utf8EncodeChar_high {c : Char} (h : 128 ≤ c.toNat) :
    ∀ b ∈ String.utf8EncodeChar c, 0x80 ≤ b := by
  have hbyte : ∀ n, 128 ≤ n → n < 256 → 0x80 ≤ UInt8.ofNat n := fun n hn hn' => by
    rw [UInt8.le_iff_toNat_le, UInt8.toNat_ofNat_of_lt' hn']
    exact hn
  fun_cases String.utf8EncodeChar c with
  | case1 v hv => exact absurd h (Nat.not_le.mpr (Nat.lt_succ_of_le hv))
  | case2 v _ _ =>
    simp only [List.forall_mem_cons]
    exact ⟨hbyte _ (by omega) (by omega), hbyte _ (by omega) (by omega),
      fun b hb => (List.not_mem_nil hb).elim⟩
  | case3 v _ _ _ =>
    simp only [List.forall_mem_cons]
    exact ⟨hbyte _ (by omega) (by omega), hbyte _ (by omega) (by omega),
      hbyte _ (by omega) (by omega), fun b hb => (List.not_mem_nil hb).elim⟩
  | case4 v _ _ _ =>
    simp only [List.forall_mem_cons]
    exact ⟨hbyte _ (by omega) (by omega), hbyte _ (by omega) (by omega),
      hbyte _ (by omega) (by omega), hbyte _ (by omega) (by omega),
      fun b hb => (List.not_mem_nil hb).elim⟩

end EventTickets.Text
