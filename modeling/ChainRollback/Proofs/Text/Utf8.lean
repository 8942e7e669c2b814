import ChainRollback.Text.Utf8

/-! # UTF-8 text is read back

Every text is read from its own bytes, and no other bytes read as it. The bytes of a text are those
of its characters in turn: one byte for a character of ASCII, and otherwise bytes beyond ASCII only.
-/
namespace ChainRollback.Utf8

/-- The bytes of an array from an index on are gathered in front of those seen before. -/
private theorem toList_loop (a : ByteArray) (i : Nat) (seen : List UInt8) :
    ByteArray.toList.loop a i seen = seen.reverse ++ a.data.toList.drop i := by
  induction i, seen using ByteArray.toList.loop.induct a with
  | case1 i seen hi ih =>
    have hlt : i < a.data.toList.length := hi
    have hget : a.get! i = a.data.toList[i] := getElem!_pos a.data i hi
    rw [ByteArray.toList.loop, if_pos hi, ih, List.drop_eq_getElem_cons hlt, hget,
      List.reverse_cons, List.append_assoc]
    rfl
  | case2 i seen hi =>
    have hle : a.data.toList.length ≤ i := Nat.le_of_not_lt hi
    rw [ByteArray.toList.loop, if_neg hi, List.drop_eq_nil_of_le hle, List.append_nil]

/-- The bytes of a text without the loop that gathers them. -/
theorem encode_eq_data (s : String) : encode s = s.toByteArray.data.toList := by
  rw [encode, String.toUTF8_eq_toByteArray, ByteArray.toList, toList_loop]
  rfl

theorem decode_eq_ok {b : Bytes} {s : String} : decode b = .ok s ↔ b = encode s := by
  unfold decode
  rw [encode_eq_data, String.fromUTF8?]
  by_cases h : ByteArray.IsValidUTF8 ⟨b.toArray⟩
  · simp only [h, ↓reduceDIte, Except.ok.injEq, ← String.toByteArray_inj, String.fromUTF8]
    constructor
    · intro e
      rw [← e]
    · intro e
      rw [e]
  · simp only [h, ↓reduceDIte, reduceCtorEq, false_iff]
    rintro rfl
    exact h s.isValidUTF8

theorem encode_injective : Function.Injective encode := by
  intro s t h
  have hs : decode (encode s) = .ok s := decode_eq_ok.mpr rfl
  exact Except.ok.inj (hs.symm.trans (decode_eq_ok.mpr h))

/-- A number that a character has is the number of that character. -/
theorem toNat_charOfNat {n : Nat} (h : n.isValidChar) : (Char.ofNat n).toNat = n := by
  rw [Char.ofNat, dif_pos h]
  rfl

theorem toNat_byte_of_ascii {n : Nat} (h : n < 128) : (UInt8.ofNat n).toNat = n :=
  UInt8.toNat_ofNat_of_lt (Nat.lt_trans h (by decide))

/-- The bytes of some characters. -/
def bytes (cs : List Char) : Bytes := cs.flatMap String.utf8EncodeChar

@[simp] theorem bytes_nil : bytes [] = [] := rfl

theorem bytes_cons (c : Char) (cs : List Char) :
    bytes (c :: cs) = String.utf8EncodeChar c ++ bytes cs := rfl

@[simp] theorem bytes_append (cs ds : List Char) : bytes (cs ++ ds) = bytes cs ++ bytes ds :=
  List.flatMap_append

theorem length_le_length_bytes (cs : List Char) : cs.length ≤ (bytes cs).length := by
  induction cs with
  | nil => exact Nat.le_refl 0
  | cons c cs ih =>
    have hpos : 0 < (String.utf8EncodeChar c).length := by
      rw [String.length_utf8EncodeChar]
      exact Char.utf8Size_pos c
    rw [bytes_cons, List.length_append, List.length_cons]
    omega

theorem encode_eq_bytes (s : String) : encode s = bytes s.toList := by
  have hchars : s.toByteArray = s.toList.utf8Encode := by
    rw [← String.toByteArray_ofList, String.ofList_toList]
  rw [encode_eq_data, hchars, List.utf8Encode, List.data_toByteArray]
  rfl

theorem encode_ofList (cs : List Char) : encode (String.ofList cs) = bytes cs := by
  rw [encode_eq_bytes, String.toList_ofList]

/-- A character of ASCII is one byte. -/
theorem bytes_cons_ascii {c : Char} (h : c.toNat < 128) (cs : List Char) :
    bytes (c :: cs) = UInt8.ofNat c.toNat :: bytes cs := by
  have hval : c.val.toNat ≤ 127 := Nat.le_of_lt_succ h
  rw [bytes_cons, String.utf8EncodeChar]
  simp only [if_pos hval]
  rfl

theorem bytes_ascii {cs : List Char} (h : ∀ c ∈ cs, c.toNat < 128) :
    bytes cs = cs.map fun c => UInt8.ofNat c.toNat := by
  induction cs with
  | nil => rfl
  | cons c cs ih =>
    rw [bytes_cons_ascii (h c List.mem_cons_self), List.map_cons,
      ih fun d hd => h d (List.mem_cons_of_mem c hd)]

/-- A character beyond ASCII has no byte of ASCII. -/
theorem le_of_mem_encodeChar {c : Char} (h : 128 ≤ c.toNat) {b : UInt8}
    (hb : b ∈ String.utf8EncodeChar c) : 128 ≤ b.toNat := by
  have hval : ¬c.val.toNat ≤ 127 := Nat.not_le_of_lt h
  have hbyte (n : Nat) (hn : 128 ≤ n % 256) : 128 ≤ (UInt8.ofNat n).toNat := by
    rwa [UInt8.toNat_ofNat']
  simp only [String.utf8EncodeChar, if_neg hval] at hb
  split at hb
  · simp only [List.mem_cons, List.not_mem_nil, or_false] at hb
    rcases hb with rfl | rfl <;> exact hbyte _ (by omega)
  split at hb
  · simp only [List.mem_cons, List.not_mem_nil, or_false] at hb
    rcases hb with rfl | rfl | rfl <;> exact hbyte _ (by omega)
  · simp only [List.mem_cons, List.not_mem_nil, or_false] at hb
    rcases hb with rfl | rfl | rfl | rfl <;> exact hbyte _ (by omega)

end ChainRollback.Utf8
