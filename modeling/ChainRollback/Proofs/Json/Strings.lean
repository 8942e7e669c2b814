import ChainRollback.Json.Text
import ChainRollback.Proofs.Json.Grammar

/-! # Strings are read as their characters

A string is read one byte at a time. Whichever way its characters are written, reading it gives
their bytes, and passing over it ends behind its closing quote.
-/
namespace ChainRollback.Json

/-- A byte that stands for itself. -/
def IsPlainByte (b : UInt8) : Prop := ¬b < 0x20 ∧ b ≠ 0x22 ∧ b ≠ 0x5C

section
variable {s cs u : List Char} {n : Nat}

theorem isPlainByte_of_toNat {b : UInt8} (hcontrol : 0x20 ≤ b.toNat) (hquote : b.toNat ≠ 0x22)
    (hslash : b.toNat ≠ 0x5C) : IsPlainByte b := by
  refine ⟨Nat.not_lt_of_le hcontrol, ?_, ?_⟩
  · rintro rfl
    exact hquote rfl
  · rintro rfl
    exact hslash rfl

theorem isPlainByte_of_isPlain {c : Char} (h : IsPlain c) {b : UInt8}
    (hb : b ∈ String.utf8EncodeChar c) : IsPlainByte b := by
  obtain ⟨hcontrol, hquote, hslash⟩ := h
  have hcontrol : 0x20 ≤ c.toNat := hcontrol
  rcases Nat.lt_or_ge c.toNat 128 with hascii | hbeyond
  · have hbytes := Utf8.bytes_cons_ascii hascii []
    rw [Utf8.bytes_cons, Utf8.bytes_nil, List.append_nil] at hbytes
    rw [hbytes, List.mem_singleton] at hb
    have hnat : b.toNat = c.toNat := by rw [hb, Utf8.toNat_byte_of_ascii hascii]
    refine isPlainByte_of_toNat (by omega) ?_ ?_
    · rw [hnat]
      exact fun he => hquote (Char.toNat_inj.mp he)
    · rw [hnat]
      exact fun he => hslash (Char.toNat_inj.mp he)
  · have hle := Utf8.le_of_mem_encodeChar hbeyond hb
    exact isPlainByte_of_toNat (by omega) (by omega) (by omega)

theorem shortEscape?_of_mem {e c : Char} (h : (e, c) ∈ shortEscapes) :
    e.toNat < 128 ∧ c.toNat < 128 ∧ UInt8.ofNat e.toNat ≠ 0x75 ∧
      shortEscape? (UInt8.ofNat e.toNat) = some (UInt8.ofNat c.toNat) := by
  have hall : ∀ p ∈ shortEscapes, p.1.toNat < 128 ∧ p.2.toNat < 128 ∧
      UInt8.ofNat p.1.toNat ≠ 0x75 ∧
      shortEscape? (UInt8.ofNat p.1.toNat) = some (UInt8.ofNat p.2.toNat) := by decide
  exact hall _ h

theorem UnitForm.exists_bytes (h : UnitForm u n) :
    ∃ w x y z, Utf8.bytes u = [w, x, y, z] ∧ hexUnit? [w, x, y, z] = some n := by
  cases h with
  | @mk a b c d i j k l ha hb hc hd =>
    have hbytes : Utf8.bytes [a, b, c, d] = [UInt8.ofNat a.toNat, UInt8.ofNat b.toNat,
        UInt8.ofNat c.toNat, UInt8.ofNat d.toNat] :=
      Utf8.bytes_ascii (by simp [ha.ascii, hb.ascii, hc.ascii, hd.ascii])
    refine ⟨_, _, _, _, hbytes, ?_⟩
    simp only [hexUnit?, List.foldlM_cons, List.foldlM_nil, Hex.value?_of_isDigit ha,
      Hex.value?_of_isDigit hb, Hex.value?_of_isDigit hc, Hex.value?_of_isDigit hd]
    simp

section
variable {state next : StringState} {b : UInt8} {done text content rest : Bytes}

/-- A byte that is not the closing quote moves the reader one step on. -/
theorem readContent_cons (hb : (state.isPlain && b == 0x22) = false)
    (h : state.step b = .ok (next, done)) (hr : readContent next text = .ok (content, rest)) :
    readContent state (b :: text) = .ok (done ++ content, rest) := by
  rw [readContent, hb, if_neg Bool.false_ne_true, h]
  simp only [hr]

/-- Inside an escape most bytes complete nothing. -/
theorem readContent_inside (hb : state.isPlain = false) (h : state.step b = .ok (next, []))
    (hr : readContent next text = .ok (content, rest)) :
    readContent state (b :: text) = .ok (content, rest) := by
  have hnot : (state.isPlain && b == 0x22) = false := by rw [hb, Bool.false_and]
  exact readContent_cons hnot h hr

theorem readContent_escape (hr : readContent .escape text = .ok (content, rest)) :
    readContent .plain (0x5C :: text) = .ok (content, rest) := by
  have hstep : StringState.step 0x5C .plain = .ok (.escape, []) := rfl
  exact readContent_cons rfl hstep hr

theorem readContent_plain {xs : Bytes} (h : ∀ b ∈ xs, IsPlainByte b)
    (hr : readContent .plain text = .ok (content, rest)) :
    readContent .plain (xs ++ text) = .ok (xs ++ content, rest) := by
  induction xs with
  | nil => exact hr
  | cons b xs ih =>
    obtain ⟨hcontrol, hquote, hslash⟩ := h b List.mem_cons_self
    have hstep : StringState.step b .plain = .ok (.plain, [b]) := by
      rw [StringState.step, if_neg hslash, if_neg hcontrol]
    have htail := ih fun x hx => h x (List.mem_cons_of_mem b hx)
    have hnot : (StringState.isPlain .plain && b == 0x22) = false := by simp [hquote]
    have hcons := readContent_cons hnot hstep htail
    exact hcons

/-- The escape of a number that is a character. -/
theorem readContent_unit {w x y z : UInt8} (hunit : hexUnit? [w, x, y, z] = some n)
    (hn : n.isValidChar) (hr : readContent .plain text = .ok (content, rest)) :
    readContent .plain (0x5C :: 0x75 :: w :: x :: y :: z :: text) =
      .ok (charBytes n ++ content, rest) := by
  have hlow : ¬(0xDC00 ≤ n ∧ n ≤ 0xDFFF) := by
    rcases hn with hn | hn <;> omega
  have hhigh : ¬(0xD800 ≤ n ∧ n ≤ 0xDBFF) := by
    rcases hn with hn | hn <;> omega
  have hlast : StringState.step z (.unit [w, x, y]) = .ok (.plain, charBytes n) := by
    simp [StringState.step, hunit, hlow, hhigh]
  apply readContent_escape
  iterate 4 apply readContent_inside rfl rfl
  exact readContent_cons rfl hlast hr

/-- The escapes of a pair of numbers that stand for one character together. -/
theorem readContent_pair {w x y z w' x' y' z' : UInt8} {m : Nat}
    (hunit : hexUnit? [w, x, y, z] = some m) (hunit' : hexUnit? [w', x', y', z'] = some n)
    (hm : 0xD800 ≤ m ∧ m < 0xDC00) (hn : 0xDC00 ≤ n ∧ n < 0xE000)
    (hr : readContent .plain text = .ok (content, rest)) :
    readContent .plain (0x5C :: 0x75 :: w :: x :: y :: z :: 0x5C :: 0x75 :: w' :: x' :: y' :: z' ::
      text) = .ok (charBytes (0x10000 + 0x400 * (m - 0xD800) + (n - 0xDC00)) ++ content, rest) := by
  have hlow : ¬(0xDC00 ≤ m ∧ m ≤ 0xDFFF) := by omega
  have hhigh : 0xD800 ≤ m ∧ m ≤ 0xDBFF := by omega
  have hin : ¬(n < 0xDC00 ∨ 0xDFFF < n) := by omega
  have hfirst : StringState.step z (.unit [w, x, y]) = .ok (.pairSlash m, []) := by
    simp [StringState.step, hunit, hlow, hhigh]
  have hlast : StringState.step z' (.pairUnit m [w', x', y']) =
      .ok (.plain, charBytes (0x10000 + 0x400 * (m - 0xD800) + (n - 0xDC00))) := by
    simp [StringState.step, hunit', hin]
  apply readContent_escape
  iterate 4 apply readContent_inside rfl rfl
  apply readContent_inside rfl hfirst
  iterate 5 apply readContent_inside rfl rfl
  exact readContent_cons rfl hlast hr

end

/-- A string is read up to its closing quote as the bytes of its characters. -/
theorem readContent_of_stringForm (h : StringForm s cs) (rest : Bytes) :
    readContent .plain (Utf8.bytes s ++ 0x22 :: rest) = .ok (Utf8.bytes cs, rest) := by
  induction h with
  | nil => rfl
  | plain hc _ ih =>
    rw [Utf8.bytes_cons, Utf8.bytes_cons, List.append_assoc]
    exact readContent_plain (fun b => isPlainByte_of_isPlain hc) ih
  | @short e c s cs he _ ih =>
    obtain ⟨hascii, hascii', hunit, hshort⟩ := shortEscape?_of_mem he
    have hstep : StringState.step (UInt8.ofNat e.toNat) .escape =
        .ok (.plain, [UInt8.ofNat c.toNat]) := by
      rw [StringState.step, if_neg hunit, hshort]
    rw [Utf8.bytes_cons_ascii (by decide), Utf8.bytes_cons_ascii hascii,
      Utf8.bytes_cons_ascii hascii']
    exact readContent_escape (readContent_cons rfl hstep ih)
  | @unit u s cs n hu hn _ ih =>
    obtain ⟨w, x, y, z, hbytes, hunit⟩ := hu.exists_bytes
    rw [Utf8.bytes_cons_ascii (by decide), Utf8.bytes_cons_ascii (by decide), Utf8.bytes_append,
      hbytes]
    exact readContent_unit hunit hn ih
  | @pair u v s cs m n hu hv hm hn _ ih =>
    obtain ⟨w, x, y, z, hbytes, hunit⟩ := hu.exists_bytes
    obtain ⟨w', x', y', z', hbytes', hunit'⟩ := hv.exists_bytes
    rw [Utf8.bytes_cons_ascii (by decide), Utf8.bytes_cons_ascii (by decide), Utf8.bytes_append,
      Utf8.bytes_cons_ascii (by decide), Utf8.bytes_cons_ascii (by decide), Utf8.bytes_append,
      hbytes, hbytes']
    exact readContent_pair hunit hunit' hm hn ih

theorem readString_of_stringForm (h : StringForm s cs) (rest : Bytes) :
    readString (Utf8.bytes s ++ 0x22 :: rest) = .ok (String.ofList cs, rest) := by
  have hdecode : Utf8.decode (Utf8.bytes cs) = .ok (String.ofList cs) :=
    Utf8.decode_eq_ok.mpr (Utf8.encode_ofList cs).symm
  rw [readString, readContent_of_stringForm h]
  simp only [hdecode]

section
variable {text : Bytes}

theorem skipString_plain {xs : Bytes} (h : ∀ b ∈ xs, IsPlainByte b) (text : Bytes) :
    skipString .plain (xs ++ text) = skipString .plain text := by
  induction xs with
  | nil => rfl
  | cons b xs ih =>
    obtain ⟨hcontrol, hquote, hslash⟩ := h b List.mem_cons_self
    rw [List.cons_append, skipString, if_neg hquote, if_neg hslash, if_neg hcontrol,
      ih fun x hx => h x (List.mem_cons_of_mem b hx)]

theorem skipString_unit {w x y z : UInt8} (hunit : hexUnit? [w, x, y, z] = some n) :
    skipString .plain (0x5C :: 0x75 :: w :: x :: y :: z :: text) = skipString .plain text := by
  simp [skipString, hunit]

end

/-- Passing over what is written like a string ends behind its closing quote. -/
theorem skipString_of_stringLike (h : StringLike s) (rest : Bytes) :
    skipString .plain (Utf8.bytes s ++ 0x22 :: rest) = .ok rest := by
  induction h with
  | nil => rfl
  | plain hc _ ih =>
    rw [Utf8.bytes_cons, List.append_assoc,
      skipString_plain fun b => isPlainByte_of_isPlain hc, ih]
  | @short e c s he _ ih =>
    obtain ⟨hascii, -, hunit, hshort⟩ := shortEscape?_of_mem he
    rw [Utf8.bytes_cons_ascii (by decide), Utf8.bytes_cons_ascii hascii]
    have hescape : skipString .escape (UInt8.ofNat e.toNat :: (Utf8.bytes s ++ 0x22 :: rest)) =
        .ok rest := by
      rw [skipString, if_neg hunit, hshort, Option.isSome_some, if_pos rfl, ih]
    exact hescape
  | @unit u s n hu _ ih =>
    obtain ⟨w, x, y, z, hbytes, hunit⟩ := hu.exists_bytes
    rw [Utf8.bytes_cons_ascii (by decide), Utf8.bytes_cons_ascii (by decide), Utf8.bytes_append,
      hbytes]
    exact (skipString_unit hunit).trans ih

end
end ChainRollback.Json
