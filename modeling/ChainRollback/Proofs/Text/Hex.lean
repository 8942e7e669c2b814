import ChainRollback.Proofs.Outcome
import ChainRollback.Proofs.Text.Utf8
import ChainRollback.Text.Hex

/-! # Hexadecimal text stands for bytes

A text is read as bytes exactly if its characters are two digits of either case for each of them.
Written bytes are such a text, so they are read back.
-/
namespace ChainRollback.Hex

/-- A digit, in either case, and its value. -/
def IsDigit (c : Char) (n : Nat) : Prop :=
  n < 10 ∧ c.toNat = 0x30 + n ∨
    10 ≤ n ∧ n < 16 ∧ (c.toNat = 0x41 + (n - 10) ∨ c.toNat = 0x61 + (n - 10))

/-- Some characters are two digits for each of some bytes. -/
inductive Spells : List Char → Bytes → Prop where
  | nil : Spells [] []
  | cons {high low : Char} {h l : Nat} {cs : List Char} {b : Bytes} (hh : IsDigit high h)
    (hl : IsDigit low l) (hs : Spells cs b) :
    Spells (high :: low :: cs) (UInt8.ofNat (16 * h + l) :: b)

section
variable {c : Char} {n m : Nat} {cs : List Char} {b b' : Bytes}

theorem IsDigit.lt (h : IsDigit c n) : n < 16 := by
  unfold IsDigit at h
  omega

theorem IsDigit.ascii (h : IsDigit c n) : c.toNat < 128 := by
  unfold IsDigit at h
  omega

theorem isDigit_digit (h : n < 16) : IsDigit (digit n) n := by
  unfold digit
  split
  · rw [IsDigit, Utf8.toNat_charOfNat (.inl (by omega))]
    omega
  · rw [IsDigit, Utf8.toNat_charOfNat (.inl (by omega))]
    omega

/-- The value of a byte is that of the character it is. -/
theorem value?_eq_some {x : UInt8} : value? x = some n ↔ IsDigit (Char.ofNat x.toNat) n := by
  have hx := x.toNat_lt
  unfold value? IsDigit
  rw [Utf8.toNat_charOfNat (.inl (by omega))]
  split
  · rw [Option.some.injEq]
    omega
  split
  · rw [Option.some.injEq]
    omega
  split
  · rw [Option.some.injEq]
    omega
  · simp only [reduceCtorEq, false_iff]
    omega

theorem value?_of_isDigit (h : IsDigit c n) : value? (UInt8.ofNat c.toNat) = some n := by
  rw [value?_eq_some, Utf8.toNat_byte_of_ascii h.ascii, Char.ofNat_toNat]
  exact h

theorem value_eq_ok {x : UInt8} {i : Nat} : value x i = .ok n ↔ value? x = some n := by
  unfold value
  cases value? x <;> simp

theorem Spells.bytes (h : Spells cs b) : Utf8.bytes cs = cs.map fun c => UInt8.ofNat c.toNat := by
  induction h with
  | nil => rfl
  | cons hh hl _ ih =>
    rw [Utf8.bytes_cons_ascii hh.ascii, Utf8.bytes_cons_ascii hl.ascii, ih]
    rfl

theorem Spells.length_even (h : Spells cs b) : cs.length % 2 = 0 := by
  induction h with
  | nil => rfl
  | cons _ _ _ ih =>
    rw [List.length_cons, List.length_cons]
    omega

theorem Spells.exists_isDigit (h : Spells cs b) : ∀ c ∈ cs, ∃ n, IsDigit c n := by
  induction h with
  | nil => simp
  | cons hh hl _ ih =>
    simp only [List.forall_mem_cons]
    exact ⟨⟨_, hh⟩, ⟨_, hl⟩, ih⟩

theorem decodePairs_of_spells (h : Spells cs b) (i : Nat) :
    decodePairs i (Utf8.bytes cs) = .ok b := by
  induction h generalizing i with
  | nil => rfl
  | cons hh hl _ ih =>
    have hhigh := value_eq_ok (i := i) |>.mpr (value?_of_isDigit hh)
    have hlow := value_eq_ok (i := i + 1) |>.mpr (value?_of_isDigit hl)
    rw [Utf8.bytes_cons_ascii hh.ascii, Utf8.bytes_cons_ascii hl.ascii, decodePairs, hhigh, hlow,
      ih]
    rfl

/-- What is read as bytes are digits that spell them. -/
theorem exists_spells {i : Nat} {x : Bytes} (h : decodePairs i x = .ok b) :
    ∃ cs, Spells cs b ∧ x = Utf8.bytes cs := by
  induction i, x using decodePairs.induct generalizing b with
  | case1 i =>
    cases h
    exact ⟨[], .nil, rfl⟩
  | case2 i x => cases h
  | case3 i high low rest ih =>
    simp only [decodePairs, bind_eq_ok, value_eq_ok, value?_eq_some, pure_eq_ok] at h
    obtain ⟨h, hh, l, hl, b, hrest, rfl⟩ := h
    obtain ⟨cs, hs, rfl⟩ := ih hrest
    refine ⟨_, .cons hh hl hs, ?_⟩
    have hhigh := Utf8.toNat_charOfNat (n := high.toNat) (.inl (by have := high.toNat_lt; omega))
    have hlow := Utf8.toNat_charOfNat (n := low.toNat) (.inl (by have := low.toNat_lt; omega))
    rw [Utf8.bytes_cons_ascii hh.ascii, Utf8.bytes_cons_ascii hl.ascii, hhigh, hlow,
      UInt8.ofNat_toNat, UInt8.ofNat_toNat]

theorem decode_eq_ok {s : String} : decode s = .ok b ↔ Spells s.toList b := by
  have hbytes : s.toUTF8.toList = Utf8.bytes s.toList := Utf8.encode_eq_bytes s
  rw [decode, mapError_eq_ok, decodeBytes, hbytes]
  constructor
  · intro h
    split at h
    · cases h
    obtain ⟨cs, hs, he⟩ := exists_spells h
    have hcs : s = String.ofList cs :=
      Utf8.encode_injective (by rw [Utf8.encode_eq_bytes, he, Utf8.encode_ofList])
    rwa [hcs, String.toList_ofList]
  · intro h
    have heven := h.length_even
    rw [if_neg (by rw [h.bytes, List.length_map]; omega)]
    exact decodePairs_of_spells h 0

theorem spells_digits (b : Bytes) : Spells (b.flatMap digits) b := by
  induction b with
  | nil => exact .nil
  | cons x b ih =>
    have hx := x.toNat_lt
    have hspells := Spells.cons (isDigit_digit (n := x.toNat / 16) (by omega))
      (isDigit_digit (n := x.toNat % 16) (by omega)) ih
    have hnat : 16 * (x.toNat / 16) + x.toNat % 16 = x.toNat := Nat.div_add_mod ..
    rw [hnat, UInt8.ofNat_toNat] at hspells
    exact hspells

theorem spells_encode (b : Bytes) : Spells (encode b).toList b := by
  rw [encode, String.toList_ofList]
  exact spells_digits b

theorem decode_encode (b : Bytes) : decode (encode b) = .ok b := decode_eq_ok.mpr (spells_encode b)

/-- A text of odd length or with another character than a digit spells nothing. -/
theorem not_spells {s : String} (h : s.length % 2 = 1 ∨ ∃ c ∈ s.toList, ∀ n, ¬IsDigit c n) :
    ¬Spells s.toList b := by
  intro hs
  rcases h with hodd | ⟨c, hc, hnot⟩
  · have heven := hs.length_even
    rw [String.length_toList] at heven
    omega
  · obtain ⟨n, hn⟩ := hs.exists_isDigit c hc
    exact hnot n hn

end
end ChainRollback.Hex
