import ChainRollback.Proofs.Text.Hex

/-! # Upper-case digits and the first fault

Written bytes consist of upper-case digits, two for each. A text is read as some bytes exactly if it
is their written form but for the case of its letters. Every other text has a fault: an odd number
of bytes, which counts before all others, or else the first byte that is no digit.
-/
namespace ChainRollback.Hex

def IsUpperDigit (c : Char) : Prop :=
  0x30 ≤ c.toNat ∧ c.toNat ≤ 0x39 ∨ 0x41 ≤ c.toNat ∧ c.toNat ≤ 0x46

/-- The letters `a` to `f` in upper case, and all other characters as they are. -/
def upper (c : Char) : Char :=
  if 0x61 ≤ c.toNat ∧ c.toNat ≤ 0x66 then Char.ofNat (c.toNat - 0x20) else c

def upperText (s : String) : String := String.ofList (s.toList.map upper)

/-- The byte of a digit in either case. -/
def IsDigitByte (x : UInt8) : Prop :=
  0x30 ≤ x.toNat ∧ x.toNat ≤ 0x39 ∨ 0x41 ≤ x.toNat ∧ x.toNat ≤ 0x46 ∨
    0x61 ≤ x.toNat ∧ x.toNat ≤ 0x66

/-- What is wrong with some bytes as the text of others. -/
inductive Faulty : Bytes → HexFault → Prop where
  | oddLength {x : Bytes} (h : x.length % 2 = 1) : Faulty x .oddLength
  | badByte {front rest : Bytes} {b : UInt8} (heven : (front ++ b :: rest).length % 2 = 0)
    (hfront : ∀ x ∈ front, IsDigitByte x) (hb : ¬IsDigitByte b) :
    Faulty (front ++ b :: rest) (.badByte b front.length)

section
variable {c : Char} {n i : Nat} {cs : List Char} {b : Bytes} {x : UInt8} {xs : Bytes}

theorem toNat_upper (c : Char) : (upper c).toNat =
    if 0x61 ≤ c.toNat ∧ c.toNat ≤ 0x66 then c.toNat - 0x20 else c.toNat := by
  unfold upper
  split
  · exact Utf8.toNat_charOfNat (.inl (by omega))
  · rfl

theorem toNat_digit (h : n < 16) :
    (digit n).toNat = if n < 10 then 0x30 + n else 0x37 + n := by
  unfold digit
  split
  · exact Utf8.toNat_charOfNat (.inl (by omega))
  · exact Utf8.toNat_charOfNat (.inl (by omega))

theorem isUpperDigit_digit (h : n < 16) : IsUpperDigit (digit n) := by
  rw [IsUpperDigit, toNat_digit h]
  split
  · omega
  · omega

/-- The digit of a value is the upper-case form of each digit with that value. -/
theorem upper_eq_digit (h : n < 16) : upper c = digit n ↔ IsDigit c n := by
  rw [← Char.toNat_inj, toNat_upper, toNat_digit h, IsDigit]
  split
  · split <;> omega
  · split <;> omega

theorem map_upper_of_spells (h : Spells cs b) : cs.map upper = b.flatMap digits := by
  induction h with
  | nil => rfl
  | @cons high low h l cs b hh hl _ ih =>
    have hhigh := hh.lt
    have hlow := hl.lt
    have hbyte : (UInt8.ofNat (16 * h + l)).toNat = 16 * h + l :=
      UInt8.toNat_ofNat_of_lt (show 16 * h + l < 256 by omega)
    have hdiv : (16 * h + l) / 16 = h := by omega
    have hmod : (16 * h + l) % 16 = l := by omega
    rw [List.map_cons, List.map_cons, List.flatMap_cons, digits, hbyte, hdiv, hmod, ih,
      (upper_eq_digit hhigh).mpr hh, (upper_eq_digit hlow).mpr hl]
    rfl

theorem spells_of_map_upper (h : cs.map upper = b.flatMap digits) : Spells cs b := by
  induction b generalizing cs with
  | nil =>
    cases List.map_eq_nil_iff.mp h
    exact .nil
  | cons x b ih =>
    have hx := x.toNat_lt
    rw [List.flatMap_cons, digits] at h
    obtain ⟨high, cs, rfl, hhigh, h⟩ := List.map_eq_cons_iff.mp h
    obtain ⟨low, cs, rfl, hlow, h⟩ := List.map_eq_cons_iff.mp h
    have hspells := Spells.cons ((upper_eq_digit (by omega)).mp hhigh)
      ((upper_eq_digit (by omega)).mp hlow) (ih h)
    have hnat : 16 * (x.toNat / 16) + x.toNat % 16 = x.toNat := Nat.div_add_mod ..
    rwa [hnat, UInt8.ofNat_toNat] at hspells

/-- A text is read as the bytes whose written form it is up to case. -/
theorem decode_eq_ok_iff_encode {s : String} : decode s = .ok b ↔ encode b = upperText s := by
  rw [decode_eq_ok, encode, upperText, String.ofList_inj]
  exact ⟨fun h => (map_upper_of_spells h).symm, fun h => spells_of_map_upper h.symm⟩

theorem length_digits (b : Bytes) : (b.flatMap digits).length = 2 * b.length := by
  induction b with
  | nil => rfl
  | cons x b ih =>
    rw [List.flatMap_cons, List.length_append, ih]
    change 2 + 2 * b.length = 2 * (b.length + 1)
    omega

theorem length_encode (b : Bytes) : (encode b).length = 2 * b.length := by
  rw [encode, String.length_ofList, length_digits]

theorem isUpperDigit_of_mem_encode (h : c ∈ (encode b).toList) : IsUpperDigit c := by
  rw [encode, String.toList_ofList, List.mem_flatMap] at h
  obtain ⟨x, -, hc⟩ := h
  have hx := x.toNat_lt
  rw [digits, List.mem_cons, List.mem_singleton] at hc
  rcases hc with rfl | rfl
  · exact isUpperDigit_digit (by omega)
  · exact isUpperDigit_digit (by omega)

/-! Faults -/

theorem isDigitByte_iff : IsDigitByte x ↔ ∃ n, value? x = some n := by
  unfold IsDigitByte value?
  split
  · simp_all
  split
  · simp_all
  split
  · simp_all
  · simp_all

theorem value_of_isDigitByte (h : IsDigitByte x) (i : Nat) : ∃ n, value x i = .ok n := by
  obtain ⟨n, hn⟩ := isDigitByte_iff.mp h
  exact ⟨n, value_eq_ok.mpr hn⟩

theorem value_of_not_isDigitByte (h : ¬IsDigitByte x) (i : Nat) :
    value x i = .error (.badByte x i) := by
  rw [isDigitByte_iff, ← Option.isSome_iff_exists, Option.not_isSome_iff_eq_none] at h
  rw [value, h]

/-- Digits are read up to the first byte that is none. -/
theorem decodePairs_of_bad {rest : Bytes} (hx : ¬IsDigitByte x) : ∀ (i : Nat) (front : Bytes),
    (front ++ x :: rest).length % 2 = 0 → (∀ y ∈ front, IsDigitByte y) →
      decodePairs i (front ++ x :: rest) = .error (.badByte x (i + front.length))
  | i, [], heven, _ => by
    cases rest with
    | nil => simp at heven
    | cons low rest =>
      change decodePairs i (x :: low :: rest) = _
      rw [decodePairs, value_of_not_isDigitByte hx]
      rfl
  | i, [y], _, hfront => by
    obtain ⟨n, hn⟩ := value_of_isDigitByte (hfront y List.mem_cons_self) i
    change decodePairs i (y :: x :: rest) = _
    rw [decodePairs, hn, value_of_not_isDigitByte hx]
    rfl
  | i, y :: z :: front, heven, hfront => by
    obtain ⟨n, hn⟩ := value_of_isDigitByte (hfront y List.mem_cons_self) i
    obtain ⟨m, hm⟩ := value_of_isDigitByte (hfront z (by simp)) (i + 1)
    have heven' : (front ++ x :: rest).length % 2 = 0 := by
      simp only [List.cons_append, List.length_cons] at heven
      omega
    have hrest := decodePairs_of_bad hx (i + 2) front heven' fun w hw => hfront w (by simp [hw])
    have hindex : i + 2 + front.length = i + (y :: z :: front).length := by
      simp only [List.length_cons]
      omega
    rw [List.cons_append, List.cons_append, decodePairs, hn, hm, hrest, hindex]
    rfl

/-- Digits in pairs are read. -/
theorem exists_decodePairs {i : Nat} {xs : Bytes} (heven : xs.length % 2 = 0)
    (h : ∀ x ∈ xs, IsDigitByte x) : ∃ b, decodePairs i xs = .ok b := by
  induction i, xs using decodePairs.induct with
  | case1 i => exact ⟨[], rfl⟩
  | case2 i x => simp at heven
  | case3 i high low rest ih =>
    obtain ⟨n, hn⟩ := value_of_isDigitByte (h high List.mem_cons_self) i
    obtain ⟨m, hm⟩ := value_of_isDigitByte (h low (by simp)) (i + 1)
    have heven' : rest.length % 2 = 0 := by
      simp only [List.length_cons] at heven
      omega
    obtain ⟨b, hb⟩ := ih heven' fun x hx => h x (by simp [hx])
    refine ⟨UInt8.ofNat (16 * n + m) :: b, ?_⟩
    rw [decodePairs, hn, hm, hb]
    rfl

/-- Bytes that are not all digits have a first one that is none. -/
theorem exists_first_bad {xs : Bytes} (h : ¬∀ x ∈ xs, IsDigitByte x) :
    ∃ front x rest, xs = front ++ x :: rest ∧ (∀ y ∈ front, IsDigitByte y) ∧ ¬IsDigitByte x := by
  induction xs with
  | nil => simp at h
  | cons y ys ih =>
    by_cases hy : IsDigitByte y
    · have hys : ¬∀ x ∈ ys, IsDigitByte x := fun hys => h (List.forall_mem_cons.mpr ⟨hy, hys⟩)
      obtain ⟨front, x, rest, rfl, hfront, hx⟩ := ih hys
      exact ⟨y :: front, x, rest, rfl, List.forall_mem_cons.mpr ⟨hy, hfront⟩, hx⟩
    · exact ⟨[], y, ys, rfl, by simp, hy⟩

theorem decodeBytes_of_faulty {xs : Bytes} {f : HexFault} (h : Faulty xs f) :
    decodeBytes xs = .error f := by
  cases h with
  | oddLength h => rw [decodeBytes, if_pos h]
  | @badByte front rest x heven hfront hx =>
    have hbad := decodePairs_of_bad hx 0 front heven hfront
    rw [decodeBytes, if_neg (by omega), hbad, Nat.zero_add]

/-- Bytes are digits in pairs, or they have a fault. -/
theorem faulty_cases (xs : Bytes) :
    (xs.length % 2 = 0 ∧ ∀ x ∈ xs, IsDigitByte x) ∨ ∃ f, Faulty xs f := by
  rcases Nat.mod_two_eq_zero_or_one xs.length with heven | hodd
  · by_cases hall : ∀ x ∈ xs, IsDigitByte x
    · exact .inl ⟨heven, hall⟩
    · obtain ⟨front, x, rest, rfl, hfront, hx⟩ := exists_first_bad hall
      exact .inr ⟨_, .badByte heven hfront hx⟩
  · exact .inr ⟨_, .oddLength hodd⟩

theorem exists_decodeBytes {xs : Bytes} (heven : xs.length % 2 = 0)
    (h : ∀ x ∈ xs, IsDigitByte x) : ∃ b, decodeBytes xs = .ok b := by
  rw [decodeBytes, if_neg (by omega)]
  exact exists_decodePairs heven h

theorem exists_decodeBytes_iff {xs : Bytes} :
    (∃ b, decodeBytes xs = .ok b) ↔ xs.length % 2 = 0 ∧ ∀ x ∈ xs, IsDigitByte x := by
  constructor
  · rintro ⟨b, hb⟩
    rcases faulty_cases xs with hdigits | ⟨f, hf⟩
    · exact hdigits
    · cases hb.symm.trans (decodeBytes_of_faulty hf)
  · exact fun h => exists_decodeBytes h.1 h.2

theorem decodeBytes_eq_error {xs : Bytes} {f : HexFault} :
    decodeBytes xs = .error f ↔ Faulty xs f := by
  constructor
  · intro h
    rcases faulty_cases xs with hdigits | ⟨f', hf'⟩
    · obtain ⟨b, hb⟩ := exists_decodeBytes hdigits.1 hdigits.2
      cases h.symm.trans hb
    · cases h.symm.trans (decodeBytes_of_faulty hf')
      exact hf'
  · exact decodeBytes_of_faulty

end

/-- Written bytes are twice as many upper-case digits and are read back. A text is read as bytes
exactly if their written form is the text with its letters in upper case, and it is read at all
exactly if its bytes are an even number of digits. Otherwise it is refused for an odd number of
bytes, or else for the first byte that is no digit, with its place. -/
theorem text_corresponds :
    (∀ b : Bytes, decode (encode b) = .ok b ∧ (encode b).length = 2 * b.length ∧
      (Utf8.encode (encode b)).length = 2 * b.length ∧
      ∀ c ∈ (encode b).toList, IsUpperDigit c) ∧
    (∀ (s : String) (b : Bytes), decode s = .ok b ↔ encode b = upperText s) ∧
    (∀ s : String, (∃ b, decode s = .ok b) ↔
      (Utf8.encode s).length % 2 = 0 ∧ ∀ x ∈ Utf8.encode s, IsDigitByte x) ∧
    ∀ (s : String) (e : FormatError), decode s = .error e ↔
      ∃ f, Faulty (Utf8.encode s) f ∧ e = .invalidHex s f := by
  refine ⟨fun b => ⟨decode_encode b, length_encode b, ?_, fun c => isUpperDigit_of_mem_encode⟩,
    fun s b => decode_eq_ok_iff_encode, fun s => ?_, fun s e => ?_⟩
  · rw [Utf8.encode_eq_bytes, (spells_encode b).bytes, List.length_map, String.length_toList,
      length_encode]
  · rw [← exists_decodeBytes_iff]
    simp only [decode, mapError_eq_ok]
    rfl
  · simp only [decode, mapError_eq_error, ← decodeBytes_eq_error, eq_comm (a := e)]
    rfl

theorem text_corresponds_of_accent :
    (decode (encode [0xDE, 0x01]) = .ok [0xDE, 0x01] ∧ IsUpperDigit 'D') ∧
    decode "dE01" = .ok [0xDE, 0x01] ∧
    ((∃ b, decode "dE0" = .ok b) ↔
      (Utf8.encode "dE0").length % 2 = 0 ∧ ∀ x ∈ Utf8.encode "dE0", IsDigitByte x) ∧
    decode "ab\u00e9" = .error (.invalidHex "ab\u00e9" (.badByte 0xC3 2)) := by
  obtain ⟨hwritten, hread, hdigits, hfaults⟩ := text_corresponds
  have hbytes : Utf8.encode "ab\u00e9" = [0x61, 0x62] ++ 0xC3 :: [0xA9] := by decide +kernel
  refine ⟨⟨(hwritten _).1, (hwritten [0xDE, 0x01]).2.2.2 'D' (by decide)⟩,
    (hread _ _).mpr (by decide +kernel), hdigits _, (hfaults _ _).mpr ⟨_, ?_, rfl⟩⟩
  rw [hbytes]
  refine .badByte rfl ?_ ?_
  · simp [IsDigitByte]
  · simp [IsDigitByte]

end ChainRollback.Hex
