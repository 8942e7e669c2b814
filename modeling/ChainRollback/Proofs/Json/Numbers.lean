import ChainRollback.Json.Number
import ChainRollback.Proofs.Json.Grammar

/-! # Numbers are read to their end

A number is read up to the first byte that cannot go on with it, whatever its size. The decimal form
of an integer is a number, and one of 64 bits with or without a sign is read as that integer.
-/
namespace ChainRollback.Json

def NoDigit (rest : Bytes) : Prop := ∀ b ∈ rest.head?, isDigit b = false

/-- What stands behind a number does not go on with it. -/
def Stops (rest : Bytes) : Prop :=
  ∀ b ∈ rest.head?, isDigit b = false ∧ b ≠ 0x2E ∧ b ≠ 0x65 ∧ b ≠ 0x45

section
variable {s whole fraction exponent : List Char} {rest : Bytes}

theorem Stops.noDigit (h : Stops rest) : NoDigit rest := fun b hb => (h b hb).1

/-- The values of some digits. -/
def digitValues (s : List Char) : List Nat := (Utf8.bytes s).map digitValue

theorem isDigit_byte {c : Char} (h : c.isDigit = true) :
    c.toNat < 128 ∧ isDigit (UInt8.ofNat c.toNat) = true := by
  have hrange : 48 ≤ c.toNat ∧ c.toNat ≤ 57 := by
    simpa [Char.isDigit, UInt32.le_iff_toNat_le] using h
  refine ⟨by omega, ?_⟩
  simp only [isDigit, Bool.and_eq_true, decide_eq_true_eq, UInt8.le_iff_toNat_le,
    Utf8.toNat_byte_of_ascii (show c.toNat < 128 by omega)]
  exact hrange

theorem bytes_digits (h : ∀ c ∈ s, c.isDigit = true) : ∀ b ∈ Utf8.bytes s, isDigit b = true := by
  rw [Utf8.bytes_ascii fun c hc => (isDigit_byte (h c hc)).1]
  intro b hb
  obtain ⟨c, hc, rfl⟩ := List.mem_map.mp hb
  exact (isDigit_byte (h c hc)).2

theorem Digits.exists_bytes (h : Digits s) : ∃ b bs, Utf8.bytes s = b :: bs ∧ isDigit b = true ∧
    ∀ x ∈ b :: bs, isDigit x = true := by
  obtain ⟨hne, hall⟩ := h
  have hbytes := bytes_digits hall
  cases s with
  | nil => exact absurd rfl hne
  | cons c s =>
    rw [Utf8.bytes_cons_ascii (isDigit_byte (hall c List.mem_cons_self)).1] at hbytes ⊢
    exact ⟨_, _, rfl, hbytes _ List.mem_cons_self, hbytes⟩

theorem spanDigits_append {ds : Bytes} (h : ∀ b ∈ ds, isDigit b = true) (hr : NoDigit rest) :
    spanDigits (ds ++ rest) = (ds.map digitValue, rest) := by
  have hnone : rest.takeWhile isDigit = [] ∧ rest.dropWhile isDigit = rest := by
    cases rest with
    | nil => exact ⟨rfl, rfl⟩
    | cons b rest =>
      have hb := hr b rfl
      simp [hb]
  rw [spanDigits, List.takeWhile_append_of_pos h, List.dropWhile_append_of_pos h, hnone.1, hnone.2,
    List.append_nil]

theorem readDigits_of_digits (h : Digits s) (hr : NoDigit rest) :
    readDigits (Utf8.bytes s ++ rest) = .ok (digitValues s, rest) := by
  obtain ⟨b, bs, hbytes, hb, hall⟩ := h.exists_bytes
  rw [digitValues, hbytes, List.cons_append, readDigits, if_pos hb, ← List.cons_append,
    spanDigits_append hall hr]

theorem readWhole_of_whole (h : Whole s) (hr : NoDigit rest) :
    readWhole (Utf8.bytes s ++ rest) = .ok (digitValues s, rest) := by
  cases h with
  | zero =>
    have hnot : rest.head?.any isDigit = false := by
      cases rest with
      | nil => rfl
      | cons b rest => exact hr b rfl
    change readWhole (0x30 :: rest) = _
    rw [readWhole, if_pos rfl, hnot]
    rfl
  | @digits c s hc h =>
    have hread := readDigits_of_digits h hr
    have hascii := (isDigit_byte (h.2 c List.mem_cons_self)).1
    have hne : UInt8.ofNat c.toNat ≠ 0x30 := by
      intro he
      have hnat := congrArg UInt8.toNat he
      rw [Utf8.toNat_byte_of_ascii hascii] at hnat
      exact hc (Char.toNat_inj.mp hnat)
    rw [Utf8.bytes_cons_ascii hascii, List.cons_append] at hread ⊢
    rw [readWhole, if_neg hne, hread]

theorem readFraction_of_none (h : ∀ b ∈ rest.head?, b ≠ 0x2E) :
    readFraction rest = .ok (none, rest) := by
  unfold readFraction
  split
  · exact absurd rfl (h _ rfl)
  · rfl

theorem readFraction_of_fraction (h : Fraction s) (hr : NoDigit rest)
    (hpoint : ∀ b ∈ rest.head?, b ≠ 0x2E) :
    ∃ digits, readFraction (Utf8.bytes s ++ rest) = .ok (digits, rest) := by
  cases h with
  | none => exact ⟨none, readFraction_of_none hpoint⟩
  | @some s h =>
    refine ⟨some (digitValues s), ?_⟩
    change (readDigits (Utf8.bytes s ++ rest)).map _ = _
    rw [readDigits_of_digits h hr]
    rfl

theorem readExponent_of_none (h : Stops rest) : readExponent rest = .ok (none, rest) := by
  cases rest with
  | nil => rfl
  | cons b rest =>
    obtain ⟨-, -, hlower, hupper⟩ := h b rfl
    simp [readExponent, hlower, hupper]

/-- An exponent is read as its digits behind the letter and the sign. -/
theorem readExponent_letter {e : Char} (he : e = 'e' ∨ e = 'E') {sign : List Char}
    (hsign : sign = [] ∨ sign = ['+'] ∨ sign = ['-']) (h : Digits s) (rest : Bytes) :
    ∃ negative, readExponent (Utf8.bytes (e :: (sign ++ s)) ++ rest) =
      (readDigits (Utf8.bytes s ++ rest)).map fun r => (some (negative, r.1), r.2) := by
  obtain ⟨b, bs, hbytes, hb, -⟩ := h.exists_bytes
  have hplus : b ≠ 0x2B := by
    rintro rfl
    cases hb
  have hminus : b ≠ 0x2D := by
    rintro rfl
    cases hb
  rcases hsign with rfl | rfl | rfl
  · refine ⟨false, ?_⟩
    rw [List.nil_append, hbytes]
    rcases he with rfl | rfl <;> rw [Utf8.bytes_cons_ascii (by decide), hbytes] <;>
      simp [readExponent, hplus, hminus]
  · refine ⟨false, ?_⟩
    rcases he with rfl | rfl <;> rfl
  · refine ⟨true, ?_⟩
    rcases he with rfl | rfl <;> rfl

theorem readExponent_of_exponent (h : Exponent s) (hr : Stops rest) :
    ∃ digits, readExponent (Utf8.bytes s ++ rest) = .ok (digits, rest) := by
  cases h with
  | none => exact ⟨none, readExponent_of_none hr⟩
  | @some e sign s he hsign h =>
    obtain ⟨negative, hletter⟩ := readExponent_letter he hsign h rest
    refine ⟨some (negative, digitValues s), ?_⟩
    rw [hletter, readDigits_of_digits h hr.noDigit]
    rfl

/-- Neither an exponent nor what stops a number goes on with the digits before it. -/
theorem ends_exponent (h : Exponent s) (hr : Stops rest) :
    ∀ b ∈ (Utf8.bytes s ++ rest).head?, isDigit b = false ∧ b ≠ 0x2E := by
  cases h with
  | none => exact fun b hb => ⟨(hr b hb).1, (hr b hb).2.1⟩
  | some he _ _ =>
    rcases he with rfl | rfl
    · rintro b ⟨⟩
      exact ⟨rfl, by decide⟩
    · rintro b ⟨⟩
      exact ⟨rfl, by decide⟩

theorem ends_fraction (h : Fraction s) (hr : NoDigit rest) : NoDigit (Utf8.bytes s ++ rest) := by
  cases h with
  | none => exact hr
  | some _ =>
    rintro b ⟨⟩
    rfl

/-- Every number is read to its end. -/
theorem exists_readNumeral {w f e : List Char} (hw : Whole w) (hf : Fraction f) (he : Exponent e)
    (hr : Stops rest) (negative : Bool) : ∃ n,
    readNumeral negative (Utf8.bytes w ++ (Utf8.bytes f ++ (Utf8.bytes e ++ rest))) =
      .ok (n, rest) := by
  have hends := ends_exponent he hr
  have hnoDigit : NoDigit (Utf8.bytes e ++ rest) := fun b hb => (hends b hb).1
  obtain ⟨fraction, hfraction⟩ :=
    readFraction_of_fraction hf hnoDigit fun b hb => (hends b hb).2
  obtain ⟨exponent, hexponent⟩ := readExponent_of_exponent he hr
  refine ⟨⟨negative, digitValues w, fraction, exponent⟩, ?_⟩
  rw [readNumeral, readWhole_of_whole hw (ends_fraction hf hnoDigit)]
  simp only [bind, Except.bind, hfraction, hexponent]
  rfl

/-- A number without a fraction and an exponent. -/
theorem readNumeral_of_whole (h : Whole s) (hr : Stops rest) (negative : Bool) :
    readNumeral negative (Utf8.bytes s ++ rest) =
      .ok (⟨negative, digitValues s, none, none⟩, rest) := by
  have hfraction := readFraction_of_none fun b hb => (hr b hb).2.1
  rw [readNumeral, readWhole_of_whole h hr.noDigit]
  simp only [bind, Except.bind, hfraction, readExponent_of_none hr]
  rfl

theorem skipNumeral_of_numberForm {w f e : List Char} (hw : Whole w) (hf : Fraction f)
    (he : Exponent e) (hr : Stops rest) :
    skipNumeral (Utf8.bytes w ++ (Utf8.bytes f ++ (Utf8.bytes e ++ rest))) = .ok rest := by
  obtain ⟨n, hn⟩ := exists_readNumeral hw hf he hr false
  rw [skipNumeral, hn]

end

/-! Decimal forms of integers -/

section
variable {n : Nat} {rest : Bytes}

theorem digits_toDigits (n : Nat) : Digits (Nat.toDigits 10 n) :=
  ⟨Nat.toDigits_ne_nil, fun _ hc => Nat.isDigit_of_mem_toDigits (by decide) (by decide) hc⟩

theorem toList_toString_ofNat (n : Nat) : (toString (n : Int)).toList = Nat.toDigits 10 n :=
  String.toList_ofList

theorem toList_toString_negSucc (n : Nat) :
    (toString (Int.negSucc n)).toList = '-' :: Nat.toDigits 10 (n + 1) := by
  have happend : (toString (Int.negSucc n)).toList =
      "-".toList ++ (String.ofList (Nat.toDigits 10 (n + 1))).toList := String.toList_append ..
  exact happend.trans (congrArg ('-' :: ·) String.toList_ofList)

/-- The first digit of a number that is not zero is not zero. -/
theorem head?_toDigits_ne (h : 0 < n) : (Nat.toDigits 10 n).head? ≠ some '0' := by
  induction n using Nat.strongRecOn with
  | ind n ih =>
    rcases Nat.lt_or_ge n 10 with hlt | hge
    · rw [Nat.toDigits_of_lt_base hlt]
      have hall : ∀ k < 10, 0 < k → [k.digitChar].head? ≠ some '0' := by decide
      exact hall n hlt h
    · have hhead := ih (n / 10) (by omega) (by omega)
      rw [Nat.toDigits_of_base_le (by decide) hge]
      cases hfront : Nat.toDigits 10 (n / 10) with
      | nil => exact absurd hfront Nat.toDigits_ne_nil
      | cons c s =>
        rw [hfront] at hhead
        exact hhead

theorem whole_toDigits (n : Nat) : Whole (Nat.toDigits 10 n) := by
  rcases Nat.eq_zero_or_pos n with rfl | hpos
  · exact .zero
  · have hhead := head?_toDigits_ne hpos
    have hdigits := digits_toDigits n
    cases hn : Nat.toDigits 10 n with
    | nil => exact absurd hn Nat.toDigits_ne_nil
    | cons c s =>
      rw [hn] at hhead hdigits
      exact .digits (fun hc => hhead (congrArg some hc)) hdigits

theorem decimalValue_digitValues {s : List Char} (h : ∀ c ∈ s, c.isDigit = true) :
    decimalValue (digitValues s) = Nat.ofDigitChars 10 s 0 := by
  have hascii : ∀ c ∈ s, c.toNat < 128 := fun c hc => (isDigit_byte (h c hc)).1
  have hvalue : ∀ c ∈ s, (digitValue ∘ fun c => UInt8.ofNat c.toNat) c = c.toNat - '0'.toNat :=
    fun c hc => congrArg (· - 0x30) (Utf8.toNat_byte_of_ascii (hascii c hc))
  rw [decimalValue, digitValues, Utf8.bytes_ascii hascii, List.map_map, List.map_congr_left hvalue,
    List.foldl_map]
  rfl

theorem decimalValue_toDigits (n : Nat) : decimalValue (digitValues (Nat.toDigits 10 n)) = n := by
  rw [decimalValue_digitValues (digits_toDigits n).2,
    Nat.ofDigitChars_toDigits (by decide) (by decide)]

/-- An integer of 64 bits is read from its decimal form. -/
theorem readNumber_toDigits (hn : n < UInt64.size) (hr : Stops rest) :
    readNumber false (Utf8.bytes (Nat.toDigits 10 n) ++ rest) = .ok (.integer n, rest) := by
  rw [readNumber, readNumeral_of_whole (whole_toDigits n) hr]
  simp [bind, Except.bind, Numeral.value, Numeral.isInteger, decimalValue_toDigits, hn]

theorem readNumber_neg_toDigits (hpos : 0 < n) (hn : n ≤ 0x8000000000000000) (hr : Stops rest) :
    readNumber true (Utf8.bytes (Nat.toDigits 10 n) ++ rest) = .ok (.integer (-n), rest) := by
  rw [readNumber, readNumeral_of_whole (whole_toDigits n) hr]
  simp [bind, Except.bind, Numeral.value, Numeral.isInteger, decimalValue_toDigits, hn, hpos]

end
end ChainRollback.Json
