import ChainRollback.Proofs.Json.Numbers
import ChainRollback.Proofs.Toml.Forms
import ChainRollback.Toml.Document

/-! # Values at the end of a line

A value is read up to the end of its line. For a string this follows from its form. The digits of a
number are no date, no time and none of the words that a value may be, and they are read as the
integer if it has 64 bits with a sign.
-/
namespace ChainRollback.Toml

/-- A text is read as a value wherever a line ends behind it. -/
structure ReadsAs (value : List Char) (item : Item) : Prop where
  /-- It does not begin with a blank. -/
  start : ∀ rest, skipBlanks (value ++ '\n' :: rest) = value ++ '\n' :: rest
  reads : ∀ fuel rest, readValue (fuel + 1) 0 (value ++ '\n' :: rest) = some (item, '\n' :: rest)

section
variable {c d : Char} {s rest : List Char} {n : Nat}

/-- Characters that a test tells apart are different. -/
theorem ne_of_holds {p : Char → Bool} (h : p c = true) (hd : p d = false) : c ≠ d := by
  rintro rfl
  cases h.symm.trans hd

theorem isBlank_of_holds {p : Char → Bool} (h : p c = true) (hspace : p ' ' = false)
    (htab : p '\t' = false) : isBlank c = false := by
  have hs : c ≠ ' ' := ne_of_holds h hspace
  have ht : c ≠ '\t' := ne_of_holds h htab
  simp [isBlank, hs, ht]

theorem skipBlanks_cons (h : isBlank c = false) (rest : List Char) :
    skipBlanks (c :: rest) = c :: rest := by
  rw [skipBlanks, List.dropWhile_cons_of_neg (by simp [h])]

/-! Strings -/

theorem noQuote_newline (rest : List Char) : NoQuote ('\n' :: rest) := by
  rintro c ⟨⟩
  decide

theorem exists_quote_write (shape : Shape) (s : List Char) :
    ∃ q t, shape.write s = q :: t ∧ (q = '"' ∨ q = '\'') := by
  unfold Shape.write
  split
  · exact ⟨_, _, rfl, .inl rfl⟩
  · exact ⟨_, _, rfl, .inr rfl⟩
  · exact ⟨_, _, rfl, .inl rfl⟩
  · exact ⟨_, _, rfl, .inr rfl⟩

theorem readsAs_text (s : List Char) :
    ReadsAs ((shape s).write s) (.scalar (.text (String.ofList s))) := by
  obtain ⟨q, t, he, hq⟩ := exists_quote_write (shape s) s
  have hblank : isBlank q = false := by
    rcases hq with rfl | rfl <;> rfl
  constructor
  · intro rest
    rw [he]
    exact skipBlanks_cons hblank _
  · intro fuel rest
    have hread := readText_write s (noQuote_newline rest)
    rw [he, List.cons_append] at hread ⊢
    rw [readValue, if_pos hq, hread]
    rfl

/-! Numbers -/

theorem isDigit_iff : isDigit c = true ↔ c.isDigit = true := by
  simp [isDigit, Char.isDigit, Char.le_def]

/-- The values of decimal digits. -/
def digitValues (s : List Char) : List Nat := s.map fun c => c.toNat - 48

theorem digitOf_of_isDigit (h : c.isDigit = true) : digitOf 10 c = some (c.toNat - 48) := by
  have hrange := isDigit_iff.mpr h
  simp only [isDigit, Bool.and_eq_true, decide_eq_true_eq] at hrange
  have hlt : c.toNat - 48 < 10 := by
    have hhigh : c.toNat ≤ 57 := hrange.2
    omega
  simp [digitOf, hexValue?, hrange, hlt]

theorem spanDigits_of_none {base : Nat} (h : digitOf base c = none) (rest : List Char) :
    spanDigits base (c :: rest) = ([], c :: rest) := by
  rw [spanDigits.eq_def]
  simp only [h]

/-- Without an underscore behind it a digit is followed by other digits or by the rest. -/
theorem spanDigits_of_some {base : Nat} (h : digitOf base c = some n)
    (hrest : rest.head? ≠ some '_') :
    spanDigits base (c :: rest) = (n :: (spanDigits base rest).1, (spanDigits base rest).2) := by
  rw [spanDigits, h]
  rintro e more rfl
  exact hrest rfl

theorem spanDigits_append (h : ∀ c ∈ s, c.isDigit = true) (rest : List Char) :
    spanDigits 10 (s ++ '\n' :: rest) = (digitValues s, '\n' :: rest) := by
  induction s with
  | nil => exact spanDigits_of_none rfl rest
  | cons c s ih =>
    obtain ⟨hc, hs⟩ := List.forall_mem_cons.mp h
    have hhead : (s ++ '\n' :: rest).head? ≠ some '_' := by
      cases s with
      | nil => simp
      | cons d s =>
        have hd := ne_of_holds (hs d List.mem_cons_self) (d := '_') rfl
        simpa using hd
    rw [List.cons_append, spanDigits_of_some (digitOf_of_isDigit hc) hhead, ih hs]
    rfl

theorem valueOf_digitValues (s : List Char) :
    valueOf 10 (digitValues s) = Nat.ofDigitChars 10 s 0 := by
  rw [valueOf, digitValues, List.foldl_map]
  rfl

theorem readWhole_of_whole (h : Json.Whole s) (rest : List Char) :
    readWhole (s ++ '\n' :: rest) = some (digitValues s, '\n' :: rest) := by
  cases h with
  | zero => rfl
  | @digits c s hc h =>
    have hspan := spanDigits_append h.2 rest
    rw [List.cons_append] at hspan ⊢
    rw [readWhole, hspan]
    · rfl
    · rintro _ ⟨⟩
      exact hc rfl

theorem expect_of_head? (h : rest.head? ≠ some c) : expect c rest = none := by
  cases rest with
  | nil => rfl
  | cons d rest =>
    have hd : d ≠ c := by simpa using h
    exact if_neg hd

/-- What stands behind a field of digits is another digit or the end of the line. -/
theorem expect_of_readField {w low high : Nat} {front : List Char}
    (h : ∀ c ∈ s, c.isDigit = true) (hd : d.isDigit = false) (hnew : '\n' ≠ d)
    (hread : readField w low high (s ++ '\n' :: rest) = some (n, front)) :
    expect d front = none := by
  simp only [readField] at hread
  split at hread
  · rename_i hfield
    have hle : w ≤ s.length := by
      refine Nat.le_of_not_lt fun hlt => ?_
      have hmem : '\n' ∈ (s ++ '\n' :: rest).take w := by
        rw [List.take_append, List.mem_append, List.take_cons (by omega)]
        exact .inr List.mem_cons_self
      cases List.all_eq_true.mp hfield.2 _ hmem
    have hfront : (s ++ '\n' :: rest).drop w = front := by
      split at hread
      · exact (Prod.ext_iff.mp (Option.some.inj hread)).2
      · cases hread
    rw [← hfront, List.drop_append_of_le_length hle]
    apply expect_of_head?
    cases hdrop : s.drop w with
    | nil => simpa using hnew
    | cons c t =>
      have hc := h c (List.mem_of_mem_drop (hdrop ▸ List.mem_cons_self))
      simpa using ne_of_holds hc hd
  · cases hread

theorem readDateTime_of_digits (h : ∀ c ∈ s, c.isDigit = true) (rest : List Char) :
    readDateTime (s ++ '\n' :: rest) = none := by
  have hdate : readDate (s ++ '\n' :: rest) = none := by
    rw [readDate]
    cases hfield : readField 4 0 9999 (s ++ '\n' :: rest) with
    | none => rfl
    | some r =>
      have hexpect := expect_of_readField h (d := '-') rfl (by decide) hfield
      simp only [bind, Option.bind, hexpect]
  have htime : readTime (s ++ '\n' :: rest) = none := by
    rw [readTime]
    cases hfield : readField 2 0 23 (s ++ '\n' :: rest) with
    | none => rfl
    | some r =>
      have hexpect := expect_of_readField h (d := ':') rfl (by decide) hfield
      simp only [bind, Option.bind, hexpect]
  rw [readDateTime, hdate, htime]
  rfl

/-- A whole number begins with a digit and consists of digits. -/
theorem exists_of_whole (h : Json.Whole s) :
    ∃ c t, s = c :: t ∧ c.isDigit = true ∧ ∀ d ∈ s, d.isDigit = true := by
  cases h with
  | zero => exact ⟨'0', [], rfl, rfl, by simp⟩
  | @digits c s _ h => exact ⟨c, s, rfl, h.2 c List.mem_cons_self, h.2⟩

theorem readSign_of_isDigit (h : c.isDigit = true) (rest : List Char) :
    readSign (c :: rest) = (none, c :: rest) := by
  unfold readSign
  split
  · rename_i he
    exact absurd (List.cons.inj he).1 (ne_of_holds h rfl)
  · rename_i he
    exact absurd (List.cons.inj he).1 (ne_of_holds h rfl)
  · rfl

theorem takeWord_of_isDigit {word : List Char} (h : c.isDigit = true) (hd : d.isDigit = false)
    (rest : List Char) : takeWord (d :: word) (c :: rest) = none := by
  have hne := ne_of_holds h hd
  rw [takeWord, if_neg]
  simp [hne.symm]

theorem readSpecial_of_isDigit (h : c.isDigit = true) (rest : List Char) :
    readSpecial (c :: rest) = none := by
  simp only [readSpecial, readSign_of_isDigit h]
  rw [takeWord_of_isDigit h rfl, takeWord_of_isDigit h rfl]
  rfl

theorem readDecimal_of_readWhole {text : List Char} {digits : List Nat}
    (hsign : readSign text = (none, text)) (hwhole : readWhole text = some (digits, rest))
    (hfraction : readFraction rest = some (none, rest))
    (hexponent : readExponent rest = some (none, rest)) :
    readDecimal text = (bounded (valueOf 10 digits)).map fun x => (x, rest) := by
  have hnegative : ((none : Option Char) == some '-') = false := rfl
  rw [readDecimal, hsign]
  dsimp only
  rw [hwhole, Option.bind_eq_bind, Option.bind_some]
  dsimp only
  rw [hfraction, Option.bind_eq_bind, Option.bind_some]
  dsimp only
  rw [hexponent, Option.bind_eq_bind, Option.bind_some]
  dsimp only
  rw [if_pos ⟨rfl, rfl⟩, hnegative, if_neg Bool.false_ne_true, Option.map_eq_bind]
  rfl

theorem readPlain_of_none {text : List Char}
    (hmark : ∀ c ∈ ['x', 'o', 'b'], ∀ more, text ≠ '0' :: c :: more)
    (htrue : takeWord ['t', 'r', 'u', 'e'] text = none)
    (hfalse : takeWord ['f', 'a', 'l', 's', 'e'] text = none)
    (hdate : readDateTime text = none) (hspecial : readSpecial text = none) :
    readPlain text = readDecimal text := by
  unfold readPlain
  split
  · exact absurd rfl (hmark 'x' (by simp) _)
  · exact absurd rfl (hmark 'o' (by simp) _)
  · exact absurd rfl (hmark 'b' (by simp) _)
  · rw [htrue, hfalse, hdate, hspecial]
    simp only [Option.map_none, Option.orElse_eq_orElse, Option.orElse_eq_or, Option.none_or]

/-- The mark of another base does not follow a zero that stands alone. -/
theorem ne_mark_of_whole (h : Json.Whole s) (hc : c ≠ '\n') (rest more : List Char) :
    s ++ '\n' :: rest ≠ '0' :: c :: more := by
  cases h with
  | zero =>
    rintro ⟨⟩
    exact hc rfl
  | digits hne _ => exact fun he => hne (List.cons.inj he).1

theorem readPlain_of_whole (h : Json.Whole s) (rest : List Char) :
    readPlain (s ++ '\n' :: rest) =
      (bounded (valueOf 10 (digitValues s))).map fun x => (x, '\n' :: rest) := by
  have hmark : ∀ c ∈ ['x', 'o', 'b'], ∀ more, s ++ '\n' :: rest ≠ '0' :: c :: more :=
    fun c hc more => ne_mark_of_whole h (by rintro rfl; simp at hc) rest more
  obtain ⟨c, t, he, hc, hall⟩ := exists_of_whole h
  have hdate := readDateTime_of_digits hall rest
  have hwhole := readWhole_of_whole h rest
  rw [he, List.cons_append] at hmark hdate hwhole ⊢
  rw [readPlain_of_none hmark (takeWord_of_isDigit hc rfl _) (takeWord_of_isDigit hc rfl _) hdate
    (readSpecial_of_isDigit hc _)]
  exact readDecimal_of_readWhole (readSign_of_isDigit hc _) hwhole rfl rfl

/-- A number of 63 bits is read as it was written. -/
theorem readsAs_integer (hn : n < 0x8000000000000000) :
    ReadsAs (Nat.toDigits 10 n) (.scalar (.integer n)) := by
  have hwhole := Json.whole_toDigits n
  have hvalue : valueOf 10 (digitValues (Nat.toDigits 10 n)) = n := by
    rw [valueOf_digitValues, Nat.ofDigitChars_toDigits (by decide) (by decide)]
  have hbounded : bounded n = some (.integer n) := if_pos (by omega)
  obtain ⟨c, t, he, hc, -⟩ := exists_of_whole hwhole
  constructor
  · intro rest
    rw [he]
    exact skipBlanks_cons (isBlank_of_holds hc rfl rfl) _
  · intro fuel rest
    have hread := readPlain_of_whole hwhole rest
    rw [hvalue, hbounded] at hread
    rw [he, List.cons_append] at hread ⊢
    rw [readValue, if_neg, if_neg, if_neg, hread]
    · rfl
    · exact ne_of_holds hc rfl
    · exact ne_of_holds hc rfl
    · exact not_or.mpr ⟨ne_of_holds hc rfl, ne_of_holds hc rfl⟩

end
end ChainRollback.Toml
