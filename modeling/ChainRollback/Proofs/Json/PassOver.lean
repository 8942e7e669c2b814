import ChainRollback.Json.Skip
import ChainRollback.Proofs.Json.Numbers
import ChainRollback.Proofs.Json.Strings

/-! # Values that no record asks for are passed over

Whatever is well formed is passed over in full, however deep it is nested: each level takes two
calls, and its brackets are two characters.
-/
namespace ChainRollback.Json

section
variable {a s : List Char} {rest : Bytes} {b : UInt8}

theorem isBlank_byte {c : Char} (h : c = ' ' ∨ c = '\t' ∨ c = '\n' ∨ c = '\r') :
    c.toNat < 128 ∧ isBlank (UInt8.ofNat c.toNat) = true := by
  rcases h with rfl | rfl | rfl | rfl <;> exact ⟨by decide, rfl⟩

theorem bytes_blanks (h : Blanks a) : ∀ b ∈ Utf8.bytes a, isBlank b = true := by
  rw [Utf8.bytes_ascii fun c hc => (isBlank_byte (h c hc)).1]
  intro b hb
  obtain ⟨c, hc, rfl⟩ := List.mem_map.mp hb
  exact (isBlank_byte (h c hc)).2

theorem skipBlank_blanks (h : Blanks a) (rest : Bytes) :
    skipBlank (Utf8.bytes a ++ rest) = skipBlank rest :=
  List.dropWhile_append_of_pos (bytes_blanks h)

theorem skipBlank_cons (h : isBlank b = false) : skipBlank (b :: rest) = b :: rest :=
  List.dropWhile_cons_of_neg (by simp [h])

theorem skipBlank_skipBlank (text : Bytes) : skipBlank (skipBlank text) = skipBlank text := by
  induction text with
  | nil => rfl
  | cons b text ih =>
    cases hb : isBlank b with
    | true =>
      have hskip : skipBlank (b :: text) = skipBlank text := List.dropWhile_cons_of_pos hb
      rw [hskip, ih]
    | false => rw [skipBlank_cons hb, skipBlank_cons hb]

theorem skipValue_skipBlank (fuel : Nat) (text : Bytes) :
    skipValue fuel (skipBlank text) = skipValue fuel text := by
  cases fuel with
  | zero => rfl
  | succ fuel => rw [skipValue, skipValue, skipBlank_skipBlank]

theorem skipElements_skipBlank (fuel : Nat) (text : Bytes) :
    skipElements fuel (skipBlank text) = skipElements fuel text := by
  cases fuel with
  | zero => rfl
  | succ fuel => rw [skipElements, skipElements, skipValue_skipBlank]

theorem skipMembers_skipBlank (fuel : Nat) (text : Bytes) :
    skipMembers fuel (skipBlank text) = skipMembers fuel text := by
  cases fuel with
  | zero => rfl
  | succ fuel => rw [skipMembers, skipMembers, skipBlank_skipBlank]

/-! What stops a number -/

theorem stops_comma (rest : Bytes) : Stops (0x2C :: rest) := by
  rintro b ⟨⟩
  decide

theorem stops_bracket (rest : Bytes) : Stops (0x5D :: rest) := by
  rintro b ⟨⟩
  decide

theorem stops_brace (rest : Bytes) : Stops (0x7D :: rest) := by
  rintro b ⟨⟩
  decide

theorem stops_blanks (h : Blanks a) (hr : Stops rest) : Stops (Utf8.bytes a ++ rest) := by
  cases a with
  | nil => exact hr
  | cons c a =>
    rcases h c List.mem_cons_self with rfl | rfl | rfl | rfl <;>
    · rintro b ⟨⟩
      decide

/-- Where what is well formed begins: not at a blank and not at a closing bracket. -/
def Opens (text : Bytes) : Prop := ∃ b t, skipBlank text = b :: t ∧ b ≠ 0x5D ∧ b ≠ 0x7D

theorem opens_blanks (h : Blanks a) (hr : Opens rest) : Opens (Utf8.bytes a ++ rest) := by
  rw [Opens, skipBlank_blanks h]
  exact hr

theorem opens_cons (hb : isBlank b = false) (hbracket : b ≠ 0x5D) (hbrace : b ≠ 0x7D) :
    Opens (b :: rest) := ⟨b, rest, skipBlank_cons hb, hbracket, hbrace⟩

theorem ne_of_isDigit (h : isDigit b = true) (x : UInt8) (hx : isDigit x = false) : b ≠ x := by
  rintro rfl
  cases h.symm.trans hx

theorem isBlank_of_isDigit (h : isDigit b = true) : isBlank b = false := by
  have hne := ne_of_isDigit h
  simp [isBlank, hne 0x20 rfl, hne 0x0A rfl, hne 0x09 rfl, hne 0x0D rfl]

theorem opens_digit (h : isDigit b = true) : Opens (b :: rest) :=
  opens_cons (isBlank_of_isDigit h) (ne_of_isDigit h 0x5D rfl) (ne_of_isDigit h 0x7D rfl)

theorem Whole.exists_bytes (h : Whole s) : ∃ b bs, Utf8.bytes s = b :: bs ∧ isDigit b = true := by
  cases h with
  | zero => exact ⟨0x30, [], rfl, rfl⟩
  | digits _ h =>
    obtain ⟨b, bs, hbytes, hb, -⟩ := h.exists_bytes
    exact ⟨b, bs, hbytes, hb⟩

theorem Whole.ne_nil (h : Whole s) : s ≠ [] := by
  cases h <;> simp

theorem NumberForm.opens (h : NumberForm s) (rest : Bytes) : Opens (Utf8.bytes s ++ rest) := by
  obtain ⟨hs, hw, -, -⟩ := h
  obtain ⟨b, bs, hbytes, hb⟩ := hw.exists_bytes
  rcases hs with rfl | rfl
  · rw [List.nil_append, Utf8.bytes_append, hbytes]
    exact opens_digit hb
  · exact opens_cons rfl (by decide) (by decide)

theorem WellFormed.opens {form : Form} (h : WellFormed form s) (rest : Bytes) :
    Opens (Utf8.bytes s ++ rest) := by
  induction h generalizing rest with
  | null => exact opens_cons rfl (by decide) (by decide)
  | true => exact opens_cons rfl (by decide) (by decide)
  | false => exact opens_cons rfl (by decide) (by decide)
  | number h => exact h.opens rest
  | string _ => exact opens_cons rfl (by decide) (by decide)
  | emptyList _ => exact opens_cons rfl (by decide) (by decide)
  | list _ _ => exact opens_cons rfl (by decide) (by decide)
  | emptyObject _ => exact opens_cons rfl (by decide) (by decide)
  | object _ _ => exact opens_cons rfl (by decide) (by decide)
  | padded ha _ _ ih =>
    rw [Utf8.bytes_append, Utf8.bytes_append, List.append_assoc, List.append_assoc]
    exact opens_blanks ha (ih _)
  | lastElement _ ih => exact ih rest
  | element _ _ ih _ =>
    rw [Utf8.bytes_append, List.append_assoc]
    exact ih _
  | member ha _ _ _ _ =>
    rw [Utf8.bytes_append, List.append_assoc]
    exact opens_blanks ha (opens_cons rfl (by decide) (by decide))
  | lastMember _ ih => exact ih rest
  | moreMembers _ _ ih _ =>
    rw [Utf8.bytes_append, List.append_assoc]
    exact ih _

end

/-! One call on a value, by its first byte -/

section
variable {fuel : Nat} {a : List Char} {text rest after : Bytes} {b : UInt8}

theorem skipValue_digit (h : isDigit b = true) :
    skipValue (fuel + 1) (b :: rest) = skipNumeral (b :: rest) := by
  have hne := ne_of_isDigit h
  rw [skipValue, skipBlank_cons (isBlank_of_isDigit h)]
  simp [hne 0x6E rfl, hne 0x74 rfl, hne 0x66 rfl, hne 0x2D rfl, h]

theorem skipValue_list (h : Opens text) :
    skipValue (fuel + 1) (0x5B :: text) = skipElements fuel text := by
  obtain ⟨b, t, hskip, hbracket, -⟩ := h
  rw [← skipElements_skipBlank, hskip, skipValue, skipBlank_cons rfl]
  simp [hskip, hbracket, isDigit]

theorem skipValue_emptyList (h : Blanks a) :
    skipValue (fuel + 1) (0x5B :: (Utf8.bytes a ++ 0x5D :: rest)) = .ok rest := by
  have hskip : skipBlank (Utf8.bytes a ++ 0x5D :: rest) = 0x5D :: rest := by
    rw [skipBlank_blanks h, skipBlank_cons rfl]
  rw [skipValue, skipBlank_cons rfl]
  simp [hskip, isDigit]

theorem skipValue_object (h : Opens text) :
    skipValue (fuel + 1) (0x7B :: text) = skipMembers fuel text := by
  obtain ⟨b, t, hskip, -, hbrace⟩ := h
  rw [← skipMembers_skipBlank, hskip, skipValue, skipBlank_cons rfl]
  simp [hskip, hbrace, isDigit]

theorem skipValue_emptyObject (h : Blanks a) :
    skipValue (fuel + 1) (0x7B :: (Utf8.bytes a ++ 0x7D :: rest)) = .ok rest := by
  have hskip : skipBlank (Utf8.bytes a ++ 0x7D :: rest) = 0x7D :: rest := by
    rw [skipBlank_blanks h, skipBlank_cons rfl]
  rw [skipValue, skipBlank_cons rfl]
  simp [hskip, isDigit]

/-- An element of a list has been passed over; a comma or the closing bracket comes next. -/
theorem skipElements_of_skipValue (h : skipValue fuel text = .ok after) :
    (skipBlank after = 0x2C :: rest → skipElements (fuel + 1) text = skipElements fuel rest) ∧
      (skipBlank after = 0x5D :: rest → skipElements (fuel + 1) text = .ok rest) := by
  constructor
  · intro hafter
    simp [skipElements, h, bind, Except.bind, hafter]
  · intro hafter
    simp [skipElements, h, bind, Except.bind, hafter, pure, Except.pure]

/-- So it is with a member of an object, once its name and the colon are passed. -/
theorem skipMembers_of_skipValue {n b : List Char} {value : Bytes} (ha : Blanks a)
    (hn : StringLike n) (hb : Blanks b) (h : skipValue fuel value = .ok after) :
    (skipBlank after = 0x2C :: rest → skipMembers (fuel + 1)
      (Utf8.bytes a ++ 0x22 :: (Utf8.bytes n ++ 0x22 :: (Utf8.bytes b ++ 0x3A :: value))) =
        skipMembers fuel rest) ∧
    (skipBlank after = 0x7D :: rest → skipMembers (fuel + 1)
      (Utf8.bytes a ++ 0x22 :: (Utf8.bytes n ++ 0x22 :: (Utf8.bytes b ++ 0x3A :: value))) =
        .ok rest) := by
  have hcolon : skipBlank (Utf8.bytes b ++ 0x3A :: value) = 0x3A :: value := by
    rw [skipBlank_blanks hb, skipBlank_cons rfl]
  rw [← skipMembers_skipBlank, skipBlank_blanks ha, skipBlank_cons rfl]
  constructor
  · intro hafter
    simp [skipMembers, skipBlank_cons, isBlank, skipString_of_stringLike hn, hcolon, h, bind,
      Except.bind, hafter]
  · intro hafter
    simp [skipMembers, skipBlank_cons, isBlank, skipString_of_stringLike hn, hcolon, h, bind,
      Except.bind, hafter, pure, Except.pure]

end

theorem bytes_mark {c : Char} (hc : c.toNat < 128) (a t : List Char) (rest : Bytes) :
    Utf8.bytes (a ++ c :: t) ++ rest =
      Utf8.bytes a ++ UInt8.ofNat c.toNat :: (Utf8.bytes t ++ rest) := by
  rw [Utf8.bytes_append, Utf8.bytes_cons_ascii hc, List.append_assoc, List.cons_append]

theorem bytes_quote (a t : List Char) (rest : Bytes) :
    Utf8.bytes (a ++ '"' :: t) ++ rest = Utf8.bytes a ++ 0x22 :: (Utf8.bytes t ++ rest) :=
  bytes_mark (by decide) a t rest

theorem bytes_colon (a t : List Char) (rest : Bytes) :
    Utf8.bytes (a ++ ':' :: t) ++ rest = Utf8.bytes a ++ 0x3A :: (Utf8.bytes t ++ rest) :=
  bytes_mark (by decide) a t rest

theorem bytes_comma (a t : List Char) (rest : Bytes) :
    Utf8.bytes (a ++ ',' :: t) ++ rest = Utf8.bytes a ++ 0x2C :: (Utf8.bytes t ++ rest) :=
  bytes_mark (by decide) a t rest

/-- What passing over a part of a text needs and leaves. -/
def Passes : Form → List Char → Prop
  | .value, s => ∀ fuel rest, 2 * s.length ≤ fuel → Stops rest →
    skipValue fuel (Utf8.bytes s ++ rest) = .ok rest
  | .padded, s => ∀ fuel rest, 2 * s.length ≤ fuel → Stops rest →
    ∃ after, skipValue fuel (Utf8.bytes s ++ rest) = .ok after ∧ skipBlank after = skipBlank rest
  | .elements, s => ∀ fuel rest, 2 * s.length + 1 ≤ fuel →
    skipElements fuel (Utf8.bytes s ++ 0x5D :: rest) = .ok rest
  | .member, s => ∀ fuel rest, 2 * s.length ≤ fuel →
    skipMembers (fuel + 1) (Utf8.bytes s ++ 0x2C :: rest) = skipMembers fuel rest ∧
      skipMembers (fuel + 1) (Utf8.bytes s ++ 0x7D :: rest) = .ok rest
  | .members, s => ∀ fuel rest, 2 * s.length + 1 ≤ fuel →
    skipMembers fuel (Utf8.bytes s ++ 0x7D :: rest) = .ok rest

theorem passes_value {s : List Char} (hs : s ≠ []) (h : ∀ fuel rest, 2 * s.length ≤ fuel + 1 →
    Stops rest → skipValue (fuel + 1) (Utf8.bytes s ++ rest) = .ok rest) : Passes .value s := by
  intro fuel rest hfuel hr
  have hpos : 0 < s.length := List.length_pos_iff.mpr hs
  obtain ⟨k, rfl⟩ : ∃ k, fuel = k + 1 := ⟨fuel - 1, by omega⟩
  exact h k rest hfuel hr

theorem NumberForm.passes {s : List Char} (h : NumberForm s) : Passes .value s := by
  obtain ⟨hs, hw, hf, he⟩ := h
  obtain ⟨b, bs, hbytes, hb⟩ := hw.exists_bytes
  have hskip (rest : Bytes) (hr : Stops rest) := skipNumeral_of_numberForm hw hf he hr
  rcases hs with rfl | rfl
  · refine passes_value (by simp [hw.ne_nil]) fun fuel rest _ hr => ?_
    simp only [List.nil_append, Utf8.bytes_append, List.append_assoc, hbytes] at hskip ⊢
    exact (skipValue_digit hb).trans (hskip rest hr)
  · refine passes_value (by simp) fun fuel rest _ hr => ?_
    have hminus := hskip rest hr
    simp only [Utf8.bytes_append, List.append_assoc] at hminus ⊢
    exact hminus

theorem WellFormed.passes {form : Form} {s : List Char} (h : WellFormed form s) :
    Passes form s := by
  induction h with
  | null => exact passes_value (by simp) fun _ _ _ _ => rfl
  | true => exact passes_value (by simp) fun _ _ _ _ => rfl
  | false => exact passes_value (by simp) fun _ _ _ _ => rfl
  | number h => exact h.passes
  | string h =>
    refine passes_value (by simp) fun fuel rest _ _ => ?_
    rw [Utf8.bytes_cons_ascii (by decide), Utf8.bytes_append, List.cons_append, List.append_assoc]
    exact skipString_of_stringLike h rest
  | emptyList ha =>
    refine passes_value (by simp) fun fuel rest _ _ => ?_
    rw [Utf8.bytes_cons_ascii (by decide), Utf8.bytes_append, List.cons_append, List.append_assoc]
    exact skipValue_emptyList ha
  | list h ih =>
    refine passes_value (by simp) fun fuel rest hfuel _ => ?_
    rw [Utf8.bytes_cons_ascii (by decide), Utf8.bytes_append, List.cons_append, List.append_assoc]
    refine (skipValue_list (h.opens _)).trans (ih fuel rest ?_)
    simp only [List.length_cons, List.length_append, List.length_nil] at hfuel
    omega
  | emptyObject ha =>
    refine passes_value (by simp) fun fuel rest _ _ => ?_
    rw [Utf8.bytes_cons_ascii (by decide), Utf8.bytes_append, List.cons_append, List.append_assoc]
    exact skipValue_emptyObject ha
  | object h ih =>
    refine passes_value (by simp) fun fuel rest hfuel _ => ?_
    rw [Utf8.bytes_cons_ascii (by decide), Utf8.bytes_append, List.cons_append, List.append_assoc]
    refine (skipValue_object (h.opens _)).trans (ih fuel rest ?_)
    simp only [List.length_cons, List.length_append, List.length_nil] at hfuel
    omega
  | padded ha h hb ih =>
    intro fuel rest hfuel hr
    simp only [List.length_append] at hfuel
    have hvalue := ih fuel _ (by omega) (stops_blanks hb hr)
    refine ⟨_, ?_, skipBlank_blanks hb rest⟩
    rw [Utf8.bytes_append, Utf8.bytes_append, List.append_assoc, List.append_assoc,
      ← skipValue_skipBlank, skipBlank_blanks ha, skipValue_skipBlank, hvalue]
  | lastElement h ih =>
    intro fuel rest hfuel
    obtain ⟨k, rfl⟩ : ∃ k, fuel = k + 1 := ⟨fuel - 1, by omega⟩
    obtain ⟨after, hvalue, hafter⟩ := ih k (0x5D :: rest) (by omega) (stops_bracket rest)
    exact (skipElements_of_skipValue hvalue).2 (hafter.trans (skipBlank_cons rfl))
  | @element s t h ht ih iht =>
    intro fuel rest hfuel
    simp only [List.length_append, List.length_cons] at hfuel
    obtain ⟨k, rfl⟩ : ∃ k, fuel = k + 1 := ⟨fuel - 1, by omega⟩
    obtain ⟨after, hvalue, hafter⟩ :=
      ih k (0x2C :: (Utf8.bytes t ++ 0x5D :: rest)) (by omega) (stops_comma _)
    rw [bytes_comma]
    refine ((skipElements_of_skipValue hvalue).1 (hafter.trans (skipBlank_cons rfl))).trans ?_
    exact iht k rest (by omega)
  | member ha hn hb h ih =>
    intro fuel rest hfuel
    simp only [List.length_append, List.length_cons] at hfuel
    simp only [bytes_quote, bytes_colon]
    obtain ⟨after, hvalue, hafter⟩ := ih fuel (0x2C :: rest) (by omega) (stops_comma rest)
    obtain ⟨after', hvalue', hafter'⟩ := ih fuel (0x7D :: rest) (by omega) (stops_brace rest)
    exact ⟨(skipMembers_of_skipValue ha hn hb hvalue).1 (hafter.trans (skipBlank_cons rfl)),
      (skipMembers_of_skipValue ha hn hb hvalue').2 (hafter'.trans (skipBlank_cons rfl))⟩
  | lastMember h ih =>
    intro fuel rest hfuel
    obtain ⟨k, rfl⟩ : ∃ k, fuel = k + 1 := ⟨fuel - 1, by omega⟩
    exact (ih k rest (by omega)).2
  | @moreMembers s t h ht ih iht =>
    intro fuel rest hfuel
    simp only [List.length_append, List.length_cons] at hfuel
    obtain ⟨k, rfl⟩ : ∃ k, fuel = k + 1 := ⟨fuel - 1, by omega⟩
    rw [bytes_comma]
    exact (ih k (Utf8.bytes t ++ 0x7D :: rest) (by omega)).1.trans (iht k rest (by omega))

theorem numberForm_toString (n : Int) : NumberForm (toString n).toList := by
  cases n with
  | ofNat n =>
    have hform := NumberForm.mk (.inl rfl) (whole_toDigits n) .none .none
    rw [List.append_nil, List.append_nil] at hform
    exact toList_toString_ofNat n ▸ hform
  | negSucc n =>
    have hform := NumberForm.mk (.inr rfl) (whole_toDigits (n + 1)) .none .none
    rw [List.append_nil, List.append_nil] at hform
    exact toList_toString_negSucc n ▸ hform

theorem ValueText.wellFormed {s : List Char} {v : Value} (h : ValueText s v) :
    WellFormed .value s := by
  cases h with
  | null => exact .null
  | integer n => exact .number (numberForm_toString n)
  | text h => exact .string h.stringLike
  | other h => exact h

theorem passOver_of_valueText {a s : List Char} {v : Value} {rest : Bytes} (ha : Blanks a)
    (h : ValueText s v) (hr : Stops rest) :
    passOver (Utf8.bytes a ++ (Utf8.bytes s ++ rest)) = .ok rest := by
  have hlength := Utf8.length_le_length_bytes s
  rw [passOver, ← skipValue_skipBlank, skipBlank_blanks ha, skipValue_skipBlank]
  refine h.wellFormed.passes _ rest ?_ hr
  simp only [List.length_append]
  omega

end ChainRollback.Json
