import ChainRollback.Proofs.Toml.Strings

/-! # The form that a string is written in

A form is chosen only for strings that it can hold, so whatever a string consists of, its text is
read as the string. A string has a text exactly if it holds no two hundred and fifty-six quotes of
one kind in a row.
-/
namespace ChainRollback.Toml

section
variable {c quote : Char} {s text rest : List Char} {n run : Nat}

theorem longestRun_pos_of_mem (h : quote ∈ s) : 0 < longestRun quote run s := by
  induction s generalizing run with
  | nil => simp at h
  | cons c s ih =>
    unfold longestRun
    split
    · exact Nat.lt_of_lt_of_le (Nat.succ_pos run) (le_longestRun quote (run + 1) s)
    · rename_i hc
      rcases List.mem_cons.mp h with rfl | hs
      · exact absurd rfl hc
      · exact Nat.lt_of_lt_of_le (ih hs) (Nat.le_max_right ..)

/-! Behind the opening quotes -/

theorem dropBreak_of_head (h : ∀ c ∈ text.head?, c ≠ '\n' ∧ c ≠ '\r') : dropBreak text = text := by
  unfold dropBreak
  split
  · exact absurd rfl (h _ rfl).1
  · exact absurd rfl (h _ rfl).2
  · rfl

theorem dropBreak_opening (newline : Bool)
    (h : newline = false → ∀ c ∈ text.head?, c ≠ '\n' ∧ c ≠ '\r') :
    dropBreak (opening newline ++ text) = text := by
  cases newline with
  | false => exact dropBreak_of_head (h rfl)
  | true => rfl

/-- Where no two more quotes follow the first, the string has one line. -/
theorem readText_basic (h : ∀ more, text ≠ '"' :: '"' :: more) :
    readText ('"' :: text) = (readBasic .plain text).map asText := by
  unfold readText
  split
  · rename_i he
    exact absurd (List.cons.inj he).2 (h _)
  · rename_i he
    cases he
  · rename_i he
    rw [(List.cons.inj he).2]
  · rename_i he
    cases he
  · rename_i hbasic _
    exact absurd rfl (hbasic text)

theorem readText_literal (h : ∀ more, text ≠ '\'' :: '\'' :: more) :
    readText ('\'' :: text) = (readLiteral text).map asText := by
  unfold readText
  split
  · rename_i he
    cases he
  · rename_i he
    exact absurd (List.cons.inj he).2 (h _)
  · rename_i he
    cases he
  · rename_i he
    rw [(List.cons.inj he).2]
  · rename_i hliteral
    exact absurd rfl (hliteral text)

/-! The four forms -/

/-- A literal form is chosen only where nothing needs an escape and its quote does not close it too
early. -/
theorem form_cases (sh : Shape) : sh.form = .basic ∨ sh.form = .basicLines ∨
    sh.form = .literal ∧ sh.controls = false ∧ sh.singles = 0 ∧ sh.newline = false ∨
    sh.form = .literalLines ∧ sh.controls = false ∧ sh.singles ≤ 2 := by
  simp only [Shape.form]
  split
  · exact .inl rfl
  split
  · rename_i h
    simp only [Bool.and_eq_true, Bool.not_eq_true', beq_iff_eq] at h
    exact .inr (.inr (.inl ⟨rfl, h.1.1, h.1.2, h.2⟩))
  split
  · exact .inr (.inl rfl)
  split
  · rename_i h
    simp only [Bool.and_eq_true, Bool.not_eq_true', decide_eq_true_eq] at h
    exact .inr (.inr (.inr ⟨rfl, h⟩))
  split
  · exact .inr (.inl rfl)
  · exact .inl rfl

/-- What may follow a string on its line. -/
def NoQuote (rest : List Char) : Prop := ∀ c ∈ rest.head?, c ≠ '"' ∧ c ≠ '\''

theorem NoQuote.head?_ne (h : NoQuote rest) :
    rest.head? ≠ some '"' ∧ rest.head? ≠ some '\'' :=
  ⟨fun he => (h _ he).1 rfl, fun he => (h _ he).2 rfl⟩

theorem readText_basicForm (s : List Char) (hrest : NoQuote rest) :
    readText ('"' :: (s.flatMap escape ++ '"' :: rest)) = some (String.ofList s, rest) := by
  rw [readText_basic, readBasic_flatMap_escape]
  · rfl
  · intro more he
    cases s with
    | nil => exact hrest.head?_ne.1 (congrArg List.head? (List.cons.inj he).2)
    | cons c s =>
      rw [List.flatMap_cons, List.append_assoc] at he
      exact head?_escape_ne c _ (congrArg List.head? he)

theorem readText_literalForm (h : ∀ c ∈ s, isPrinting c = true ∧ c ≠ '\'') (hrest : NoQuote rest) :
    readText ('\'' :: (s ++ '\'' :: rest)) = some (String.ofList s, rest) := by
  rw [readText_literal, readLiteral_append h]
  · rfl
  · intro more he
    cases s with
    | nil => exact hrest.head?_ne.2 (congrArg List.head? (List.cons.inj he).2)
    | cons c s => exact (h c List.mem_cons_self).2 (List.cons.inj he).1

/-- Neither an escape nor a quote begins with a line break. -/
theorem head?_escapeLines (h : '\n' ∉ s) :
    ∀ c ∈ (escapeLines 0 s ++ '"' :: text).head?, c ≠ '\n' ∧ c ≠ '\r' := by
  cases s with
  | nil =>
    rintro c ⟨⟩
    decide
  | cons c s =>
    rcases escapeLines_cons_cases 0 c s with ⟨-, -, he⟩ | ⟨rfl, -⟩ | he
    · rw [he]
      rintro c ⟨⟩
      decide
    · exact absurd List.mem_cons_self h
    · rw [he]
      rcases escape_cases c with ⟨xs, he, -⟩ | ⟨he, hc, -⟩
      · rw [he]
        rintro c ⟨⟩
        decide
      · rw [he]
        rintro c ⟨⟩
        refine ⟨fun hnew => h (hnew ▸ List.mem_cons_self), ?_⟩
        rintro rfl
        cases hc

theorem readText_basicLinesForm (s : List Char) (hrest : NoQuote rest) :
    readText ('"' :: '"' :: '"' :: (opening (s.contains '\n') ++
      (escapeLines 0 s ++ '"' :: '"' :: '"' :: rest))) = some (String.ofList s, rest) := by
  have hopen : dropBreak (opening (s.contains '\n') ++
      (escapeLines 0 s ++ '"' :: '"' :: '"' :: rest)) =
        escapeLines 0 s ++ '"' :: '"' :: '"' :: rest := by
    refine dropBreak_opening _ fun hnew => head?_escapeLines ?_
    simpa using hnew
  rw [readText, hopen, readBasicLines_escapeLines (by decide) s hrest.head?_ne.1]
  rfl

theorem readText_literalLinesForm (h : ∀ c ∈ s, isControl c = false)
    (hrun : longestRun '\'' 0 s ≤ 2) (hrest : NoQuote rest) :
    readText ('\'' :: '\'' :: '\'' :: (opening (s.contains '\n') ++
      (s ++ '\'' :: '\'' :: '\'' :: rest))) = some (String.ofList s, rest) := by
  have hall : ∀ c ∈ s, c = '\n' ∨ isPrinting c = true := by
    intro c hc
    by_cases hnew : c = '\n'
    · exact .inl hnew
    · exact .inr (isPrinting_of_not_isControl (h c hc) hnew)
  have hopen : dropBreak (opening (s.contains '\n') ++ (s ++ '\'' :: '\'' :: '\'' :: rest)) =
      s ++ '\'' :: '\'' :: '\'' :: rest := by
    refine dropBreak_opening _ fun hnew => ?_
    cases s with
    | nil =>
      rintro c ⟨⟩
      decide
    | cons c s =>
      rintro d ⟨⟩
      constructor
      · rintro rfl
        simp at hnew
      · rintro rfl
        cases h '\r' List.mem_cons_self
  rw [readText, hopen, readLiteralLines_append s 0 hrun hall hrest.head?_ne.2]
  rfl

/-- Every string is read from the form that it is written in. -/
theorem readText_write (s : List Char) (hrest : NoQuote rest) :
    readText ((shape s).write s ++ rest) = some (String.ofList s, rest) := by
  have hcontrols (h : (shape s).controls = false) : ∀ c ∈ s, isControl c = false := by
    simpa [shape, List.any_eq_false] using h
  unfold Shape.write
  rcases form_cases (shape s) with hform | hform | ⟨hform, hunescaped, hsingles, hnew⟩ |
      ⟨hform, hunescaped, hsingles⟩
  · simp only [hform, List.cons_append, List.append_assoc]
    exact readText_basicForm s hrest
  · simp only [hform, List.cons_append, List.append_assoc]
    exact readText_basicLinesForm s hrest
  · simp only [hform, List.cons_append, List.append_assoc]
    refine readText_literalForm (fun c hc => ⟨?_, ?_⟩) hrest
    · refine isPrinting_of_not_isControl (hcontrols hunescaped c hc) ?_
      rintro rfl
      simp [shape, hc] at hnew
    · rintro rfl
      exact absurd hsingles (Nat.ne_of_gt (longestRun_pos_of_mem hc))
  · simp only [hform, List.cons_append, List.append_assoc]
    exact readText_literalLinesForm (hcontrols hunescaped) hsingles hrest

/-! Runs that are too long to be counted -/

theorem prefix_replicate_append (hc : c ≠ quote) :
    List.replicate n quote <+: List.replicate run quote ++ c :: s ↔ n ≤ run := by
  induction n generalizing run with
  | zero => simp
  | succ n ih =>
    cases run with
    | zero => simp [List.replicate_succ, hc.symm]
    | succ run => simp [List.replicate_succ, ih]

/-- A run does not go on behind another character. -/
theorem infix_replicate_append (hc : c ≠ quote) :
    List.replicate n quote <:+: List.replicate run quote ++ c :: s ↔
      n ≤ run ∨ List.replicate n quote <:+: s := by
  induction run with
  | zero =>
    have hprefix : List.replicate n quote <+: List.replicate 0 quote ++ c :: s ↔ n ≤ 0 :=
      prefix_replicate_append hc
    rw [List.replicate_zero, List.nil_append] at hprefix ⊢
    rw [List.infix_cons_iff, hprefix]
  | succ run ih =>
    have hprefix : List.replicate n quote <+: List.replicate (run + 1) quote ++ c :: s ↔
        n ≤ run + 1 := prefix_replicate_append hc
    rw [List.replicate_succ, List.cons_append] at hprefix ⊢
    rw [List.infix_cons_iff, hprefix, ih]
    constructor
    · rintro (h | h | h)
      · exact .inl h
      · exact .inl (Nat.le_succ_of_le h)
      · exact .inr h
    · rintro (h | h)
      · exact .inl h
      · exact .inr (.inr h)

theorem le_longestRun_iff : n ≤ longestRun quote run s ↔
    List.replicate n quote <:+: List.replicate run quote ++ s := by
  induction s generalizing run with
  | nil => simp [longestRun, List.infix_replicate_iff]
  | cons c s ih =>
    by_cases hc : c = quote
    · subst hc
      have hmove : List.replicate run c ++ c :: s = List.replicate (run + 1) c ++ s := by
        rw [List.replicate_succ', List.append_assoc]
        rfl
      rw [longestRun, if_pos rfl, ih, hmove]
    · have hrest : n ≤ longestRun quote 0 s ↔
          List.replicate n quote <:+: List.replicate 0 quote ++ s := ih
      rw [List.replicate_zero, List.nil_append] at hrest
      rw [longestRun, if_neg hc, infix_replicate_append hc, ← hrest]
      omega

/-- Quotes of one kind, more of them in a row than are counted. -/
def HasLongRun (s : List Char) : Prop :=
  List.replicate 256 '"' <:+: s ∨ List.replicate 256 '\'' <:+: s

theorem isCounted_shape_iff : (shape s).isCounted = true ↔ ¬HasLongRun s := by
  have hrun (quote : Char) :
      longestRun quote 0 s ≤ greatestRun ↔ ¬List.replicate 256 quote <:+: s := by
    have hle : 256 ≤ longestRun quote 0 s ↔
        List.replicate 256 quote <:+: List.replicate 0 quote ++ s := le_longestRun_iff
    rw [List.replicate_zero, List.nil_append] at hle
    rw [← hle, greatestRun]
    omega
  rw [HasLongRun, not_or, ← hrun, ← hrun, Shape.isCounted, Bool.and_eq_true, decide_eq_true_eq,
    decide_eq_true_eq]
  rfl

/-- A string has a text unless it has a run of quotes that is too long. -/
theorem renderText_cases (s : List Char) :
    (¬HasLongRun s ∧ renderText s = .ok ((shape s).write s)) ∨
      HasLongRun s ∧ renderText s = .error .add := by
  rw [renderText]
  by_cases h : (shape s).isCounted = true
  · exact .inl ⟨isCounted_shape_iff.mp h, if_pos h⟩
  · exact .inr ⟨Classical.not_not.mp fun hrun => h (isCounted_shape_iff.mpr hrun), if_neg h⟩

end
end ChainRollback.Toml
