import ChainRollback.Proofs.Text.UpperHex
import ChainRollback.Toml.Printer
import ChainRollback.Toml.Text

/-! # Strings are read as they were written

Each of the four forms is undone by its reader. In a basic string every character stands for itself
or is escaped, and an escape is a run of steps of the reader that completes the character. Over
several lines the quotes at the end of a string run into those that close it: as no more than two of
them stand for themselves in a row, the reader gives back all but the last three.
-/
namespace ChainRollback.Toml

section
variable {c : Char}

theorem isPrinting_of_not_isControl (h : isControl c = false) (hn : c ≠ '\n') :
    isPrinting c = true := by
  simp only [isControl, isPrinting, Bool.or_eq_false_iff, Bool.or_eq_true, Bool.and_eq_true,
    Bool.and_eq_false_iff, decide_eq_true_eq, decide_eq_false_iff_not, bne_iff_ne, beq_iff_eq,
    Char.not_lt, bne_eq_false_iff_eq, beq_eq_false_iff_ne] at h ⊢
  obtain ⟨(hle | htab) | hnew, hdel⟩ := h
  · exact .inr ⟨hle, hdel⟩
  · exact .inl htab
  · exact absurd hnew hn

/-- The steps of a reader through some characters complete one. -/
inductive Completes : TextState → List Char → Char → Prop where
  | last {state : TextState} {x c : Char} (h : state.step x = some (.plain, some c)) :
    Completes state [x] c
  | more {state next : TextState} {x c : Char} {xs : List Char}
    (h : state.step x = some (next, none)) (hxs : Completes next xs c) :
    Completes state (x :: xs) c

theorem upperHex_eq {n : Nat} (h : n < 128) :
    upperHex n = ['0', '0', Hex.digit (n / 16), Hex.digit (n % 16)] := by
  have hall : ∀ n < 128, upperHex n = ['0', '0', Hex.digit (n / 16), Hex.digit (n % 16)] := by
    decide +kernel
  exact hall n h

theorem hexValue?_digit {n : Nat} (h : n < 16) : hexValue? (Hex.digit n) = some n := by
  have hall : ∀ n < 16, hexValue? (Hex.digit n) = some n := by decide
  exact hall n h

theorem charOf?_toNat (c : Char) : charOf? c.toNat = some c := by
  have hvalid : c.toNat.isValidChar := c.valid
  rw [charOf?, if_pos hvalid, Char.ofNat_toNat]

theorem toNat_of_isControl (h : isControl c = true) : c.toNat < 128 := by
  simp only [isControl, Bool.or_eq_true, Bool.and_eq_true, decide_eq_true_eq, beq_iff_eq] at h
  rcases h with ⟨⟨h, -⟩, -⟩ | rfl
  · have hlt : c.toNat < 0x20 := h
    omega
  · decide

theorem completes_upperHex (h : c.toNat < 128) :
    Completes .escape ('u' :: upperHex c.toNat) c := by
  have hnat : 16 * (c.toNat / 16) + c.toNat % 16 = c.toNat := Nat.div_add_mod ..
  have hu : TextState.step 'u' .escape = some (.digits 4 0, none) := rfl
  have hfirst : TextState.step '0' (.digits 4 0) = some (.digits 3 0, none) := rfl
  have hsecond : TextState.step '0' (.digits 3 0) = some (.digits 2 0, none) := rfl
  have hhigh : TextState.step (Hex.digit (c.toNat / 16)) (.digits 2 0) =
      some (.digits 1 (c.toNat / 16), none) := by
    simp [TextState.step, hexValue?_digit (n := c.toNat / 16) (by omega)]
  have hlow : TextState.step (Hex.digit (c.toNat % 16)) (.digits 1 (c.toNat / 16)) =
      some (.plain, some c) := by
    simp [TextState.step, hexValue?_digit (n := c.toNat % 16) (by omega), hnat, charOf?_toNat]
  rw [upperHex_eq h]
  exact .more hu (.more hfirst (.more hsecond (.more hhigh (.last hlow))))

/-- A character of a basic string is escaped or stands for itself. -/
theorem escape_cases (c : Char) : (∃ xs, escape c = '\\' :: xs ∧ Completes .escape xs c) ∨
    escape c = [c] ∧ isPrinting c = true ∧ c ≠ '"' ∧ c ≠ '\\' := by
  unfold escape
  split
  · rename_i h
    exact .inl ⟨['b'], rfl, h ▸ .last rfl⟩
  split
  · rename_i h
    exact .inl ⟨['t'], rfl, h ▸ .last rfl⟩
  split
  · rename_i h
    exact .inl ⟨['n'], rfl, h ▸ .last rfl⟩
  split
  · rename_i h
    exact .inl ⟨['f'], rfl, h ▸ .last rfl⟩
  split
  · rename_i h
    exact .inl ⟨['r'], rfl, h ▸ .last rfl⟩
  split
  · rename_i h
    refine .inl ⟨[c], rfl, .last ?_⟩
    rcases h with rfl | rfl <;> rfl
  split
  · rename_i h
    exact .inl ⟨_, rfl, completes_upperHex (toNat_of_isControl h)⟩
  · rename_i hnew _ _ hquote hcontrol
    rw [not_or] at hquote
    exact .inr ⟨rfl, isPrinting_of_not_isControl (Bool.eq_false_iff.mpr hcontrol) hnew, hquote⟩

theorem head?_escape_ne (c : Char) (text : List Char) : (escape c ++ text).head? ≠ some '"' := by
  rcases escape_cases c with ⟨xs, he, -⟩ | ⟨he, -, hquote, -⟩
  · rw [he]
    simp
  · rw [he]
    simpa using hquote

end

section
variable {c : Char} {state next : TextState} {d : Option Char} {s text rest xs : List Char}

/-! Strings on one line -/

theorem readBasic_plain (hc : isPrinting c = true) (hquote : c ≠ '"') (hslash : c ≠ '\\')
    (hr : readBasic .plain text = some (s, rest)) :
    readBasic .plain (c :: text) = some (c :: s, rest) := by
  rw [readBasic, if_neg hquote, if_neg hslash, if_pos hc, hr]
  rfl

theorem readBasic_step (h : state.step c = some (next, d))
    (hr : readBasic next text = some (s, rest)) :
    readBasic state (c :: text) = some (prepend d (s, rest)) := by
  have hstate : state ≠ .plain := by
    rintro rfl
    cases h
  rw [readBasic, h]
  · simp only [hr]
    rfl
  · exact hstate

theorem readBasic_completes (h : Completes state xs c)
    (hr : readBasic .plain text = some (s, rest)) :
    readBasic state (xs ++ text) = some (c :: s, rest) := by
  induction h with
  | last h => exact readBasic_step h hr
  | more h _ ih => exact readBasic_step h ih

theorem readBasic_escape (hr : readBasic .plain text = some (s, rest)) :
    readBasic .plain (escape c ++ text) = some (c :: s, rest) := by
  rcases escape_cases c with ⟨xs, he, hxs⟩ | ⟨he, hc, hquote, hslash⟩
  · rw [he, List.cons_append, readBasic, if_neg (by decide), if_pos rfl]
    exact readBasic_completes hxs hr
  · rw [he]
    exact readBasic_plain hc hquote hslash hr

theorem readBasic_flatMap_escape (s rest : List Char) :
    readBasic .plain (s.flatMap escape ++ '"' :: rest) = some (s, rest) := by
  induction s with
  | nil => rfl
  | cons c s ih =>
    rw [List.flatMap_cons, List.append_assoc]
    exact readBasic_escape ih

theorem readLiteral_append (h : ∀ c ∈ s, isPrinting c = true ∧ c ≠ '\'') (rest : List Char) :
    readLiteral (s ++ '\'' :: rest) = some (s, rest) := by
  induction s with
  | nil => rfl
  | cons c s ih =>
    obtain ⟨⟨hc, hquote⟩, hs⟩ := List.forall_mem_cons.mp h
    rw [List.cons_append, readLiteral, if_neg hquote, if_pos hc, ih hs]
    rfl

end

/-! Quotes in a row -/

section
variable {quote : Char} {n : Nat} {s rest : List Char}

/-- The quotes that a text begins with, and what comes behind them. -/
theorem exists_leading (quote : Char) (s : List Char) :
    ∃ k t, s = List.replicate k quote ++ t ∧ t.head? ≠ some quote := by
  induction s with
  | nil => exact ⟨0, [], rfl, by simp⟩
  | cons c s ih =>
    by_cases hc : c = quote
    · obtain ⟨k, t, rfl, ht⟩ := ih
      exact ⟨k + 1, t, by rw [hc, List.replicate_succ, List.cons_append], ht⟩
    · exact ⟨0, c :: s, rfl, by simpa using hc⟩

theorem length_takeWhile_replicate (h : rest.head? ≠ some quote) :
    ((List.replicate n quote ++ rest).takeWhile (· == quote)).length = n := by
  have hnone : rest.takeWhile (· == quote) = [] := by
    cases rest with
    | nil => rfl
    | cons c rest =>
      have hc : c ≠ quote := by simpa using h
      simp [hc]
  rw [List.takeWhile_append_of_pos (by simp [List.mem_replicate]), hnone, List.append_nil,
    List.length_replicate]

theorem closing?_of_lt (hn : n < 3) (h : rest.head? ≠ some quote) :
    closing? quote (List.replicate n quote ++ rest) = none := by
  simp only [closing?, length_takeWhile_replicate h, if_pos hn]

theorem cons_replicate_append (quote : Char) (n : Nat) (rest : List Char) :
    quote :: (List.replicate n quote ++ (quote :: quote :: quote :: rest)) =
      List.replicate (n + 1 + 3) quote ++ rest := by
  rw [← List.replicate_append_replicate, List.replicate_succ, List.append_assoc]
  rfl

/-- Up to two quotes belong to the string before the three that close it. -/
theorem closing?_of_le (hn : n ≤ 2) (h : rest.head? ≠ some quote) :
    closing? quote (List.replicate (n + 3) quote ++ rest) =
      some (List.replicate n quote, rest) := by
  have hmin : min (n + 3) 5 = n + 3 := by omega
  have hdrop : (List.replicate (n + 3) quote ++ rest).drop (n + 3) = rest :=
    List.drop_left' List.length_replicate
  simp only [closing?, length_takeWhile_replicate h, if_neg (show ¬n + 3 < 3 by omega), hmin,
    hdrop, Nat.add_sub_cancel]

end

/-! Strings over several lines -/

section
variable {c : Char} {state next : TextState} {d : Option Char} {s text rest xs : List Char}
variable {n : Nat}

/-- What goes on with an escape does not end the line. -/
theorem ne_break_of_step {r : TextState × Option Char} (h : TextState.step c .escape = some r) :
    isBlank c = false ∧ c ≠ '\n' ∧ c ≠ '\r' := by
  refine ⟨?_, ?_, ?_⟩
  · rw [Bool.eq_false_iff, isBlank, Ne, Bool.or_eq_true, beq_iff_eq, beq_iff_eq]
    rintro (rfl | rfl) <;> cases h
  · rintro rfl
    cases h
  · rintro rfl
    cases h

theorem readBasicLines_plain (hc : c = '\n' ∨ isPrinting c = true) (hquote : c ≠ '"')
    (hslash : c ≠ '\\') (hr : readBasicLines .plain text = some (s, rest)) :
    readBasicLines .plain (c :: text) = some (c :: s, rest) := by
  have hreturn : c ≠ '\r' := by
    rintro rfl
    revert hc
    decide
  rw [readBasicLines, if_pos (.inl rfl), if_neg (by simp), if_neg hreturn, if_neg hquote,
    if_neg hslash, if_pos hc, hr]
  rfl

theorem readBasicLines_step (h : state.step c = some (next, d))
    (hr : readBasicLines next text = some (s, rest)) :
    readBasicLines state (c :: text) = some (prepend d (s, rest)) := by
  have hplain : ¬(state = .plain ∨ state = .gap) := by
    rintro (rfl | rfl) <;> cases h
  have hend : ¬(state = .lineEnd ∨ state = .escape ∧ (isBlank c ∨ c = '\n' ∨ c = '\r')) := by
    rintro (rfl | ⟨rfl, hbreak⟩)
    · cases h
    · obtain ⟨hblank, hnew, hreturn⟩ := ne_break_of_step h
      simp [hblank, hnew, hreturn] at hbreak
  rw [readBasicLines, if_neg hplain, if_neg hend, h]
  simp only [hr]
  rfl

theorem readBasicLines_completes (h : Completes state xs c)
    (hr : readBasicLines .plain text = some (s, rest)) :
    readBasicLines state (xs ++ text) = some (c :: s, rest) := by
  induction h with
  | last h => exact readBasicLines_step h hr
  | more h _ ih => exact readBasicLines_step h ih

theorem readBasicLines_slash (hr : readBasicLines .escape text = some (s, rest)) :
    readBasicLines .plain ('\\' :: text) = some (s, rest) := by
  rw [readBasicLines, if_pos (.inl rfl), if_neg (by simp), if_neg (by decide), if_neg (by decide),
    if_pos rfl, hr]

theorem readBasicLines_escape (hr : readBasicLines .plain text = some (s, rest)) :
    readBasicLines .plain (escape c ++ text) = some (c :: s, rest) := by
  rcases escape_cases c with ⟨xs, he, hxs⟩ | ⟨he, hc, hquote, hslash⟩
  · rw [he]
    exact readBasicLines_slash (readBasicLines_completes hxs hr)
  · rw [he]
    exact readBasicLines_plain (.inr hc) hquote hslash hr

/-- A quote with few others behind it belongs to the string. -/
theorem readBasicLines_quote (hn : n < 2) (htext : text.head? ≠ some '"')
    (hr : readBasicLines .plain (List.replicate n '"' ++ text) = some (s, rest)) :
    readBasicLines .plain ('"' :: (List.replicate n '"' ++ text)) = some ('"' :: s, rest) := by
  have hopen : closing? '"' ('"' :: (List.replicate n '"' ++ text)) = none :=
    closing?_of_lt (n := n + 1) (by omega) htext
  rw [readBasicLines, if_pos (.inl rfl), if_neg (by simp), if_neg (by decide), if_pos rfl, hopen]
  simp only [hr]
  rfl

theorem readBasicLines_close (hn : n ≤ 2) (hrest : rest.head? ≠ some '"') :
    readBasicLines .plain (List.replicate (n + 3) '"' ++ rest) =
      some (List.replicate n '"', rest) := by
  have hclose := closing?_of_le hn hrest
  rw [List.replicate_succ, List.cons_append] at hclose ⊢
  rw [readBasicLines, if_pos (.inl rfl), if_neg (by simp), if_neg (by decide), if_pos rfl, hclose]

/-- One character over several lines: a quote or a line feed for itself, or an escape. -/
theorem escapeLines_cons_cases (quotes : Nat) (c : Char) (s : List Char) :
    (c = '"' ∧ quotes < 2 ∧ escapeLines quotes (c :: s) = '"' :: escapeLines (quotes + 1) s) ∨
      (c = '\n' ∧ escapeLines quotes (c :: s) = '\n' :: escapeLines 0 s) ∨
      escapeLines quotes (c :: s) = escape c ++ escapeLines 0 s := by
  by_cases hquote : c = '"'
  · subst hquote
    by_cases hlt : quotes < 2
    · exact .inl ⟨rfl, hlt, by rw [escapeLines, if_pos rfl, if_pos hlt]⟩
    · exact .inr (.inr (by rw [escapeLines, if_pos rfl, if_neg hlt]; rfl))
  · by_cases hnew : c = '\n'
    · exact .inr (.inl ⟨hnew, by rw [escapeLines, if_neg hquote, if_pos hnew]⟩)
    · exact .inr (.inr (by rw [escapeLines, if_neg hquote, if_neg hnew]))

/-- Quotes that stand for themselves are followed by the end of the string or by another
character, before there are three in a row. -/
theorem escapeLines_cases (quotes : Nat) (hq : quotes ≤ 2) (s : List Char) :
    ∃ k, quotes + k ≤ 2 ∧ (s = List.replicate k '"' ∧ escapeLines quotes s = List.replicate k '"' ∨
      ∃ t, escapeLines quotes s = List.replicate k '"' ++ t ∧
        ∀ more, (t ++ more).head? ≠ some '"') := by
  induction s generalizing quotes with
  | nil => exact ⟨0, hq, .inl ⟨rfl, rfl⟩⟩
  | cons c s ih =>
    rcases escapeLines_cons_cases quotes c s with ⟨rfl, hlt, he⟩ | ⟨-, he⟩ | he
    · obtain ⟨k, hk, hcases⟩ := ih (quotes + 1) hlt
      refine ⟨k + 1, by omega, ?_⟩
      rw [he, List.replicate_succ]
      rcases hcases with ⟨rfl, he⟩ | ⟨t, he, ht⟩
      · exact .inl ⟨rfl, by rw [he]⟩
      · exact .inr ⟨t, by rw [he, List.cons_append], ht⟩
    · exact ⟨0, hq, .inr ⟨_, he, by simp⟩⟩
    · refine ⟨0, hq, .inr ⟨escape c ++ escapeLines 0 s, he, fun more => ?_⟩⟩
      rw [List.append_assoc]
      exact head?_escape_ne c _

theorem readBasicLines_escapeLines {quotes : Nat} (hq : quotes ≤ 2) (s : List Char)
    (hrest : rest.head? ≠ some '"') :
    readBasicLines .plain (escapeLines quotes s ++ ('"' :: '"' :: '"' :: rest)) =
      some (s, rest) := by
  induction s generalizing quotes with
  | nil => exact readBasicLines_close (n := 0) (by decide) hrest
  | cons c s ih =>
    rcases escapeLines_cons_cases quotes c s with ⟨rfl, hlt, he⟩ | ⟨rfl, he⟩ | he
    · have htail := ih hlt
      rw [he, List.cons_append]
      obtain ⟨k, hk, ⟨rfl, hall⟩ | ⟨t, ht, hhead⟩⟩ := escapeLines_cases (quotes + 1) hlt s
      · have hclose := readBasicLines_close (n := k + 1) (by omega) hrest
        rw [hall, cons_replicate_append]
        exact hclose
      · rw [ht, List.append_assoc] at htail ⊢
        exact readBasicLines_quote (by omega) (hhead _) htail
    · rw [he]
      exact readBasicLines_plain (.inl rfl) (by decide) (by decide) (ih (by decide))
    · rw [he, List.append_assoc]
      exact readBasicLines_escape (ih (by decide))

/-! Literal strings over several lines -/

theorem le_longestRun (quote : Char) (run : Nat) (s : List Char) :
    run ≤ longestRun quote run s := by
  induction s generalizing run with
  | nil => exact Nat.le_refl run
  | cons c s ih =>
    unfold longestRun
    split
    · exact Nat.le_trans (Nat.le_succ run) (ih (run + 1))
    · exact Nat.le_max_left ..

theorem longestRun_replicate_append (quote : Char) (run n : Nat) (s : List Char) :
    longestRun quote run (List.replicate n quote ++ s) = longestRun quote (run + n) s := by
  induction n generalizing run with
  | zero => rfl
  | succ n ih =>
    rw [List.replicate_succ, List.cons_append, longestRun, if_pos rfl, ih, Nat.add_right_comm]
    rfl

theorem readLiteralLines_plain (hc : c = '\n' ∨ isPrinting c = true) (hquote : c ≠ '\'')
    (hr : readLiteralLines text = some (s, rest)) :
    readLiteralLines (c :: text) = some (c :: s, rest) := by
  have hreturn : c ≠ '\r' := by
    rintro rfl
    revert hc
    decide
  rw [readLiteralLines, if_neg hreturn, if_neg hquote, if_pos hc, hr]
  rfl

theorem readLiteralLines_quote (hn : n < 2) (htext : text.head? ≠ some '\'')
    (hr : readLiteralLines (List.replicate n '\'' ++ text) = some (s, rest)) :
    readLiteralLines ('\'' :: (List.replicate n '\'' ++ text)) = some ('\'' :: s, rest) := by
  have hopen : closing? '\'' ('\'' :: (List.replicate n '\'' ++ text)) = none :=
    closing?_of_lt (n := n + 1) (by omega) htext
  rw [readLiteralLines, if_neg (by decide), if_pos rfl, hopen]
  simp only [hr]
  rfl

theorem readLiteralLines_close (hn : n ≤ 2) (hrest : rest.head? ≠ some '\'') :
    readLiteralLines (List.replicate (n + 3) '\'' ++ rest) =
      some (List.replicate n '\'', rest) := by
  have hclose := closing?_of_le hn hrest
  rw [List.replicate_succ, List.cons_append] at hclose ⊢
  rw [readLiteralLines, if_neg (by decide), if_pos rfl, hclose]

theorem readLiteralLines_append (s : List Char) (run : Nat)
    (hrun : longestRun '\'' run s ≤ 2) (h : ∀ c ∈ s, c = '\n' ∨ isPrinting c = true)
    (hrest : rest.head? ≠ some '\'') :
    readLiteralLines (s ++ ('\'' :: '\'' :: '\'' :: rest)) = some (s, rest) := by
  induction s generalizing run with
  | nil => exact readLiteralLines_close (n := 0) (by decide) hrest
  | cons c s ih =>
    obtain ⟨hc, hs⟩ := List.forall_mem_cons.mp h
    by_cases hquote : c = '\''
    · subst hquote
      rw [longestRun, if_pos rfl] at hrun
      have htail := ih (run + 1) hrun hs
      obtain ⟨k, t, rfl, ht⟩ := exists_leading '\'' s
      rw [longestRun_replicate_append] at hrun
      have hk := Nat.le_trans (le_longestRun '\'' (run + 1 + k) t) hrun
      cases t with
      | nil =>
        have hclose := readLiteralLines_close (n := k + 1) (by omega) hrest
        rw [List.append_nil, List.cons_append, cons_replicate_append]
        exact hclose
      | cons e t =>
        rw [List.append_assoc] at htail
        rw [List.cons_append, List.append_assoc]
        exact readLiteralLines_quote (by omega) ht htail
    · rw [longestRun, if_neg hquote] at hrun
      exact readLiteralLines_plain hc hquote (ih 0 (by omega) hs)

end
end ChainRollback.Toml
