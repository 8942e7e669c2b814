import ChainRollback.Json.Record
import ChainRollback.Proofs.Json.PassOver
import ChainRollback.Proofs.Outcome

/-! # Records are read by their members

What a record makes of a text depends on the members of the text and their order, and on nothing
else: every member is taken into the draft, passed over or the reason to stop.
-/
namespace ChainRollback.Json

/-- What a reader makes of a value, whatever blanks are in front of it and whatever follows. -/
def Reads {α : Type} (r : Reader α) (v : Value) (o : Except Fault α) : Prop :=
  ∀ ⦃a s : List Char⦄ ⦃rest : Bytes⦄, Blanks a → ValueText s v → Stops rest →
    r (Utf8.bytes a ++ (Utf8.bytes s ++ rest)) = o.map fun x => (x, rest)

section
variable {α β : Type} {r : Reader α} {v : Value} {o : Except Fault α}

theorem Reads.map (h : Reads r v o) (g : α → β) :
    Reads (fun text => (r text).map fun (x, rest) => (g x, rest)) v (o.map g) := by
  intro a s rest ha hs hr
  simp only [h ha hs hr]
  cases o <;> rfl

end

/-! Integers and hexadecimal strings -/

/-- The integers that a number of 64 bits may be, with or without a sign. -/
def IsWord (n : Int) : Prop := -0x8000000000000000 ≤ n ∧ n < 0x10000000000000000

section
variable {n low high : Int} {expected s : String} {a : List Char} {text : Bytes}

theorem read_blanks {α : Type} {r : Reader α} (hskip : ∀ text, r (skipBlank text) = r text)
    (ha : Blanks a) : r (Utf8.bytes a ++ text) = r text := by
  rw [← hskip, skipBlank_blanks ha, hskip]

theorem readInteger_skipBlank (text : Bytes) :
    readInteger low high expected (skipBlank text) = readInteger low high expected text := by
  rw [readInteger, readInteger, skipBlank_skipBlank]

theorem readHex_skipBlank (text : Bytes) : readHex (skipBlank text) = readHex text := by
  rw [readHex, readHex, skipBlank_skipBlank]

theorem readHexOrNull_skipBlank (text : Bytes) :
    readHexOrNull (skipBlank text) = readHexOrNull text := by
  rw [readHexOrNull, readHexOrNull, skipBlank_skipBlank]

/-- An integer is read behind its sign or from its first digit on. -/
theorem exists_readNumber (h : IsWord n) {rest : Bytes} (hr : Stops rest) :
    ∃ b t, Utf8.bytes (toString n).toList ++ rest = b :: t ∧
      (b = 0x2D ∧ readNumber true t = .ok (.integer n, rest) ∨
        isDigit b = true ∧ readNumber false (b :: t) = .ok (.integer n, rest)) := by
  obtain ⟨hlow, hhigh⟩ := h
  cases n with
  | ofNat n =>
    have hnumber := readNumber_toDigits (n := n) (Int.ofNat_lt.mp hhigh) hr
    obtain ⟨b, bs, hbytes, hb⟩ := (whole_toDigits n).exists_bytes
    rw [Int.ofNat_eq_natCast, toList_toString_ofNat, hbytes]
    rw [hbytes] at hnumber
    exact ⟨b, bs ++ rest, rfl, .inr ⟨hb, hnumber⟩⟩
  | negSucc n =>
    rw [toList_toString_negSucc, Utf8.bytes_cons_ascii (by decide)]
    exact ⟨0x2D, _, rfl, .inl ⟨rfl, readNumber_neg_toDigits (by omega) (by omega) hr⟩⟩

theorem reads_readInteger (h : IsWord n) (low high : Int) (expected : String) :
    Reads (readInteger low high expected) (.integer n)
      (if low ≤ n ∧ n ≤ high then .ok n else .error (.data (.outOfRange n expected))) := by
  intro a s rest ha hs hr
  cases hs
  obtain ⟨b, t, hbytes, hb⟩ := exists_readNumber h hr
  rw [read_blanks readInteger_skipBlank ha, hbytes]
  have hread : readInteger low high expected (b :: t) =
      if low ≤ n ∧ n ≤ high then .ok (n, rest) else .error (.data (.outOfRange n expected)) := by
    rcases hb with ⟨rfl, hnumber⟩ | ⟨hb, hnumber⟩
    · rw [readInteger, skipBlank_cons rfl]
      simp [hnumber, bind, Except.bind]
    · rw [readInteger, skipBlank_cons (isBlank_of_isDigit hb)]
      simp [hnumber, bind, Except.bind, ne_of_isDigit hb 0x2D rfl, hb]
  rw [hread]
  split <;> rfl

/-- What hexadecimal text is read as. -/
def hexOutcome (s : String) : Except Fault Bytes :=
  (Hex.decode s).mapError fun e => .data (.refused e.message)

theorem readHex_string {cs t : List Char} (h : StringForm t cs) (rest : Bytes) :
    readHex (0x22 :: (Utf8.bytes t ++ 0x22 :: rest)) =
      (hexOutcome (String.ofList cs)).map fun b => (b, rest) := by
  rw [readHex, skipBlank_cons rfl, hexOutcome]
  simp only [readString_of_stringForm h, bind, Except.bind, if_pos]
  cases Hex.decode (String.ofList cs) <;> rfl

theorem bytes_string (t : List Char) (rest : Bytes) :
    Utf8.bytes ('"' :: (t ++ ['"'])) ++ rest = 0x22 :: (Utf8.bytes t ++ 0x22 :: rest) := by
  rw [Utf8.bytes_cons_ascii (by decide), Utf8.bytes_append, List.cons_append, List.append_assoc]
  rfl

theorem reads_readHex (s : String) : Reads readHex (.text s) (hexOutcome s) := by
  intro a t rest ha hs hr
  cases hs with
  | text h => rw [read_blanks readHex_skipBlank ha, bytes_string, readHex_string h]

theorem hexOutcome_of_spells {b : Bytes} (h : Hex.Spells s.toList b) : hexOutcome s = .ok b := by
  rw [hexOutcome, Hex.decode_eq_ok.mpr h]
  rfl

theorem hexOutcome_cases (s : String) :
    (∃ b, Hex.Spells s.toList b) ∨ ∃ fault, hexOutcome s = .error (.data fault) := by
  cases h : Hex.decode s with
  | ok b => exact .inl ⟨b, Hex.decode_eq_ok.mp h⟩
  | error e =>
    refine .inr ⟨.refused e.message, ?_⟩
    rw [hexOutcome, h]
    rfl

theorem reads_readHexOrNull_null : Reads readHexOrNull .null (.ok none) := by
  intro a t rest ha hs hr
  cases hs
  rw [read_blanks readHexOrNull_skipBlank ha]
  rfl

theorem readHexOrNull_of_ne {b : UInt8} (hb : isBlank b = false) (hn : b ≠ 0x6E) :
    readHexOrNull (b :: text) = (readHex (b :: text)).map fun r => (some r.1, r.2) := by
  rw [readHexOrNull, skipBlank_cons hb]
  split
  · rename_i heq
    cases heq
    exact absurd rfl hn
  · rfl

theorem reads_readHexOrNull_text (s : String) :
    Reads readHexOrNull (.text s) ((hexOutcome s).map some) := by
  intro a t rest ha hs hr
  cases hs with
  | @text t cs h =>
    rw [read_blanks readHexOrNull_skipBlank ha, bytes_string,
      readHexOrNull_of_ne rfl (by decide), readHex_string h]
    cases hexOutcome (String.ofList cs) <;> rfl

end

/-! Values of another kind than the expected one -/

/-- What is found in the place of a value: null, an integer of 64 bits or a string. -/
inductive FoundAs : Value → Found → Prop where
  | null : FoundAs .null .null
  | integer {n : Int} (h : IsWord n) : FoundAs (.integer n) (.integer n)
  | text (s : String) : FoundAs (.text s) (.text s)

section
variable {v : Value} {f : Found} {low high : Int} {expected : String} {text : Bytes} {b : UInt8}

theorem mismatch_of_foundAs (h : FoundAs v f) {s : List Char} (hs : ValueText s v) {rest : Bytes}
    (hr : Stops rest) (expected : String) :
    mismatch expected (Utf8.bytes s ++ rest) = .data (.wrongType f expected) := by
  cases h with
  | null =>
    cases hs
    rfl
  | integer h =>
    cases hs
    obtain ⟨b, t, hbytes, hb⟩ := exists_readNumber h hr
    rw [hbytes]
    rcases hb with ⟨rfl, hnumber⟩ | ⟨hb, hnumber⟩
    · rw [mismatch]
      simp [hnumber, Except.map]
    · have hne := ne_of_isDigit hb
      rw [mismatch]
      simp [hnumber, Except.map, hb, hne 0x6E rfl, hne 0x74 rfl, hne 0x66 rfl, hne 0x2D rfl]
  | text s =>
    cases hs with
    | text h =>
      rw [bytes_string, mismatch]
      simp [readString_of_stringForm h, isDigit, Except.map]

theorem readInteger_of_mismatch (hb : isBlank b = false) (hminus : b ≠ 0x2D)
    (hdigit : isDigit b = false) :
    readInteger low high expected (b :: text) = .error (mismatch expected (b :: text)) := by
  rw [readInteger, skipBlank_cons hb]
  simp [hminus, hdigit]

theorem readHex_of_mismatch (hb : isBlank b = false) (hquote : b ≠ 0x22) :
    readHex (b :: text) = .error (mismatch "a string" (b :: text)) := by
  rw [readHex, skipBlank_cons hb]
  simp [hquote]

theorem reads_readInteger_null : Reads (readInteger low high expected) .null
    (.error (.data (.wrongType .null expected))) := by
  intro a s rest ha hs hr
  have hmismatch := mismatch_of_foundAs .null hs hr expected
  cases hs
  rw [read_blanks readInteger_skipBlank ha]
  exact (readInteger_of_mismatch rfl (by decide) rfl).trans (congrArg Except.error hmismatch)

theorem reads_readInteger_text (s : String) : Reads (readInteger low high expected) (.text s)
    (.error (.data (.wrongType (.text s) expected))) := by
  intro a t rest ha hs hr
  have hmismatch := mismatch_of_foundAs (.text s) hs hr expected
  cases hs
  rw [read_blanks readInteger_skipBlank ha]
  exact (readInteger_of_mismatch rfl (by decide) rfl).trans (congrArg Except.error hmismatch)

theorem reads_readHex_null :
    Reads readHex .null (.error (.data (.wrongType .null "a string"))) := by
  intro a s rest ha hs hr
  have hmismatch := mismatch_of_foundAs .null hs hr "a string"
  cases hs
  rw [read_blanks readHex_skipBlank ha]
  exact (readHex_of_mismatch rfl (by decide)).trans (congrArg Except.error hmismatch)

theorem reads_readHex_integer {n : Int} (h : IsWord n) : Reads readHex (.integer n)
    (.error (.data (.wrongType (.integer n) "a string"))) := by
  intro a s rest ha hs hr
  have hmismatch := mismatch_of_foundAs (.integer h) hs hr "a string"
  cases hs
  obtain ⟨b, t, hbytes, hb⟩ := exists_readNumber h hr
  rw [read_blanks readHex_skipBlank ha]
  rw [hbytes] at hmismatch ⊢
  rw [← congrArg Except.error hmismatch]
  rcases hb with ⟨rfl, -⟩ | ⟨hb, -⟩
  · exact readHex_of_mismatch rfl (by decide)
  · exact readHex_of_mismatch (isBlank_of_isDigit hb) (ne_of_isDigit hb 0x22 rfl)

theorem reads_readHexOrNull_integer {n : Int} (h : IsWord n) : Reads readHexOrNull (.integer n)
    (.error (.data (.wrongType (.integer n) "a string"))) := by
  intro a s rest ha hs hr
  have hread := reads_readHex_integer h ha hs hr
  cases hs
  obtain ⟨b, t, hbytes, hb⟩ := exists_readNumber h hr
  rw [read_blanks readHexOrNull_skipBlank ha]
  rw [read_blanks readHex_skipBlank ha] at hread
  rw [hbytes] at hread ⊢
  have hne : isBlank b = false ∧ b ≠ 0x6E := by
    rcases hb with ⟨rfl, -⟩ | ⟨hb, -⟩
    · exact ⟨rfl, by decide⟩
    · exact ⟨isBlank_of_isDigit hb, ne_of_isDigit hb 0x6E rfl⟩
  rw [readHexOrNull_of_ne hne.1 hne.2, hread]
  rfl

end

namespace RecordFormat

variable {δ : Type} (f : RecordFormat δ)

/-- What a draft becomes by a member. -/
inductive Takes (d : δ) : Member → Except Fault δ → Prop where
  | other {n : String} {v : Value} (h : f.field? n = none) : Takes d (n, v) (.ok d)
  | taken {n : String} {v : Value} {m : Field δ} {o : Except Fault δ} (h : f.field? n = some m)
    (hset : m.isSet d = false) (hr : Reads (m.read d) v o) : Takes d (n, v) o
  | duplicate {n : String} {v : Value} {m : Field δ} (h : f.field? n = some m)
    (hset : m.isSet d = true) : Takes d (n, v) (.error (.data (.duplicate n)))

/-- What a draft becomes by members in turn, up to the first that it cannot take. -/
inductive Fills : δ → List Member → Except Fault δ → Prop where
  | nil (d : δ) : Fills d [] (.ok d)
  | cons {d d' : δ} {m : Member} {ms : List Member} {o : Except Fault δ}
    (h : f.Takes d m (.ok d')) (hs : Fills d' ms o) : Fills d (m :: ms) o
  | stop {d : δ} {m : Member} {e : Fault} (h : f.Takes d m (.error e)) (ms : List Member) :
    Fills d (m :: ms) (.error e)

variable {f} {d d' : δ} {m : Member} {ms ms' : List Member} {o : Except Fault δ}

theorem Fills.append (h : f.Fills d ms (.ok d')) (h' : f.Fills d' ms' o) :
    f.Fills d (ms ++ ms') o := by
  generalize ho : (Except.ok d' : Except Fault δ) = o' at h
  induction h with
  | nil d =>
    cases ho
    exact h'
  | cons hm _ ih => exact .cons hm (ih ho)
  | stop _ _ => cases ho

theorem readMember_of_takes {n : String} {v : Value} (h : f.Takes d (n, v) o)
    {b c s : List Char} {rest : Bytes} (hb : Blanks b) (hc : Blanks c) (hs : ValueText s v)
    (hr : Stops rest) :
    f.readMember d n (Utf8.bytes b ++ 0x3A :: (Utf8.bytes c ++ (Utf8.bytes s ++ rest))) =
      o.map fun x => (x, rest) := by
  have hcolon (text : Bytes) : skipBlank (Utf8.bytes b ++ 0x3A :: text) = 0x3A :: text := by
    rw [skipBlank_blanks hb, skipBlank_cons rfl]
  cases h with
  | other h =>
    rw [readMember, h]
    simp only [hcolon, if_pos]
    rw [passOver_of_valueText hc hs hr]
    rfl
  | taken h hset hread =>
    rw [readMember, h]
    simp only [hset, Bool.false_eq_true, if_false, hcolon, if_pos]
    exact hread hc hs hr
  | duplicate h hset =>
    rw [readMember, h]
    simp only [hset, if_pos]
    rfl

/-- What stands behind a member: a comma and the next one, or the closing brace. -/
def behindMember (f : RecordFormat δ) (fuel : Nat) (d : δ) (text : Bytes) :
    Except Fault (δ × Bytes) :=
  match skipBlank text with
  | [] => .error .truncated
  | b :: rest =>
    if b = 0x7D then f.close d rest
    else if b ≠ 0x2C then .error .malformed
    else match skipBlank rest with
      | [] => .error .truncated
      | c :: rest => if c = 0x22 then f.readMembers fuel d rest else .error .malformed

theorem readMembers_succ (fuel : Nat) (d : δ) (text : Bytes) : f.readMembers (fuel + 1) d text =
    (readString text >>= fun r => f.readMember d r.1 r.2 >>= fun r =>
      f.behindMember fuel r.1 r.2) := rfl

theorem behindMember_brace {e : List Char} (he : Blanks e) (fuel : Nat) (d : δ) (rest : Bytes) :
    f.behindMember fuel d (Utf8.bytes e ++ 0x7D :: rest) = f.close d rest := by
  rw [behindMember, skipBlank_blanks he, skipBlank_cons rfl]
  rfl

theorem behindMember_comma {a e : List Char} (ha : Blanks a) (he : Blanks e) (fuel : Nat) (d : δ)
    (text : Bytes) :
    f.behindMember fuel d (Utf8.bytes e ++ 0x2C :: (Utf8.bytes a ++ 0x22 :: text)) =
      f.readMembers fuel d text := by
  rw [behindMember, skipBlank_blanks he, skipBlank_cons rfl]
  simp only [skipBlank_blanks ha, skipBlank_cons (show isBlank 0x22 = false from rfl)]
  rfl

/-- One member is read: behind its opening quote it is taken, and blanks are left of it. -/
theorem readMembers_of_takes {s : List Char} (h : MemberText s m) :
    ∃ a t e, Blanks a ∧ Blanks e ∧ s = a ++ '"' :: t ∧
      ∀ {d o} (fuel rest), f.Takes d m o → Stops rest →
        f.readMembers (fuel + 1) d (Utf8.bytes t ++ rest) =
          o >>= fun d => f.behindMember fuel d (Utf8.bytes e ++ rest) := by
  cases h with
  | @mk a n cs b c s e v ha hn hb hc hv he =>
    refine ⟨a, _, e, ha, he, rfl, fun fuel rest htakes hr => ?_⟩
    rw [readMembers_succ, bytes_quote, bytes_colon, readString_of_stringForm hn]
    have hread := readMember_of_takes htakes hb hc hv (stops_blanks he hr)
    simp only [Utf8.bytes_append, List.append_assoc]
    change (f.readMember _ _ _ >>= _) = _
    rw [hread]
    cases ‹Except Fault δ› <;> rfl

/-- Members are read one after another. -/
theorem readMembers_of_fills {s : List Char} (h : MembersText s ms) :
    ∃ a t, Blanks a ∧ s = a ++ '"' :: t ∧ ms.length ≤ t.length + 1 ∧
      ∀ {d o} (fuel rest), ms.length ≤ fuel → f.Fills d ms o →
        f.readMembers fuel d (Utf8.bytes t ++ 0x7D :: rest) =
          o >>= fun d => f.close d rest := by
  induction h with
  | last h =>
    obtain ⟨a, t, e, ha, he, rfl, hread⟩ := readMembers_of_takes (f := f) h
    refine ⟨a, t, ha, rfl, Nat.le_add_left 1 t.length, fun fuel rest hfuel hfills => ?_⟩
    obtain ⟨k, rfl⟩ : ∃ k, fuel = k + 1 := Nat.exists_eq_add_one.mpr hfuel
    cases hfills with
    | cons htakes hs =>
      cases hs
      rw [hread k _ htakes (stops_brace rest)]
      exact behindMember_brace he k _ rest
    | stop htakes =>
      rw [hread k _ htakes (stops_brace rest)]
      rfl
  | @cons s t m ms h _ ih =>
    obtain ⟨a, t, e, ha, he, rfl, hread⟩ := readMembers_of_takes (f := f) h
    obtain ⟨a', t', ha', rfl, hlength, hrest⟩ := ih
    refine ⟨a, t ++ ',' :: (a' ++ '"' :: t'), ha, by simp, ?_, fun fuel rest hfuel hfills => ?_⟩
    · simp only [List.length_append, List.length_cons]
      omega
    obtain ⟨k, rfl⟩ : ∃ k, fuel = k + 1 :=
      Nat.exists_eq_add_one.mpr (Nat.lt_of_lt_of_le (Nat.succ_pos ms.length) hfuel)
    rw [bytes_comma, bytes_quote]
    cases hfills with
    | cons htakes hs =>
      rw [hread k _ htakes (stops_comma _)]
      refine (behindMember_comma ha' he k _ _).trans ?_
      exact hrest k rest (Nat.le_of_succ_le_succ hfuel) hs
    | stop htakes =>
      rw [hread k _ htakes (stops_comma _)]
      rfl

/-- A finished draft, unless something is missing. -/
def finish (f : RecordFormat δ) (d : δ) : Except Fault δ :=
  match f.fields.find? fun m => m.required && !m.isSet d with
  | some m => .error (.data (.missing m.name))
  | none => .ok d

theorem close_eq (d : δ) (rest : Bytes) : f.close d rest = (f.finish d).map fun d => (d, rest) := by
  unfold close finish
  cases f.fields.find? fun m => m.required && !m.isSet d <;> rfl

theorem readObject_of_fills {s : List Char} (h : MembersText s ms) (hf : f.Fills f.blank ms o)
    (rest : Bytes) : f.readObject (Utf8.bytes s ++ 0x7D :: rest) =
      (o >>= f.finish).map fun d => (d, rest) := by
  obtain ⟨a, t, ha, rfl, hlength, hread⟩ := readMembers_of_fills (f := f) h
  rw [bytes_quote, readObject, skipBlank_blanks ha, skipBlank_cons rfl]
  have hfuel : ms.length ≤ (Utf8.bytes t ++ 0x7D :: rest).length := by
    have hbytes := Utf8.length_le_length_bytes t
    simp only [List.length_append, List.length_cons]
    omega
  refine (hread _ rest hfuel hf).trans ?_
  simp only [close_eq]
  cases o <;> rfl

theorem readObject_empty {b : List Char} (hb : Blanks b) (rest : Bytes) :
    f.readObject (Utf8.bytes b ++ 0x7D :: rest) =
      (f.finish f.blank).map fun d => (d, rest) := by
  rw [readObject, skipBlank_blanks hb, skipBlank_cons rfl]
  exact close_eq f.blank rest

theorem parse_of_readObject {a c : List Char} (ha : Blanks a) (hc : Blanks c) {text : Bytes}
    (h : f.readObject text = o.map fun d => (d, Utf8.bytes c)) :
    f.parse (Utf8.bytes a ++ 0x7B :: text) = o := by
  have hblank : skipBlank (Utf8.bytes c) = [] := by
    have hskip := skipBlank_blanks hc []
    rwa [List.append_nil] at hskip
  have hread : f.read (Utf8.bytes a ++ 0x7B :: text) = f.readObject text := by
    rw [read, skipBlank_blanks ha, skipBlank_cons rfl]
    rfl
  rw [parse, hread, h]
  cases o with
  | error e => rfl
  | ok d =>
    simp [Except.map, bind, Except.bind, hblank, pure, Except.pure]

theorem bytes_object (a s c : List Char) :
    Utf8.bytes (a ++ '\x7b' :: (s ++ '\x7d' :: c)) =
      Utf8.bytes a ++ 0x7B :: (Utf8.bytes s ++ 0x7D :: Utf8.bytes c) := by
  rw [Utf8.bytes_append, Utf8.bytes_cons_ascii (by decide), Utf8.bytes_append,
    Utf8.bytes_cons_ascii (by decide)]
  rfl

/-- What a record makes of an object text is what its members make of the blank draft, with nothing
that is required missing at the end. -/
theorem parse_of_fills {text : List Char} (h : ObjectText text ms) (hf : f.Fills f.blank ms o) :
    f.parse (Utf8.bytes text) = o >>= f.finish := by
  cases h with
  | @empty a b c ha hb hc =>
    cases hf
    rw [bytes_object]
    exact parse_of_readObject ha hc (readObject_empty hb (Utf8.bytes c))
  | @members a s c ms ha h hc =>
    rw [bytes_object]
    exact parse_of_readObject ha hc (readObject_of_fills h hf (Utf8.bytes c))

end RecordFormat
end ChainRollback.Json
