import ChainRollback.Json.Printer
import ChainRollback.Proofs.Json.Grammar

/-! # Written records are object texts

In both layouts what is written of a record is an object text with its members in their order, if
their names need no escapes.
-/
namespace ChainRollback.Json

instance (c : Char) : Decidable (IsPlain c) :=
  inferInstanceAs (Decidable (0x20 ≤ c.toNat ∧ c ≠ '"' ∧ c ≠ '\\'))

/-- A text that needs no escapes. -/
def IsPlainText (s : String) : Prop := ∀ c ∈ s.toList, IsPlain c

instance (s : String) : Decidable (IsPlainText s) := List.decidableBAll IsPlain s.toList

/-- What a scalar is read as. -/
def Scalar.value : Scalar → Value
  | null => .null
  | integer n => .integer n
  | hex b => .text (Hex.encode b)

/-- The member of an object that a name and a scalar are. -/
def memberOf (m : String × Scalar) : Member := (m.1, m.2.value)

section
variable {s : String} {a e : List Char} {m : String × Scalar} {ms : List (String × Scalar)}

theorem stringForm_of_plain {cs : List Char} (h : ∀ c ∈ cs, IsPlain c) : StringForm cs cs := by
  induction cs with
  | nil => exact .nil
  | cons c cs ih =>
    obtain ⟨hc, hcs⟩ := List.forall_mem_cons.mp h
    exact .plain hc (ih hcs)

theorem isPlain_of_isDigit {c : Char} {n : Nat} (h : Hex.IsDigit c n) : IsPlain c := by
  unfold Hex.IsDigit at h
  have hle : 0x20 ≤ c.toNat := by omega
  refine ⟨hle, ?_, ?_⟩
  · rintro rfl
    have hquote : '"'.toNat = 0x22 := rfl
    omega
  · rintro rfl
    have hslash : '\\'.toNat = 0x5C := rfl
    omega

theorem isPlainText_encode (b : Bytes) : IsPlainText (Hex.encode b) := by
  intro c hc
  obtain ⟨n, hn⟩ := (Hex.spells_encode b).exists_isDigit c hc
  exact isPlain_of_isDigit hn

theorem blanks_nil : Blanks [] := by simp [Blanks]

theorem toList_hex (b : Bytes) :
    (Scalar.hex b).render.toList = '"' :: ((Hex.encode b).toList ++ ['"']) := by
  simp [Scalar.render, String.toList_append]

theorem toList_renderName (n : String) :
    (renderName n).toList = '"' :: (n.toList ++ ['"', ':']) := by
  simp [renderName, String.toList_append]

theorem valueText_render (x : Scalar) : ValueText x.render.toList x.value := by
  cases x with
  | null => exact .null
  | integer n => exact .integer n
  | hex b =>
    have htext := ValueText.text (stringForm_of_plain (isPlainText_encode b))
    rwa [String.ofList_toList, ← toList_hex] at htext

/-- A member with its name as it is, and blanks where they may be. -/
theorem memberText_of_plain (hm : IsPlainText m.1) {c : List Char} (ha : Blanks a) (hc : Blanks c)
    (he : Blanks e) :
    MemberText (a ++ ((renderName m.1).toList ++ (c ++ (m.2.render.toList ++ e))))
      (memberOf m) := by
  have htext := MemberText.mk ha (stringForm_of_plain hm) blanks_nil hc (valueText_render m.2) he
  rw [String.ofList_toList] at htext
  rw [toList_renderName]
  simpa [memberOf] using htext

/-- A layout of members: whatever blanks stand around one, it is the text of that member. -/
def LaysOut (text : String × Scalar → String) (m : String × Scalar) : Prop :=
  ∀ {a e : List Char}, Blanks a → Blanks e → MemberText (a ++ ((text m).toList ++ e)) (memberOf m)

section
variable {separator : String} {c : List Char} {text : String × Scalar → String}

theorem membersText_intercalate (hs : separator.toList = ',' :: c) (hc : Blanks c) (hne : ms ≠ [])
    (h : ∀ m ∈ ms, LaysOut text m) (ha : Blanks a) (he : Blanks e) :
    MembersText (a ++ ((String.intercalate separator (ms.map text)).toList ++ e))
      (ms.map memberOf) := by
  induction ms generalizing a with
  | nil => exact absurd rfl hne
  | cons m ms ih =>
    obtain ⟨hm, hms⟩ := List.forall_mem_cons.mp h
    cases ms with
    | nil =>
      rw [List.map_singleton, List.map_singleton, String.intercalate_singleton]
      exact .last (hm ha he)
    | cons m' ms =>
      have hcons := MembersText.cons (hm ha blanks_nil) (ih (List.cons_ne_nil m' ms) hms hc)
      have hjoin : (String.intercalate separator ((m :: m' :: ms).map text)).toList =
          (text m).toList ++ ',' ::
            (c ++ (String.intercalate separator ((m' :: ms).map text)).toList) := by
        rw [List.map_cons, List.map_cons, String.intercalate_cons_cons, String.toList_append,
          String.toList_append, hs]
        simp
      rw [hjoin]
      simpa using hcons

theorem objectText_intercalate (hs : separator.toList = ',' :: c) (hc : Blanks c)
    (h : ∀ m ∈ ms, LaysOut text m) (ha : Blanks a) (he : Blanks e) :
    ObjectText ('\x7b' :: (a ++ ((String.intercalate separator (ms.map text)).toList ++
      (e ++ ['\x7d'])))) (ms.map memberOf) := by
  cases ms with
  | nil =>
    have hblanks : Blanks (a ++ e) := by
      intro x hx
      exact (List.mem_append.mp hx).elim (ha x) (he x)
    have hempty := ObjectText.empty blanks_nil hblanks blanks_nil
    rw [List.append_assoc] at hempty
    exact hempty
  | cons m ms =>
    have hmembers := membersText_intercalate hs hc (List.cons_ne_nil m ms) h ha he
    have hobject := ObjectText.members blanks_nil hmembers blanks_nil
    rw [List.append_assoc, List.append_assoc] at hobject
    exact hobject

end

theorem objectText_compact (h : ∀ m ∈ ms, IsPlainText m.1) :
    ObjectText (compact ms).toList (ms.map memberOf) := by
  have hlayout : ∀ m ∈ ms, LaysOut (fun m => renderName m.1 ++ m.2.render) m := by
    intro m hm a e ha he
    have htext := memberText_of_plain (h m hm) ha blanks_nil he
    rw [String.toList_append, List.append_assoc]
    exact htext
  have hcomma : ",".toList = ',' :: [] := rfl
  have hobject := objectText_intercalate hcomma blanks_nil hlayout blanks_nil blanks_nil
  simpa [compact, String.toList_append] using hobject

theorem objectText_pretty (h : ∀ m ∈ ms, IsPlainText m.1) :
    ObjectText (pretty ms).toList (ms.map memberOf) := by
  have hline : Blanks ['\n'] := by simp [Blanks]
  have hlayout : ∀ m ∈ ms, LaysOut (fun m => "  " ++ renderName m.1 ++ " " ++ m.2.render) m := by
    intro m hm a e ha he
    have hindent : Blanks (a ++ [' ', ' ']) := by
      intro x hx
      rcases List.mem_append.mp hx with hx | hx
      · exact ha x hx
      · simp only [List.mem_cons, List.not_mem_nil, or_false, or_self] at hx
        exact .inl hx
    have htext := memberText_of_plain (h m hm) hindent (c := [' ']) (by simp [Blanks]) he
    simpa [String.toList_append] using htext
  have hcomma : ",\n".toList = ',' :: ['\n'] := rfl
  have hobject := objectText_intercalate hcomma hline hlayout hline hline
  simpa [pretty, String.toList_append] using hobject

end
end ChainRollback.Json
