import ChainRollback.Proofs.Json.Printer
import ChainRollback.Proofs.Signer.Drafts

/-! # A sign state is told by its members

Which sign state a text tells depends on its members of five names only, and not on their order. A
text that lacks one of the numbers, has a member of a name twice, or has a value outside its range
is refused, so no value is made up.
-/
namespace ChainRollback.SignState
open Json

inductive TellsSignature : Option Bytes → List Member → Prop where
  | absent : TellsSignature none []
  | null : TellsSignature none [("signature", .null)]
  | hex {s : String} {b : Bytes} (h : Hex.Spells s.toList b) :
    TellsSignature (some b) [("signature", .text s)]

inductive TellsSignbytes : Bytes → List Member → Prop where
  | absent : TellsSignbytes [] []
  | hex {s : String} {b : Bytes} (h : Hex.Spells s.toList b) :
    TellsSignbytes b [("signbytes", .text s)]

/-- The members that a sign state has a name for are, in any order, its three numbers, and its
signature and its signed bytes or not. -/
def Tells (ms : List Member) (s : SignState) : Prop :=
  ∃ signature signbytes, TellsSignature s.signature signature ∧
    TellsSignbytes s.signbytes signbytes ∧
    (named ms).Perm (("height", .integer s.height.toInt) :: ("round", .integer s.round.toInt) ::
      ("step", .integer s.step.toUInt8.toNat) :: (signature ++ signbytes))

/-- Members that tell a sign state are changed so that they tell none. -/
inductive Spoils : List Member → List Member → Prop where
  | removed {front back : List Member} {n : String} {v : Value} (hn : n ∈ numbers.map Prod.fst) :
    Spoils (front ++ (n, v) :: back) (front ++ back)
  | repeated {front between back : List Member} {n : String} {v v' : Value}
    (hn : n ∈ memberNames) : Spoils (front ++ (n, v) :: (between ++ back))
      (front ++ (n, v) :: (between ++ (n, v') :: back))
  | outOfRange {front back : List Member} {n : String} {i k low high : Int}
    (hn : (n, low, high) ∈ numbers) (hword : IsWord k) (hk : ¬(low ≤ k ∧ k ≤ high)) :
    Spoils (front ++ (n, .integer i) :: back) (front ++ (n, .integer k) :: back)
  | notHex {front back : List Member} {n s t : String} (hn : n = "signature" ∨ n = "signbytes")
    (ht : t.length % 2 = 1 ∨ ∃ c ∈ t.toList, ∀ k, ¬Hex.IsDigit c k) :
    Spoils (front ++ (n, .text s) :: back) (front ++ (n, .text t) :: back)

section
variable {ms ms' : List Member} {s : SignState} {text : String}

/-- The draft of a sign state. -/
theorem exists_setAll_of_told {signature signbytes : List Member}
    (hsig : TellsSignature s.signature signature) (hbytes : TellsSignbytes s.signbytes signbytes) :
    ∃ d, d.state = s ∧ format.finish d = .ok d ∧ SetAll format.blank
      (("height", .integer s.height.toInt) :: ("round", .integer s.round.toInt) ::
        ("step", .integer s.step.toUInt8.toNat) :: (signature ++ signbytes)) d := by
  obtain ⟨height, round, step, sig, bytes⟩ := s
  have hnumbers {rest : List Member} {d : Draft}
      (h : SetAll { height := some height, round := some round, step := some step } rest d) :
      SetAll format.blank (("height", .integer height.toInt) :: ("round", .integer round.toInt) ::
        ("step", .integer step.toUInt8.toNat) :: rest) d :=
    .cons (.height height) (.cons (.round round) (.cons (.step step) h))
  cases hsig with
  | absent =>
    cases hbytes with
    | absent => exact ⟨_, rfl, rfl, hnumbers (.nil _)⟩
    | hex h => exact ⟨_, rfl, rfl, hnumbers (.cons (.signbytes h) (.nil _))⟩
  | null =>
    cases hbytes with
    | absent => exact ⟨_, rfl, rfl, hnumbers (.cons .noSignature (.nil _))⟩
    | hex h => exact ⟨_, rfl, rfl, hnumbers (.cons .noSignature (.cons (.signbytes h) (.nil _)))⟩
  | hex h' =>
    cases hbytes with
    | absent => exact ⟨_, rfl, rfl, hnumbers (.cons (.signature h') (.nil _))⟩
    | hex h =>
      exact ⟨_, rfl, rfl, hnumbers (.cons (.signature h') (.cons (.signbytes h) (.nil _)))⟩

theorem SetAll.sets {d d' : Draft} (h : SetAll d ms d') : ∀ m ∈ ms, ∃ g, Sets m g := by
  induction h with
  | nil => simp
  | cons hm _ ih => exact List.forall_mem_cons.mpr ⟨⟨_, hm⟩, ih⟩

theorem nodup_told {sig : Option Bytes} {bytes : Bytes} {signature signbytes : List Member}
    (hsig : TellsSignature sig signature) (hbytes : TellsSignbytes bytes signbytes)
    (h r k : Value) :
    ((("height", h) :: ("round", r) :: ("step", k) :: (signature ++ signbytes)).map
      Prod.fst).Nodup := by
  cases hsig <;> cases hbytes <;> simp

theorem Tells.exists_setAll (h : Tells ms s) : Fits (named ms) ∧ ∃ d, d.state = s ∧
    format.finish d = .ok d ∧ SetAll format.blank (named ms) d := by
  obtain ⟨signature, signbytes, hsig, hbytes, hperm⟩ := h
  obtain ⟨d, hstate, hfinish, hset⟩ := exists_setAll_of_told hsig hbytes
  have hnodup := nodup_told hsig hbytes (.integer s.height.toInt) (.integer s.round.toInt)
    (.integer s.step.toUInt8.toNat)
  refine ⟨⟨fun m hm => hset.sets m (hperm.mem_iff.mp hm), ?_⟩, d, hstate, hfinish, ?_⟩
  · exact (hperm.map Prod.fst).nodup_iff.mpr hnodup
  · exact hset.perm hperm.symm hnodup

theorem parse_of_fills {o : Except Fault Draft} (h : ObjectText text.toList ms)
    (hf : format.Fills format.blank ms o) :
    parse (Utf8.encode text) = (o >>= format.finish).map Draft.state := by
  rw [parse, Utf8.encode_eq_bytes, RecordFormat.parse_of_fills h hf]

/-- A sign state is read from a text that tells it. -/
theorem parse_of_tells (h : ObjectText text.toList ms) (hs : Tells ms s) :
    parse (Utf8.encode text) = .ok s := by
  obtain ⟨hfits, d, hstate, hfinish, hset⟩ := hs.exists_setAll
  have hfills := hset.fills hfits.nodup fun x hx _ => isSet_blank hx
  rw [parse_of_fills h hfills]
  change (format.finish d).map Draft.state = _
  rw [hfinish, ← hstate]
  rfl

/-! Spoiled members -/

theorem parse_of_refuses {m : Member} {front back : List Member}
    (h : ObjectText text.toList (front ++ m :: back)) (hfits : Fits (named front))
    (hm : Refuses m) (hnot : m.1 ∉ front.map Prod.fst) :
    ∃ fault, parse (Utf8.encode text) = .error (.data fault) := by
  obtain ⟨x, fault, hx, hreads⟩ := hm
  obtain ⟨hmem, hname⟩ := mem_fields hx
  obtain ⟨d, hfills, hset⟩ := hfits.exists_fills
  have hfree : x.isSet d = false := by
    rw [← Bool.not_eq_true, hset x hmem, hname]
    exact hnot
  have hstop : format.Fills d (m :: back) (.error (.data fault)) :=
    .stop (.taken hx hfree (hreads d)) back
  refine ⟨fault, ?_⟩
  rw [parse_of_fills h (hfills.append hstop)]
  rfl

theorem parse_of_repeated {n : String} {v : Value} {front back : List Member} (hn : n ∈ memberNames)
    (h : ObjectText text.toList (front ++ (n, v) :: back)) (hfits : Fits (named front))
    (hmem : n ∈ front.map Prod.fst) :
    parse (Utf8.encode text) = .error (.data (.duplicate n)) := by
  obtain ⟨x, hx⟩ := exists_field hn
  obtain ⟨hfield, hname⟩ := mem_fields hx
  obtain ⟨d, hfills, hset⟩ := hfits.exists_fills
  have htaken : x.isSet d = true := (hset x hfield).mpr (hname ▸ hmem)
  have hstop : format.Fills d ((n, v) :: back) (.error (.data (.duplicate n))) :=
    .stop (.duplicate hx htaken) back
  rw [parse_of_fills h (hfills.append hstop)]
  rfl

theorem exists_required {n : String} (hn : n ∈ numbers.map Prod.fst) :
    ∃ x, format.field? n = some x ∧ x.required = true := by
  simp only [numbers, List.map_cons, List.map_nil, List.mem_cons, List.not_mem_nil, or_false] at hn
  rcases hn with rfl | rfl | rfl <;> exact ⟨_, rfl, rfl⟩

theorem parse_of_missing {n : String} (hn : n ∈ numbers.map Prod.fst)
    (h : ObjectText text.toList ms) (hfits : Fits (named ms)) (hnot : n ∉ ms.map Prod.fst) :
    ∃ fault, parse (Utf8.encode text) = .error (.data fault) := by
  obtain ⟨d, hfills, hset⟩ := hfits.exists_fills
  rw [parse_of_fills h hfills]
  obtain ⟨x, hx, hrequired⟩ := exists_required hn
  obtain ⟨hfield, hname⟩ := mem_fields hx
  have hfree : x.isSet d = false := by
    rw [← Bool.not_eq_true, hset x hfield, hname]
    exact hnot
  have hsome : (format.fields.find? fun x => x.required && !x.isSet d).isSome := by
    rw [List.find?_isSome]
    exact ⟨x, hfield, by simp [hrequired, hfree]⟩
  obtain ⟨y, hy⟩ := Option.isSome_iff_exists.mp hsome
  refine ⟨.missing y.name, ?_⟩
  change (format.finish d).map Draft.state = _
  rw [RecordFormat.finish, hy]
  rfl

theorem mem_memberNames_of_number {n : String} (hn : n ∈ numbers.map Prod.fst) :
    n ∈ memberNames := by
  obtain ⟨x, hx, -⟩ := exists_required hn
  obtain ⟨hfield, rfl⟩ := mem_fields hx
  exact name_mem hfield

theorem fits_of_sublist (h : Fits (named ms')) (hs : ms.Sublist ms') : Fits (named ms) :=
  h.sublist (hs.filter _)

theorem not_mem_front {n : String} {v : Value} {front back : List Member}
    (h : Fits (named (front ++ (n, v) :: back))) (hn : n ∈ memberNames) :
    n ∉ front.map Prod.fst := by
  intro hmem
  apply h.not_mem_named hn
  rw [List.map_append]
  exact List.mem_append_left _ hmem

/-- A text with spoiled members is refused for what it says. -/
theorem parse_of_spoils (hs : Tells ms' s) (hspoils : Spoils ms' ms)
    (h : ObjectText text.toList ms) :
    ∃ fault, parse (Utf8.encode text) = .error (.data fault) := by
  obtain ⟨hfits, -⟩ := hs.exists_setAll
  cases hspoils with
  | @removed front back n v hn =>
    have hrest : Fits (named (front ++ back)) := fits_of_sublist hfits (by simp)
    exact parse_of_missing hn h hrest (hfits.not_mem_named (mem_memberNames_of_number hn))
  | @repeated front between back n v v' hn =>
    have hfront : Fits (named (front ++ (n, v) :: between)) := fits_of_sublist hfits (by simp)
    have htext : ObjectText text.toList ((front ++ (n, v) :: between) ++ (n, v') :: back) := by
      rwa [List.append_assoc]
    exact ⟨_, parse_of_repeated hn htext hfront (by simp)⟩
  | @outOfRange front back n i k low high hn hword hk =>
    have hname := mem_memberNames_of_number (List.mem_map_of_mem hn)
    exact parse_of_refuses h (fits_of_sublist hfits (by simp)) (refuses_outOfRange hn hword hk)
      (not_mem_front hfits hname)
  | @notHex front back n s t hn ht =>
    have hname : n ∈ memberNames := by
      rcases hn with rfl | rfl <;> decide
    exact parse_of_refuses h (fits_of_sublist hfits (by simp)) (refuses_notHex hn ht)
      (not_mem_front hfits hname)

/-! Members that fit tell a sign state, once the three numbers are among them -/

theorem Fits.exists_perm {n : String} (h : Fits ms) (hn : n ∈ ms.map Prod.fst) :
    ∃ v ms', ms.Perm ((n, v) :: ms') ∧ Fits ((n, v) :: ms') := by
  obtain ⟨⟨n, v⟩, hm, rfl⟩ := List.mem_map.mp hn
  obtain ⟨front, back, rfl⟩ := List.append_of_mem hm
  exact ⟨v, front ++ back, List.perm_middle, h.perm List.perm_middle⟩

theorem Fits.tail {m : Member} (h : Fits (m :: ms)) : Fits ms :=
  h.sublist (List.sublist_cons_self m ms)

section
variable {v : Value} {g : Draft → Draft}

theorem Sets.exists_height (h : Sets ("height", v) g) : ∃ x : Height, v = .integer x.toInt := by
  -- Names are literals, which `cases` cannot compare, so the member is made a variable first.
  generalize hm : ("height", v) = m at h
  cases h <;> simp at hm
  exact ⟨_, hm⟩

theorem Sets.exists_round (h : Sets ("round", v) g) : ∃ x : Int32, v = .integer x.toInt := by
  generalize hm : ("round", v) = m at h
  cases h <;> simp at hm
  exact ⟨_, hm⟩

theorem Sets.exists_step (h : Sets ("step", v) g) :
    ∃ k : SignStep, v = .integer k.toUInt8.toNat := by
  generalize hm : ("step", v) = m at h
  cases h <;> simp at hm
  exact ⟨_, hm⟩

theorem exists_tellsSignature (h : ms = [] ∨ ∃ v g, ms = [("signature", v)] ∧
    Sets ("signature", v) g) : ∃ sig, TellsSignature sig ms := by
  rcases h with rfl | ⟨v, g, rfl, h⟩
  case inl => exact ⟨none, .absent⟩
  generalize hm : ("signature", v) = m at h
  cases h <;> simp at hm
  · exact ⟨none, hm ▸ .null⟩
  · rename_i b hb
    exact ⟨some b, hm ▸ .hex hb⟩

theorem exists_tellsSignbytes (h : ms = [] ∨ ∃ v g, ms = [("signbytes", v)] ∧
    Sets ("signbytes", v) g) : ∃ bytes, TellsSignbytes bytes ms := by
  rcases h with rfl | ⟨v, g, rfl, h⟩
  case inl => exact ⟨[], .absent⟩
  generalize hm : ("signbytes", v) = m at h
  cases h <;> simp at hm
  rename_i b hb
  exact ⟨b, hm ▸ .hex hb⟩

end

/-- The member of a name, if there is one, is put in front of those of other names. -/
theorem Fits.exists_split (h : Fits ms) (n : String) : ∃ held ms', ms.Perm (held ++ ms') ∧
    Fits ms' ∧ n ∉ ms'.map Prod.fst ∧ (held = [] ∨ ∃ v g, held = [(n, v)] ∧ Sets (n, v) g) := by
  by_cases hmem : n ∈ ms.map Prod.fst
  case neg => exact ⟨[], ms, .refl ms, h, hmem, .inl rfl⟩
  obtain ⟨v, ms', hp, hfits⟩ := h.exists_perm hmem
  obtain ⟨g, hsets⟩ := hfits.sets _ (.head ms')
  exact ⟨[(n, v)], ms', hp, hfits.tail, hfits.not_mem, .inr ⟨v, g, rfl, hsets⟩⟩

theorem Fits.eq_nil (h : Fits ms) (hnot : ∀ n ∈ memberNames, n ∉ ms.map Prod.fst) : ms = [] := by
  cases ms with
  | nil => rfl
  | cons m ms =>
    obtain ⟨g, hm⟩ := h.sets m (.head ms)
    exact absurd (.head _) (hnot m.1 hm.mem_memberNames)

theorem Fits.exists_numbers (h : Fits ms)
    (hall : ∀ n ∈ numbers.map Prod.fst, n ∈ ms.map Prod.fst) :
    ∃ (x : Height) (r : Int32) (k : SignStep) (ms' : List Member), Fits ms' ∧
      ms.Perm (("height", .integer x.toInt) :: ("round", .integer r.toInt) ::
        ("step", .integer k.toUInt8.toNat) :: ms') := by
  obtain ⟨v, ms₁, hp, h₁⟩ := h.exists_perm (hall "height" (by decide))
  obtain ⟨g, hheight⟩ := h₁.sets _ (.head ms₁)
  obtain ⟨x, rfl⟩ := hheight.exists_height
  have hround : "round" ∈ ms₁.map Prod.fst := by
    simpa using (hp.map Prod.fst).mem_iff.mp (hall "round" (by decide))
  obtain ⟨v, ms₂, hp₁, h₂⟩ := h₁.tail.exists_perm hround
  obtain ⟨g, hround⟩ := h₂.sets _ (.head ms₂)
  obtain ⟨r, rfl⟩ := hround.exists_round
  have hp := hp.trans (hp₁.cons _)
  have hstep : "step" ∈ ms₂.map Prod.fst := by
    simpa using (hp.map Prod.fst).mem_iff.mp (hall "step" (by decide))
  obtain ⟨v, ms₃, hp₂, h₃⟩ := h₂.tail.exists_perm hstep
  obtain ⟨g, hstep⟩ := h₃.sets _ (.head ms₃)
  obtain ⟨k, rfl⟩ := hstep.exists_step
  exact ⟨x, r, k, ms₃, h₃.tail, hp.trans ((hp₂.cons _).cons _)⟩

theorem Fits.exists_tells (h : Fits (named ms))
    (hall : ∀ n ∈ numbers.map Prod.fst, n ∈ ms.map Prod.fst) : ∃ s, Tells ms s := by
  obtain ⟨x, r, k, ms₁, h₁, hp⟩ := h.exists_numbers fun n hn =>
    (mem_names_iff (mem_memberNames_of_number hn)).mpr (hall n hn)
  obtain ⟨signature, ms₂, hp₁, h₂, hnosig, hheld⟩ := h₁.exists_split "signature"
  obtain ⟨sig, hsig⟩ := exists_tellsSignature hheld
  obtain ⟨signbytes, ms₃, hp₂, h₃, hnobytes, hheld⟩ := h₂.exists_split "signbytes"
  obtain ⟨bytes, hbytes⟩ := exists_tellsSignbytes hheld
  have hp := hp.trans ((((hp₁.trans (hp₂.append_left signature)).cons _).cons _).cons _)
  have hnodup := (h.perm hp).nodup
  simp only [List.map_cons, List.map_append, List.nodup_cons, List.mem_cons, List.mem_append,
    not_or] at hnodup
  obtain ⟨⟨-, -, -, -, hheight⟩, ⟨-, -, -, hround⟩, ⟨-, -, hstep⟩, -⟩ := hnodup
  have hsub : ms₃ ⊆ ms₂ := fun m hm => hp₂.mem_iff.mpr (List.mem_append_right _ hm)
  have hnil : ms₃ = [] := by
    refine h₃.eq_nil fun n hn hmem => ?_
    simp only [memberNames, List.mem_cons, List.not_mem_nil, or_false] at hn
    rcases hn with rfl | rfl | rfl | rfl | rfl
    · exact hheight hmem
    · exact hround hmem
    · exact hstep hmem
    · exact hnosig (List.map_subset _ hsub hmem)
    · exact hnobytes hmem
  subst hnil
  rw [List.append_nil] at hp
  exact ⟨⟨x, r, k, sig, bytes⟩, signature, signbytes, hsig, hbytes, hp⟩

/-- Members that tell no sign state are refused. -/
theorem tells_or_refused (hfound : ∀ m ∈ named ms, ∃ f, FoundAs m.2 f)
    (h : ObjectText text.toList ms) :
    (∃ s, Tells ms s) ∨ ∃ fault, parse (Utf8.encode text) = .error (.data fault) := by
  have hnil : Fits (named []) := ⟨by simp [named], by simp [named]⟩
  rcases fits_or_not hfound hnil with hfits | ⟨front, ⟨n, v⟩, back, rfl, hfront, hn, hnot⟩
  · rw [List.nil_append] at hfits
    by_cases hmissing : ∃ n ∈ numbers.map Prod.fst, n ∉ ms.map Prod.fst
    · obtain ⟨n, hn, hnot⟩ := hmissing
      exact .inr (parse_of_missing hn h hfits hnot)
    · have hall : ∀ n ∈ numbers.map Prod.fst, n ∈ ms.map Prod.fst := by simpa using hmissing
      exact .inl (hfits.exists_tells hall)
  · rcases hnot with hmem | ⟨hmem, hrefuses⟩
    · exact .inr ⟨_, parse_of_repeated hn h hfront hmem⟩
    · exact .inr (parse_of_refuses h hfront hrefuses hmem)

end

/-- A sign state is read from every text whose members tell it, in whatever order and among whatever
members of other names. A text whose members were spoiled is refused for what it says, and so is
every text whose named members are null, integers or strings and tell no sign state. -/
theorem parse_by_members {text : String} {ms : List Member} (h : ObjectText text.toList ms) :
    (∀ s, Tells ms s → parse (Utf8.encode text) = .ok s) ∧
      (∀ told s, Tells told s → Spoils told ms →
        ∃ fault, parse (Utf8.encode text) = .error (.data fault)) ∧
      ((∀ m ∈ named ms, ∃ f, FoundAs m.2 f) →
        (∃ s, Tells ms s) ∨ ∃ fault, parse (Utf8.encode text) = .error (.data fault)) :=
  ⟨fun _ hs => parse_of_tells h hs, fun _ _ hs hspoils => parse_of_spoils hs hspoils h,
    fun hfound => tells_or_refused hfound h⟩

/-- The members of a sign state among another one, in another order. -/
def shuffled : List (String × Scalar) :=
  [("path", .hex []), ("step", .integer 3), ("height", .integer 7), ("signbytes", .hex [0xAB]),
    ("round", .integer (-1))]

/-- A number is missing. -/
def withoutHeight : List (String × Scalar) := [("round", .integer 0), ("step", .integer 2)]

theorem parse_by_members_of_shuffled :
    parse (Utf8.encode (Json.pretty shuffled)) =
        .ok { height := 7, round := -1, step := .precommit, signbytes := [0xAB] } ∧
      ∃ fault, parse (Utf8.encode (Json.compact withoutHeight)) = .error (.data fault) := by
  have htext : ObjectText (Json.pretty shuffled).toList (shuffled.map memberOf) :=
    objectText_pretty (by decide)
  have htext' : ObjectText (Json.compact withoutHeight).toList (withoutHeight.map memberOf) :=
    objectText_compact (by decide)
  constructor
  · refine (parse_by_members htext).1 _ ?_
    refine ⟨[], _, .absent, .hex (Hex.spells_encode [0xAB]), ?_⟩
    decide
  · have htells : Tells (("height", .integer 7) :: withoutHeight.map memberOf)
        { height := 7, step := .prevote } := ⟨[], [], .absent, .absent, by decide⟩
    have hspoils : Spoils (("height", .integer 7) :: withoutHeight.map memberOf)
        (withoutHeight.map memberOf) := @Spoils.removed [] _ "height" _ (by decide)
    exact (parse_by_members htext').2.1 _ _ htells hspoils

end ChainRollback.SignState
