import ChainRollback.Proofs.Json.Members
import ChainRollback.Signer.SignState

/-! # What members do to a draft of a sign state

A member of one of the five names sets what has its name and nothing else, so members of different
names may come in any order. Members of other names do nothing.
-/
namespace ChainRollback.SignState
open Json

/-! What the five members are read as -/

theorem reads_readHeight (h : Height) : Reads readHeight (.integer h.toInt) (.ok h) := by
  have hlow := h.le_toInt
  have hhigh := h.toInt_lt
  have hword : IsWord h.toInt := ⟨by omega, by omega⟩
  have hread := reads_readInteger hword (-0x8000000000000000) 0x7fffffffffffffff "i64"
  rw [if_pos (by omega)] at hread
  have hmap := hread.map Int64.ofInt
  rw [Except.map, Int64.ofInt_toInt] at hmap
  exact hmap

theorem reads_readRound (r : Int32) : Reads readRound (.integer r.toInt) (.ok r) := by
  have hlow := r.le_toInt
  have hhigh := r.toInt_lt
  have hword : IsWord r.toInt := ⟨by omega, by omega⟩
  have hread := reads_readInteger hword (-0x80000000) 0x7fffffff "i32"
  rw [if_pos (by omega)] at hread
  have hmap := hread.map Int32.ofInt
  rw [Except.map, Int32.ofInt_toInt] at hmap
  exact hmap

/-- The step of a number of one byte, if it has one. -/
def stepOf (n : Int) : Except Fault SignStep :=
  match SignStep.ofUInt8? (UInt8.ofNat n.toNat) with
  | some step => .ok step
  | none => .error (.data (.refused (SignStep.refusal (UInt8.ofNat n.toNat))))

theorem reads_readStep {v : Value} {o : Except Fault Int}
    (h : Reads (readInteger 0 255 "u8") v o) : Reads readStep v (o >>= stepOf) := by
  intro a s rest ha hs hr
  rw [readStep, h ha hs hr]
  cases o with
  | error e => rfl
  | ok n =>
    simp only [Except.map, bind, Except.bind, stepOf]
    cases SignStep.ofUInt8? (UInt8.ofNat n.toNat) <;> rfl

theorem reads_readStep_toUInt8 (k : SignStep) :
    Reads readStep (.integer k.toUInt8.toNat) (.ok k) := by
  have hbyte := k.toUInt8.toNat_lt
  have hword : IsWord k.toUInt8.toNat := ⟨by omega, by omega⟩
  have hread := reads_readStep (reads_readInteger hword 0 255 "u8")
  cases k <;> exact hread

/-! Drafts -/

/-- The names of the members that a sign state has. -/
def memberNames : List String := ["height", "round", "step", "signature", "signbytes"]

/-- What a member of the right form does to a draft. -/
inductive Sets : Member → (Draft → Draft) → Prop where
  | height (h : Height) : Sets ("height", .integer h.toInt) fun d => { d with height := some h }
  | round (r : Int32) : Sets ("round", .integer r.toInt) fun d => { d with round := some r }
  | step (k : SignStep) :
    Sets ("step", .integer k.toUInt8.toNat) fun d => { d with step := some k }
  | noSignature : Sets ("signature", .null) fun d => { d with signature := some none }
  | signature {s : String} {b : Bytes} (h : Hex.Spells s.toList b) :
    Sets ("signature", .text s) fun d => { d with signature := some (some b) }
  | signbytes {s : String} {b : Bytes} (h : Hex.Spells s.toList b) :
    Sets ("signbytes", .text s) fun d => { d with signbytes := some b }

section
variable {m m' : Member} {g g' : Draft → Draft}

theorem reads_into {α : Type} {read : Reader α} {v : Value} {o : Except Fault α}
    (h : Reads read v o) (put : Draft → α → Draft) (d : Draft) :
    Reads (into read put d) v (o.map (put d)) := h.map (put d)

theorem Sets.reads (h : Sets m g) : ∃ x, format.field? m.1 = some x ∧
    ∀ d, Reads (x.read d) m.2 (.ok (g d)) := by
  cases h with
  | height h =>
    exact ⟨_, rfl, reads_into (reads_readHeight h) fun d v => { d with height := some v }⟩
  | round r =>
    exact ⟨_, rfl, reads_into (reads_readRound r) fun d v => { d with round := some v }⟩
  | step k =>
    exact ⟨_, rfl, reads_into (reads_readStep_toUInt8 k) fun d v => { d with step := some v }⟩
  | noSignature =>
    exact ⟨_, rfl, reads_into reads_readHexOrNull_null fun d v => { d with signature := some v }⟩
  | @signature s b h =>
    have hread := reads_readHexOrNull_text s
    rw [hexOutcome_of_spells h] at hread
    exact ⟨_, rfl, reads_into hread fun d v => { d with signature := some v }⟩
  | @signbytes s b h =>
    have hread := reads_readHex s
    rw [hexOutcome_of_spells h] at hread
    exact ⟨_, rfl, reads_into hread fun d v => { d with signbytes := some v }⟩

theorem Sets.mem_memberNames (h : Sets m g) : m.1 ∈ memberNames := by
  cases h <;> simp [memberNames]

/-- A member sets what has its name. -/
theorem Sets.isSet (h : Sets m g) (d : Draft) {x : Json.Field Draft} (hx : x ∈ format.fields) :
    x.isSet (g d) = (x.name == m.1 || x.isSet d) := by
  simp only [format, List.mem_cons, List.not_mem_nil, or_false] at hx
  cases h <;> rcases hx with rfl | rfl | rfl | rfl | rfl <;> rfl

/-- Members of different names set different things. -/
theorem Sets.comm (h : Sets m g) (h' : Sets m' g') (hne : m.1 ≠ m'.1) (d : Draft) :
    g (g' d) = g' (g d) := by
  cases h <;> cases h' <;> first | rfl | exact absurd rfl hne

end

/-! Values that are refused -/

/-- The numbers, each between two bounds. -/
def numbers : List (String × Int × Int) :=
  [("height", -0x8000000000000000, 0x7fffffffffffffff), ("round", -0x80000000, 0x7fffffff),
    ("step", 0, 3)]

/-- The value of a member is one that the record refuses. -/
def Refuses (m : Member) : Prop := ∃ x fault, format.field? m.1 = some x ∧
  ∀ d, Reads (x.read d) m.2 (.error (.data fault))

section
variable {v : Value} {fault : DataFault} {k : Int}

theorem refuses_height
    (h : Reads (readInteger (-0x8000000000000000) 0x7fffffffffffffff "i64") v
      (.error (.data fault))) : Refuses ("height", v) :=
  ⟨_, fault, rfl, reads_into (h.map Int64.ofInt) fun d v => { d with height := some v }⟩

theorem refuses_round
    (h : Reads (readInteger (-0x80000000) 0x7fffffff "i32") v (.error (.data fault))) :
    Refuses ("round", v) :=
  ⟨_, fault, rfl, reads_into (h.map Int32.ofInt) fun d v => { d with round := some v }⟩

theorem refuses_step (h : Reads readStep v (.error (.data fault))) : Refuses ("step", v) :=
  ⟨_, fault, rfl, reads_into h fun d v => { d with step := some v }⟩

theorem refuses_signature (h : Reads readHexOrNull v (.error (.data fault))) :
    Refuses ("signature", v) :=
  ⟨_, fault, rfl, reads_into h fun d v => { d with signature := some v }⟩

theorem refuses_signbytes (h : Reads readHex v (.error (.data fault))) :
    Refuses ("signbytes", v) :=
  ⟨_, fault, rfl, reads_into h fun d v => { d with signbytes := some v }⟩

/-- There are four steps. -/
theorem exists_stepOf_eq_error {n : Int} (hlow : 3 < n) (hhigh : n ≤ 255) :
    ∃ fault, stepOf n = .error (.data fault) := by
  have hnat : (UInt8.ofNat n.toNat).toNat = n.toNat := by
    rw [UInt8.toNat_ofNat']
    omega
  have hne (k : UInt8) (hk : k.toNat ≤ 3) : UInt8.ofNat n.toNat ≠ k := by
    rintro rfl
    omega
  refine ⟨.refused (SignStep.refusal (UInt8.ofNat n.toNat)), ?_⟩
  rw [stepOf, SignStep.ofUInt8?, if_neg (hne 0 (by decide)), if_neg (hne 1 (by decide)),
    if_neg (hne 2 (by decide)), if_neg (hne 3 (by decide))]

theorem refuses_outOfRange {n : String} {low high : Int} (hn : (n, low, high) ∈ numbers)
    (hword : IsWord k) (hk : ¬(low ≤ k ∧ k ≤ high)) : Refuses (n, .integer k) := by
  simp only [numbers, List.mem_cons, List.not_mem_nil, or_false, Prod.mk.injEq] at hn
  rcases hn with ⟨rfl, rfl, rfl⟩ | ⟨rfl, rfl, rfl⟩ | ⟨rfl, rfl, rfl⟩
  · have hread := reads_readInteger hword (-0x8000000000000000) 0x7fffffffffffffff "i64"
    rw [if_neg hk] at hread
    exact refuses_height hread
  · have hread := reads_readInteger hword (-0x80000000) 0x7fffffff "i32"
    rw [if_neg hk] at hread
    exact refuses_round hread
  · have hread := reads_readStep (reads_readInteger hword 0 255 "u8")
    by_cases hbyte : 0 ≤ k ∧ k ≤ 255
    · obtain ⟨fault, hstep⟩ := exists_stepOf_eq_error (n := k) (by omega) hbyte.2
      rw [if_pos hbyte] at hread
      change Reads _ _ (stepOf k) at hread
      rw [hstep] at hread
      exact refuses_step hread
    · rw [if_neg hbyte] at hread
      exact refuses_step hread

theorem refuses_hexOutcome {n s : String} (hn : n = "signature" ∨ n = "signbytes")
    (hs : hexOutcome s = .error (.data fault)) : Refuses (n, .text s) := by
  rcases hn with rfl | rfl
  · have hread := reads_readHexOrNull_text s
    rw [hs] at hread
    exact refuses_signature hread
  · have hread := reads_readHex s
    rw [hs] at hread
    exact refuses_signbytes hread

theorem refuses_notHex {n s : String} (hn : n = "signature" ∨ n = "signbytes")
    (hs : s.length % 2 = 1 ∨ ∃ c ∈ s.toList, ∀ k, ¬Hex.IsDigit c k) : Refuses (n, .text s) := by
  rcases hexOutcome_cases s with ⟨b, hb⟩ | ⟨fault, hfault⟩
  · exact absurd hb (Hex.not_spells hs)
  · exact refuses_hexOutcome hn hfault

theorem exists_toUInt8_eq (hlow : 0 ≤ k) (hhigh : k ≤ 3) :
    ∃ step : SignStep, (step.toUInt8.toNat : Int) = k := by
  have hcases : k = 0 ∨ k = 1 ∨ k = 2 ∨ k = 3 := by omega
  rcases hcases with rfl | rfl | rfl | rfl
  · exact ⟨.none, rfl⟩
  · exact ⟨.propose, rfl⟩
  · exact ⟨.prevote, rfl⟩
  · exact ⟨.precommit, rfl⟩

/-- An integer is the number that its member asks for, or refused. -/
theorem sets_or_refuses_integer {n : String} {low high : Int} (hn : (n, low, high) ∈ numbers)
    (hword : IsWord k) : (∃ g, Sets (n, .integer k) g) ∨ Refuses (n, .integer k) := by
  by_cases hk : low ≤ k ∧ k ≤ high
  case neg => exact .inr (refuses_outOfRange hn hword hk)
  simp only [numbers, List.mem_cons, List.not_mem_nil, or_false, Prod.mk.injEq] at hn
  rcases hn with ⟨rfl, rfl, rfl⟩ | ⟨rfl, rfl, rfl⟩ | ⟨rfl, rfl, rfl⟩
  · obtain ⟨h, rfl⟩ := Height.exists_toInt_eq hk.1 (by omega)
    exact .inl ⟨_, .height h⟩
  · have hsets := Sets.round (Int32.ofInt k)
    rw [Int32.toInt_ofInt_of_le hk.1 (by omega)] at hsets
    exact .inl ⟨_, hsets⟩
  · obtain ⟨step, rfl⟩ := exists_toUInt8_eq hk.1 hk.2
    exact .inl ⟨_, .step step⟩

/-- So is every value that is null, an integer or a string. -/
theorem sets_or_refuses {n : String} {f : Found} (hn : n ∈ memberNames) (hv : FoundAs v f) :
    (∃ g, Sets (n, v) g) ∨ Refuses (n, v) := by
  simp only [memberNames, List.mem_cons, List.not_mem_nil, or_false] at hn
  cases hv with
  | null =>
    rcases hn with rfl | rfl | rfl | rfl | rfl
    · exact .inr (refuses_height reads_readInteger_null)
    · exact .inr (refuses_round reads_readInteger_null)
    · exact .inr (refuses_step (reads_readStep reads_readInteger_null))
    · exact .inl ⟨_, .noSignature⟩
    · exact .inr (refuses_signbytes reads_readHex_null)
  | integer hword =>
    rcases hn with rfl | rfl | rfl | rfl | rfl
    · exact sets_or_refuses_integer (.head _) hword
    · exact sets_or_refuses_integer (.tail _ (.head _)) hword
    · exact sets_or_refuses_integer (.tail _ (.tail _ (.head _))) hword
    · exact .inr (refuses_signature (reads_readHexOrNull_integer hword))
    · exact .inr (refuses_signbytes (reads_readHex_integer hword))
  | text s =>
    rcases hn with rfl | rfl | rfl | rfl | rfl
    · exact .inr (refuses_height (reads_readInteger_text s))
    · exact .inr (refuses_round (reads_readInteger_text s))
    · exact .inr (refuses_step (reads_readStep (reads_readInteger_text s)))
    · rcases hexOutcome_cases s with ⟨b, hb⟩ | ⟨fault, hs⟩
      · exact .inl ⟨_, .signature hb⟩
      · exact .inr (refuses_hexOutcome (.inl rfl) hs)
    · rcases hexOutcome_cases s with ⟨b, hb⟩ | ⟨fault, hs⟩
      · exact .inl ⟨_, .signbytes hb⟩
      · exact .inr (refuses_hexOutcome (.inr rfl) hs)

end

/-- Members that are set in turn. -/
inductive SetAll : Draft → List Member → Draft → Prop where
  | nil (d : Draft) : SetAll d [] d
  | cons {d d' : Draft} {m : Member} {ms : List Member} {g : Draft → Draft} (h : Sets m g)
    (hs : SetAll (g d) ms d') : SetAll d (m :: ms) d'

section
variable {d d' : Draft} {ms ms' : List Member}

theorem SetAll.perm (h : SetAll d ms d') (hp : ms.Perm ms') (hne : (ms.map Prod.fst).Nodup) :
    SetAll d ms' d' := by
  induction hp generalizing d with
  | nil => exact h
  | cons m _ ih =>
    cases h with
    | cons hm hs => exact .cons hm (ih hs (List.nodup_cons.mp hne).2)
  | swap m m' ms =>
    cases h with
    | cons hm' hs =>
      cases hs with
      | cons hm hs =>
        have hne' : m.1 ≠ m'.1 := fun he => by
          simp [he] at hne
        refine .cons hm (.cons hm' ?_)
        rwa [hm'.comm hm hne'.symm]
  | trans hp _ ih ih' =>
    have hnodup := (hp.map Prod.fst).nodup_iff.mp hne
    exact ih' (ih h hne) hnodup

theorem SetAll.isSet (h : SetAll d ms d') {x : Json.Field Draft} (hx : x ∈ format.fields) :
    x.isSet d' = true ↔ x.name ∈ ms.map Prod.fst ∨ x.isSet d = true := by
  induction h with
  | nil => simp
  | cons hm _ ih =>
    rw [ih, hm.isSet _ hx, Bool.or_eq_true, beq_iff_eq, List.map_cons, List.mem_cons, or_left_comm,
      or_assoc]

theorem exists_setAll (h : ∀ m ∈ ms, ∃ g, Sets m g) (d : Draft) : ∃ d', SetAll d ms d' := by
  induction ms generalizing d with
  | nil => exact ⟨d, .nil d⟩
  | cons m ms ih =>
    obtain ⟨⟨g, hm⟩, hms⟩ := List.forall_mem_cons.mp h
    obtain ⟨d', hs⟩ := ih hms (g d)
    exact ⟨d', .cons hm hs⟩

end

/-! Members among others -/

/-- The members that a sign state has a name for. -/
def named (ms : List Member) : List Member := ms.filter fun m => decide (m.1 ∈ memberNames)

/-- Every member is of the right form, and no two have one name. -/
structure Fits (ms : List Member) : Prop where
  sets : ∀ m ∈ ms, ∃ g, Sets m g
  nodup : (ms.map Prod.fst).Nodup

section
variable {n : String} {v : Value} {m : Member} {d d' : Draft} {ms ms' front back : List Member}

theorem Fits.sublist (h : Fits ms) (hs : ms'.Sublist ms) : Fits ms' where
  sets m hm := h.sets m (hs.subset hm)
  nodup := h.nodup.sublist (hs.map _)

theorem Fits.perm (h : Fits ms) (hp : ms.Perm ms') : Fits ms' where
  sets m hm := h.sets m (hp.mem_iff.mpr hm)
  nodup := (hp.map Prod.fst).nodup_iff.mp h.nodup

theorem Fits.not_mem (h : Fits ((n, v) :: ms)) : n ∉ ms.map Prod.fst :=
  (List.nodup_cons.mp h.nodup).1

theorem named_append (ms ms' : List Member) : named (ms ++ ms') = named ms ++ named ms' :=
  List.filter_append ms ms'

theorem named_cons (hm : m.1 ∈ memberNames) (ms : List Member) :
    named (m :: ms) = m :: named ms := List.filter_cons_of_pos (by simpa using hm)

theorem named_cons_of_not_mem (hm : m.1 ∉ memberNames) (ms : List Member) :
    named (m :: ms) = named ms := List.filter_cons_of_neg (by simpa using hm)

theorem mem_names_iff (hn : n ∈ memberNames) :
    n ∈ (named ms).map Prod.fst ↔ n ∈ ms.map Prod.fst := by
  constructor
  · exact fun h => (List.filter_sublist.map _).subset h
  · intro h
    obtain ⟨m, hm, rfl⟩ := List.mem_map.mp h
    exact List.mem_map.mpr ⟨m, List.mem_filter.mpr ⟨hm, by simpa using hn⟩, rfl⟩

theorem named_perm (hn : n ∈ memberNames) (v : Value) (front back : List Member) :
    (named (front ++ (n, v) :: back)).Perm ((n, v) :: named (front ++ back)) := by
  rw [named_append, named_cons hn, named_append]
  exact List.perm_middle

/-- The member of a name is not there a second time. -/
theorem Fits.not_mem_named (h : Fits (named (front ++ (n, v) :: back))) (hn : n ∈ memberNames) :
    n ∉ (front ++ back).map Prod.fst := by
  have hnot := (h.perm (named_perm hn v front back)).not_mem
  rwa [mem_names_iff hn] at hnot

theorem mem_fields {x : Json.Field Draft} (h : format.field? n = some x) :
    x ∈ format.fields ∧ x.name = n :=
  ⟨List.mem_of_find?_eq_some h, by simpa using List.find?_some h⟩

theorem exists_field (hn : n ∈ memberNames) : ∃ x, format.field? n = some x := by
  simp only [memberNames, List.mem_cons, List.not_mem_nil, or_false] at hn
  rcases hn with rfl | rfl | rfl | rfl | rfl <;> exact ⟨_, rfl⟩

theorem field?_eq_none (hn : n ∉ memberNames) : format.field? n = none := by
  have hnames : format.fields.map (·.name) = memberNames := rfl
  rw [RecordFormat.field?, List.find?_eq_none]
  intro x hx he
  rw [← hnames] at hn
  exact hn (List.mem_map.mpr ⟨x, hx, by simpa using he⟩)

/-- Members in turn fill a draft, whatever else is between them. -/
theorem SetAll.fills (h : SetAll d (named ms) d') (hnodup : ((named ms).map Prod.fst).Nodup)
    (hfree : ∀ x ∈ format.fields, x.name ∈ (named ms).map Prod.fst → x.isSet d = false) :
    format.Fills d ms (.ok d') := by
  induction ms generalizing d with
  | nil =>
    cases h
    exact .nil _
  | cons m ms ih =>
    by_cases hm : m.1 ∈ memberNames
    · rw [named_cons hm] at h hnodup hfree
      obtain ⟨hnot, hnodup⟩ := List.nodup_cons.mp hnodup
      cases h with
      | cons hsets hs =>
        obtain ⟨x, hx, hreads⟩ := hsets.reads
        obtain ⟨hmem, hname⟩ := mem_fields hx
        have hset : x.isSet d = false := hfree x hmem (by simp [hname])
        refine .cons (.taken hx hset (hreads d)) (ih hs hnodup fun y hy hnamed => ?_)
        have hne : y.name ≠ m.1 := fun he => hnot (he ▸ hnamed)
        rw [hsets.isSet d hy, hfree y hy (List.mem_cons_of_mem _ hnamed)]
        simp [hne]
    · rw [named_cons_of_not_mem hm] at h hnodup hfree
      exact .cons (.other (field?_eq_none hm)) (ih h hnodup hfree)

theorem isSet_blank {x : Json.Field Draft} (hx : x ∈ format.fields) :
    x.isSet format.blank = false := by
  simp only [format, List.mem_cons, List.not_mem_nil, or_false] at hx
  rcases hx with rfl | rfl | rfl | rfl | rfl <;> rfl

theorem name_mem {x : Json.Field Draft} (hx : x ∈ format.fields) : x.name ∈ memberNames :=
  List.mem_map_of_mem hx

theorem Fits.exists_fills (h : Fits (named ms)) : ∃ d, format.Fills format.blank ms (.ok d) ∧
    ∀ x ∈ format.fields, x.isSet d = true ↔ x.name ∈ ms.map Prod.fst := by
  obtain ⟨d, hd⟩ := exists_setAll h.sets format.blank
  refine ⟨d, hd.fills h.nodup fun x hx _ => isSet_blank hx, fun x hx => ?_⟩
  rw [hd.isSet hx, isSet_blank hx, mem_names_iff (name_mem hx)]
  simp

/-- A member fits behind others, or it is one too many, or its value is refused. -/
theorem Fits.cases_append (h : Fits (named front)) {f : Found} (hv : FoundAs m.2 f)
    (hm : m.1 ∈ memberNames) :
    Fits (named (front ++ [m])) ∨ m.1 ∈ front.map Prod.fst ∨
      m.1 ∉ front.map Prod.fst ∧ Refuses m := by
  by_cases hmem : m.1 ∈ front.map Prod.fst
  case pos => exact .inr (.inl hmem)
  rcases sets_or_refuses hm hv with hsets | hrefuses
  case inr => exact .inr (.inr ⟨hmem, hrefuses⟩)
  refine .inl (Fits.perm ?_ (named_perm hm m.2 front []).symm)
  rw [List.append_nil]
  refine ⟨List.forall_mem_cons.mpr ⟨hsets, h.sets⟩, List.nodup_cons.mpr ⟨?_, h.nodup⟩⟩
  rwa [mem_names_iff hm]

/-- Members fit, or there is a first one that does not. -/
theorem fits_or_not (hfound : ∀ m ∈ named ms, ∃ f, FoundAs m.2 f) (hfront : Fits (named front)) :
    Fits (named (front ++ ms)) ∨ ∃ front' m back, front ++ ms = front' ++ m :: back ∧
      Fits (named front') ∧ m.1 ∈ memberNames ∧
      (m.1 ∈ front'.map Prod.fst ∨ m.1 ∉ front'.map Prod.fst ∧ Refuses m) := by
  induction ms generalizing front with
  | nil => exact .inl (by rwa [List.append_nil])
  | cons m ms ih =>
    by_cases hm : m.1 ∈ memberNames
    · rw [named_cons hm] at hfound
      obtain ⟨⟨f, hf⟩, hrest⟩ := List.forall_mem_cons.mp hfound
      rcases hfront.cases_append hf hm with hfits | hnot
      · have hmore := ih hrest hfits
        rwa [List.append_assoc] at hmore
      · exact .inr ⟨front, m, ms, rfl, hfront, hm, hnot⟩
    · rw [named_cons_of_not_mem hm] at hfound
      have hfits : Fits (named (front ++ [m])) := by
        rwa [named_append, named_cons_of_not_mem hm, ← named_append, List.append_nil]
      have hmore := ih hfound hfits
      rwa [List.append_assoc] at hmore

end

end ChainRollback.SignState
