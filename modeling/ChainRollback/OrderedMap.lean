/-! # Ordered maps

A finite map kept as the list of its bindings in strictly increasing order of keys. The look-up
`find?` is the view of a map: `find?_insert` and `find?_erase` say what the operations do to it,
and `ext_find?` says that it determines the map.
-/
namespace ChainRollback
open Std

variable {κ α : Type} [Ord κ]

/-- Each key is below the one after it. -/
def Increasing (entries : List (κ × α)) : Prop :=
  entries.Pairwise fun a b => compare a.1 b.1 = .lt

structure OrderedMap (κ α : Type) [Ord κ] where
  entries : List (κ × α)
  increasing : Increasing entries

namespace OrderedMap

instance [DecidableEq κ] [DecidableEq α] : DecidableEq (OrderedMap κ α) := fun a b =>
  decidable_of_iff (a.entries = b.entries) <| by
    cases a
    cases b
    simp

def empty : OrderedMap κ α := ⟨[], List.Pairwise.nil⟩

instance : EmptyCollection (OrderedMap κ α) := ⟨empty⟩

instance : Inhabited (OrderedMap κ α) := ⟨empty⟩

def findIn (k : κ) : List (κ × α) → Option α
  | [] => none
  | e :: rest => if compare k e.1 = .eq then some e.2 else findIn k rest

def insertIn (k : κ) (v : α) : List (κ × α) → List (κ × α)
  | [] => [(k, v)]
  | e :: rest =>
    match compare k e.1 with
    | .lt => (k, v) :: e :: rest
    | .eq => (k, v) :: rest
    | .gt => e :: insertIn k v rest

def eraseIn (k : κ) (entries : List (κ × α)) : List (κ × α) :=
  entries.filter fun e => compare k e.1 != .eq

theorem mem_insertIn {k : κ} {v : α} {entries : List (κ × α)} {x : κ × α}
    (h : x ∈ insertIn k v entries) : x = (k, v) ∨ x ∈ entries := by
  induction entries with
  | nil => simpa [insertIn] using h
  | cons e rest ih =>
    unfold insertIn at h
    split at h <;> grind

theorem increasing_insertIn [TransOrd κ] [LawfulEqOrd κ] (k : κ) (v : α)
    {entries : List (κ × α)} (h : Increasing entries) : Increasing (insertIn k v entries) := by
  induction entries with
  | nil => simp [insertIn, Increasing]
  | cons e rest ih =>
    have hrest := List.pairwise_cons.mp h
    unfold insertIn
    split
    · rename_i hlt
      refine List.pairwise_cons.mpr ⟨fun x hx => ?_, h⟩
      rcases List.mem_cons.mp hx with rfl | hx
      · exact hlt
      · exact TransCmp.lt_trans hlt (hrest.1 x hx)
    · rename_i heq
      have hk : k = e.1 := LawfulEqCmp.eq_of_compare heq
      exact List.pairwise_cons.mpr ⟨fun x hx => hk ▸ hrest.1 x hx, hrest.2⟩
    · rename_i hgt
      refine List.pairwise_cons.mpr ⟨fun x hx => ?_, ih hrest.2⟩
      rcases mem_insertIn hx with rfl | hx
      · exact OrientedCmp.lt_of_gt hgt
      · exact hrest.1 x hx

theorem increasing_eraseIn (k : κ) {entries : List (κ × α)} (h : Increasing entries) :
    Increasing (eraseIn k entries) := List.Pairwise.filter _ h

def find? (m : OrderedMap κ α) (k : κ) : Option α := findIn k m.entries

def insert [TransOrd κ] [LawfulEqOrd κ] (m : OrderedMap κ α) (k : κ) (v : α) : OrderedMap κ α :=
  ⟨insertIn k v m.entries, increasing_insertIn k v m.increasing⟩

def erase (m : OrderedMap κ α) (k : κ) : OrderedMap κ α :=
  ⟨eraseIn k m.entries, increasing_eraseIn k m.increasing⟩

/-- The binding with the least key. -/
def first? (m : OrderedMap κ α) : Option (κ × α) := m.entries.head?

/-- The binding with the greatest key. -/
def last? (m : OrderedMap κ α) : Option (κ × α) := m.entries.getLast?

variable [TransOrd κ] [LawfulEqOrd κ]

omit [TransOrd κ] in
theorem findIn_eq_some {entries : List (κ × α)} (h : Increasing entries) {k : κ} {v : α} :
    findIn k entries = some v ↔ (k, v) ∈ entries := by
  induction entries with
  | nil => simp [findIn]
  | cons e rest ih =>
    have hrest := List.pairwise_cons.mp h
    unfold findIn
    split
    · rename_i heq
      have hk : k = e.1 := LawfulEqCmp.eq_of_compare heq
      constructor
      · intro hv
        cases hv
        simp [hk]
      · intro hv
        rcases List.mem_cons.mp hv with hv | hv
        · rw [← hv]
        · have hlt := hrest.1 _ hv
          simp only [hk, ReflCmp.compare_self, reduceCtorEq] at hlt
    · rename_i hne
      rw [ih hrest.2, List.mem_cons, or_iff_right]
      intro hv
      rw [← hv] at hne
      exact hne ReflCmp.compare_self

omit [TransOrd κ] in
theorem find?_eq_some {m : OrderedMap κ α} {k : κ} {v : α} :
    m.find? k = some v ↔ (k, v) ∈ m.entries := findIn_eq_some m.increasing

omit [TransOrd κ] in
theorem find?_of_last? {m : OrderedMap κ α} {k : κ} {v : α} (h : m.last? = some (k, v)) :
    m.find? k = some v := find?_eq_some.mpr (List.mem_of_getLast? h)

omit [TransOrd κ] in
theorem exists_last? {m : OrderedMap κ α} {k : κ} {v : α} (h : m.find? k = some v) :
    ∃ k' v', m.last? = some (k', v') := by
  have hne := List.ne_nil_of_mem (find?_eq_some.mp h)
  exact ⟨_, _, List.getLast?_eq_some_getLast hne⟩

omit [TransOrd κ] in
theorem findIn_insertIn (k k' : κ) (v : α) (entries : List (κ × α)) (h : Increasing entries) :
    findIn k' (insertIn k v entries) =
      if compare k' k = .eq then some v else findIn k' entries := by
  induction entries with
  | nil => rfl
  | cons e rest ih =>
    have hrest := List.pairwise_cons.mp h
    unfold insertIn
    split
    · rfl
    · rename_i heq
      have hk : k = e.1 := LawfulEqCmp.eq_of_compare heq
      simp only [findIn, hk]
      split <;> simp_all
    · rename_i hgt
      simp only [findIn, ih hrest.2]
      by_cases hk : compare k' e.1 = .eq
      · have hk' : k' = e.1 := LawfulEqCmp.eq_of_compare hk
        have hne : compare k' k ≠ .eq := by
          intro hc
          have hkk : k' = k := LawfulEqCmp.eq_of_compare hc
          rw [← hkk, hk'] at hgt
          simp at hgt
        simp [hk, hne]
      · simp [hk]

omit [TransOrd κ] [LawfulEqOrd κ] in
theorem last?_eq_none {m : OrderedMap κ α} : m.last? = none ↔ m = ∅ := by
  obtain ⟨entries, increasing⟩ := m
  constructor
  · intro h
    cases List.getLast?_eq_none_iff.mp h
    rfl
  · intro h
    rw [h]
    rfl

omit [TransOrd κ] [LawfulEqOrd κ] in
@[simp] theorem find?_empty (k : κ) : (∅ : OrderedMap κ α).find? k = none := rfl

theorem find?_insert (m : OrderedMap κ α) (k k' : κ) (v : α) :
    (m.insert k v).find? k' = if compare k' k = .eq then some v else m.find? k' :=
  findIn_insertIn k k' v m.entries m.increasing

@[simp] theorem find?_insert_self (m : OrderedMap κ α) (k : κ) (v : α) :
    (m.insert k v).find? k = some v := by
  simp [find?_insert]

theorem find?_insert_of_ne (m : OrderedMap κ α) {k k' : κ} (v : α) (h : k' ≠ k) :
    (m.insert k v).find? k' = m.find? k' := by
  rw [find?_insert, if_neg fun hc => h (LawfulEqCmp.eq_of_compare hc)]

omit [TransOrd κ] in
theorem find?_erase (m : OrderedMap κ α) (k k' : κ) :
    (m.erase k).find? k' = if compare k' k = .eq then none else m.find? k' := by
  apply Option.ext
  intro v
  simp only [find?_eq_some, erase, eraseIn, List.mem_filter]
  by_cases h : compare k' k = .eq
  · have hk : k' = k := LawfulEqCmp.eq_of_compare h
    simp [hk]
  · have hne : compare k k' ≠ .eq := fun hc =>
      h (by rw [LawfulEqCmp.eq_of_compare hc]; exact ReflCmp.compare_self)
    simp [h, hne, find?_eq_some]

omit [LawfulEqOrd κ] in
theorem insertIn_of_lt {k : κ} {v : α} {entries : List (κ × α)}
    (h : ∀ e ∈ entries, compare e.1 k = .lt) : insertIn k v entries = entries ++ [(k, v)] := by
  induction entries with
  | nil => rfl
  | cons e rest ih =>
    have he := OrientedCmp.gt_of_lt (h e List.mem_cons_self)
    rw [insertIn, he, ih fun x hx => h x (List.mem_cons_of_mem e hx), List.cons_append]

/-- A key above all others is added at the end. -/
theorem entries_insert_of_lt {m : OrderedMap κ α} {k : κ} {v : α}
    (h : ∀ e ∈ m.entries, compare e.1 k = .lt) : (m.insert k v).entries = m.entries ++ [(k, v)] :=
  insertIn_of_lt h

omit [LawfulEqOrd κ] in
theorem entries_erase_last {m : OrderedMap κ α} {front : List (κ × α)} {k : κ} {v : α}
    (h : m.entries = front ++ [(k, v)]) : (m.erase k).entries = front := by
  have hlt := (List.pairwise_append.mp (h ▸ m.increasing)).2.2
  have hfront : front.filter (fun e => compare k e.1 != .eq) = front := by
    refine List.filter_eq_self.mpr fun e he => ?_
    rw [OrientedCmp.gt_of_lt (hlt e he (k, v) List.mem_cons_self)]
    rfl
  simp [erase, eraseIn, h, hfront]

omit [TransOrd κ] in
/-- Every other key is below that of the last binding. -/
theorem compare_lt_of_last? {m : OrderedMap κ α} {k k' : κ} {v v' : α} (h : m.last? = some (k, v))
    (hf : m.find? k' = some v') (hne : k' ≠ k) : compare k' k = .lt := by
  obtain ⟨front, hm⟩ := List.getLast?_eq_some_iff.mp h
  have hmem := find?_eq_some.mp hf
  rw [hm] at hmem
  rcases List.mem_append.mp hmem with hfront | hlast
  · have hlt := (List.pairwise_append.mp (hm ▸ m.increasing)).2.2
    exact hlt _ hfront _ List.mem_cons_self
  · cases List.mem_singleton.mp hlast
    exact absurd rfl hne

/-- A key above the last one is added at the end. -/
theorem entries_insert_of_last? {m : OrderedMap κ α} {k k' : κ} {v : α} (v' : α)
    (h : m.last? = some (k, v)) (hlt : compare k k' = .lt) :
    (m.insert k' v').entries = m.entries ++ [(k', v')] := by
  refine entries_insert_of_lt fun e he => ?_
  by_cases hk : e.1 = k
  · rw [hk]
    exact hlt
  · exact TransCmp.lt_trans (compare_lt_of_last? h (find?_eq_some.mpr he) hk) hlt

/-- A binding below all others is the first one. -/
theorem first?_of_least {m : OrderedMap κ α} {k : κ} {v : α} (hf : m.find? k = some v)
    (hleast : ∀ k' v', m.find? k' = some v' → k' ≠ k → compare k k' = .lt) :
    m.first? = some (k, v) := by
  have hmem := find?_eq_some.mp hf
  cases he : m.entries with
  | nil =>
    rw [he] at hmem
    cases hmem
  | cons e rest =>
    have hincreasing := m.increasing
    rw [he] at hmem hincreasing
    rcases List.mem_cons.mp hmem with hfirst | hrest
    · rw [first?, he, hfirst]
      rfl
    · -- The first binding would be below the least one.
      have hbelow : compare e.1 k = .lt := (List.pairwise_cons.mp hincreasing).1 _ hrest
      have hne : e.1 ≠ k := fun hk => by
        have hself : compare k k = .eq := ReflCmp.compare_self
        rw [hk, hself] at hbelow
        cases hbelow
      have hheld : m.find? e.1 = some e.2 := find?_eq_some.mpr (he ▸ List.mem_cons_self)
      have habove := hleast e.1 e.2 hheld hne
      rw [OrientedCmp.gt_of_lt hbelow] at habove
      cases habove

/-- A binding below the last one does not take its place. -/
theorem last?_insert_of_lt {m : OrderedMap κ α} {k k' : κ} {v : α} (v' : α)
    (h : m.last? = some (k, v)) (hlt : compare k' k = .lt) :
    (m.insert k' v').last? = some (k, v) := by
  have hne : k ≠ k' := by
    intro he
    have hself : compare k' k' = .eq := ReflCmp.compare_self
    rw [he, hself] at hlt
    cases hlt
  have hf : (m.insert k' v').find? k = some v := by
    rw [find?_insert_of_ne m v' hne]
    exact find?_of_last? h
  obtain ⟨last, w, hlast⟩ := exists_last? hf
  by_cases hk : k = last
  · subst hk
    have hw := (find?_of_last? hlast).symm.trans hf
    rw [hlast, Option.some.inj hw]
  · -- A later key would have been above the last one before.
    have habove : compare k last = .lt := compare_lt_of_last? hlast hf hk
    have hold := find?_of_last? hlast
    rw [find?_insert] at hold
    split at hold
    · rename_i hsame
      rw [LawfulEqCmp.eq_of_compare hsame, OrientedCmp.gt_of_lt hlt] at habove
      cases habove
    · have hbelow := compare_lt_of_last? h hold fun he => hk he.symm
      rw [OrientedCmp.gt_of_lt hbelow] at habove
      cases habove

/-- Two maps with the same look-ups are the same map. -/
theorem ext_find? {m m' : OrderedMap κ α} (h : ∀ k, m.find? k = m'.find? k) : m = m' := by
  have hmem : ∀ x, x ∈ m.entries ↔ x ∈ m'.entries := fun (k, v) => by
    rw [← find?_eq_some, ← find?_eq_some, h]
  have hperm : ∀ {a b : List (κ × α)}, Increasing a → Increasing b → (∀ x, x ∈ a ↔ x ∈ b) →
      a = b := by
    intro a
    induction a with
    | nil =>
      intro b _ _ hb
      cases b with
      | nil => rfl
      | cons e rest => simpa using hb e
    | cons x xs ih =>
      intro b ha hb hab
      cases b with
      | nil => simpa using hab x
      | cons y ys =>
        have hx := List.pairwise_cons.mp ha
        have hy := List.pairwise_cons.mp hb
        have hxy : x = y := by
          rcases List.mem_cons.mp ((hab x).mp List.mem_cons_self) with e | hxy
          · exact e
          rcases List.mem_cons.mp ((hab y).mpr List.mem_cons_self) with e | hyx
          · exact e.symm
          have h1 := hy.1 x hxy
          have h2 := OrientedCmp.gt_of_lt (hx.1 y hyx)
          rw [h1] at h2
          cases h2
        subst hxy
        have hnot : ∀ {l : List (κ × α)}, (∀ z ∈ l, compare x.1 z.1 = .lt) → x ∉ l := by
          intro l hl hm
          have := hl x hm
          simp at this
        congr 1
        refine ih hx.2 hy.2 fun z => ?_
        have hz := hab z
        simp only [List.mem_cons] at hz
        constructor
        · intro hm
          rcases hz.mp (Or.inr hm) with e | h'
          · exact absurd (e ▸ hm) (hnot hx.1)
          · exact h'
        · intro hm
          rcases hz.mpr (Or.inr hm) with e | h'
          · exact absurd (e ▸ hm) (hnot hy.1)
          · exact h'
  have := hperm m.increasing m'.increasing hmem
  cases m
  cases m'
  cases this
  rfl

end OrderedMap
end ChainRollback
