import ChainRollback.OrderedMap
import Mathlib.Logic.Function.Basic

/-! # Tables as finite functions

A table whose keys stand for indices is a finite function of the indices. Writing a record changes
the function at one place; a batch of new records takes precedence over what was there before.
-/
namespace ChainRollback
open Std

variable {ι κ α γ : Type} [Ord κ] {key : ι → κ} {value : α → γ} {m m' : OrderedMap κ γ}
variable {f new : ι → Option α}

/-- One table holds the new records and agrees with an older one under every other key. -/
structure Refiled (key : ι → κ) (value : α → γ) (m : OrderedMap κ γ) (new : ι → Option α)
    (m' : OrderedMap κ γ) : Prop where
  find?_new : ∀ i v, new i = some v → m'.find? (key i) = some (value v)
  find?_old : ∀ k, (∀ i v, new i = some v → k ≠ key i) → m'.find? k = m.find? k

theorem Refiled.refl (m : OrderedMap κ γ) : Refiled key value m (fun _ => none) m :=
  ⟨fun _ _ h => (by cases h), fun _ _ => rfl⟩

variable [TransOrd κ] [LawfulEqOrd κ]

theorem Refiled.insert [DecidableEq ι] (h : Refiled key value m new m')
    (injective : Function.Injective key) (i : ι) (v : α) :
    Refiled key value m (fun j => if j = i then some v else new j)
      (m'.insert (key i) (value v)) := by
  constructor
  · intro j w hw
    by_cases hj : j = i
    · rw [if_pos hj] at hw
      cases hw
      rw [hj, OrderedMap.find?_insert_self]
    · rw [if_neg hj] at hw
      rw [OrderedMap.find?_insert_of_ne m' (value v) fun he => hj (injective he)]
      exact h.find?_new j w hw
  · intro k hk
    have hi : k ≠ key i := hk i v (if_pos rfl)
    rw [OrderedMap.find?_insert_of_ne m' (value v) hi]
    refine h.find?_old k fun j w hw he => ?_
    by_cases hj : j = i
    · exact hi (hj ▸ he)
    · exact hk j w (by rw [if_neg hj, hw]) he

omit [TransOrd κ] [LawfulEqOrd κ] in
/-- What a look-up by index finds in the newer table. -/
theorem Refiled.find? (h : Refiled key value m new m')
    (injective : Function.Injective key) (i : ι) :
    m'.find? (key i) = ((new i).map value).or (m.find? (key i)) := by
  cases hi : new i with
  | some v => exact h.find?_new i v hi
  | none =>
    refine h.find?_old (key i) fun j w hw he => ?_
    rw [injective he, hw] at hi
    cases hi

/-- A table holds the values of a finite function and nothing else under keys of its indices. -/
def Tabulates (key : ι → κ) (value : α → γ) (m : OrderedMap κ γ) (f : ι → Option α) : Prop :=
  ∀ i, m.find? (key i) = (f i).map value

omit [TransOrd κ] [LawfulEqOrd κ] in
/-- A table of the values themselves, filed under the indices themselves. -/
theorem Tabulates.find?_id {m : OrderedMap κ α} {f : κ → Option α} (h : Tabulates id id m f)
    (k : κ) : m.find? k = f k := by
  have hfind := h k
  rwa [Option.map_id] at hfind

omit [TransOrd κ] [LawfulEqOrd κ] in
theorem Tabulates.empty : Tabulates key value ∅ fun _ => none := fun _ => rfl

omit [TransOrd κ] [LawfulEqOrd κ] in
theorem Tabulates.refiled (h : Tabulates key value m f) (hr : Refiled key value m new m')
    (injective : Function.Injective key) :
    Tabulates key value m' fun i => (new i).or (f i) := by
  intro i
  rw [hr.find? injective, h i, Option.map_or]

variable [DecidableEq ι]

theorem Tabulates.insert (h : Tabulates key value m f)
    (injective : Function.Injective key) (i : ι) (v : α) :
    Tabulates key value (m.insert (key i) (value v)) (Function.update f i (some v)) := by
  intro j
  by_cases hj : j = i
  · rw [hj, OrderedMap.find?_insert_self, Function.update_self, Option.map_some]
  · rw [OrderedMap.find?_insert_of_ne m (value v) fun he => hj (injective he), h j,
      Function.update_of_ne hj]

omit [TransOrd κ] in
theorem Tabulates.erase (h : Tabulates key value m f)
    (injective : Function.Injective key) (i : ι) :
    Tabulates key value (m.erase (key i)) (Function.update f i none) := by
  intro j
  rw [OrderedMap.find?_erase]
  by_cases hj : j = i
  · rw [hj, if_pos ReflCmp.compare_self, Function.update_self, Option.map_none]
  · have hne : compare (key j) (key i) ≠ .eq := fun he =>
      hj (injective (LawfulEqCmp.eq_of_compare he))
    rw [if_neg hne, h j, Function.update_of_ne hj]

end ChainRollback
