import ChainRollback.Proofs.Outcome
import ChainRollback.Proofs.Record.Chain
import ChainRollback.Proofs.Store.HeightKey
import ChainRollback.Store.Choice
import ChainRollback.Store.Memory

/-! # Block stores hold runs

A block store that only grows and shrinks at its end holds a run: blocks of consecutive heights.
In memory and on disk alike the run says what every operation answers, so a property of runs is a
property of both kinds of store.
-/
namespace ChainRollback
open Std

abbrev AnyBlockStore := MemoryBlockStore ⊕ DiskBlockStore

/-- Blocks of consecutive heights, the lowest at least one. The newest comes first. -/
inductive IsRun : List BlockMeta → Prop where
  | empty : IsRun []
  | first {b : BlockMeta} (h : 1 ≤ b.height.toInt) : IsRun [b]
  | next {a b : BlockMeta} {rest : List BlockMeta} (hr : IsRun (a :: rest))
      (h : b.height.toInt = a.height.toInt + 1) : IsRun (b :: a :: rest)

namespace Run

def tip : List BlockMeta → Height
  | [] => 0
  | b :: _ => b.height

def base (run : List BlockMeta) : Height := tip run.reverse

def at? (run : List BlockMeta) (h : Height) : Option BlockMeta := run.find? fun b => b.height = h

theorem base_cons_cons (b a : BlockMeta) (rest : List BlockMeta) :
    base (b :: a :: rest) = base (a :: rest) := by
  have hne : (a :: rest).reverse ≠ [] := by simp
  obtain ⟨c, cs, hc⟩ := List.exists_cons_of_ne_nil hne
  rw [base, base, List.reverse_cons, hc]
  rfl

end Run

namespace IsRun

variable {a b : BlockMeta} {rest run : List BlockMeta}

theorem tail (h : IsRun (b :: rest)) : IsRun rest := by
  cases h with
  | first => exact .empty
  | next hr => exact hr

theorem lt_head (h : IsRun (b :: rest)) : ∀ a ∈ rest, a.height.toInt < b.height.toInt := by
  induction rest generalizing b with
  | nil => simp
  | cons c rest ih =>
    cases h with
    | next hr hb =>
      intro a ha
      rcases List.mem_cons.mp ha with rfl | ha
      · omega
      · have hlt := ih hr a ha
        omega

theorem one_le (h : IsRun run) : ∀ b ∈ run, 1 ≤ b.height.toInt := by
  induction h with
  | empty => simp
  | first h => simpa using h
  | next hr hb ih =>
    refine List.forall_mem_cons.mpr ⟨?_, ih⟩
    have := ih _ List.mem_cons_self
    omega

theorem eq_of_height_eq (h : IsRun run) (ha : a ∈ run) (hb : b ∈ run)
    (he : a.height = b.height) : a = b := by
  induction run with
  | nil => simp at ha
  | cons c rest ih =>
    have hlt := h.lt_head
    rcases List.mem_cons.mp ha with rfl | ha' <;> rcases List.mem_cons.mp hb with rfl | hb'
    · rfl
    · have := hlt b hb'
      rw [he] at this
      omega
    · have := hlt a ha'
      rw [he] at this
      omega
    · exact ih h.tail ha' hb'

theorem at?_eq_some (h : IsRun run) {height : Height} :
    Run.at? run height = some b ↔ b ∈ run ∧ b.height = height := by
  unfold Run.at?
  constructor
  · intro he
    exact ⟨List.mem_of_find?_eq_some he, by simpa using List.find?_some he⟩
  · rintro ⟨hb, rfl⟩
    have hs : (run.find? fun c => c.height = b.height).isSome :=
      List.find?_isSome.mpr ⟨b, hb, by simp⟩
    obtain ⟨c, hc⟩ := Option.isSome_iff_exists.mp hs
    have hcb : c.height = b.height := by simpa using List.find?_some hc
    rw [hc, h.eq_of_height_eq (List.mem_of_find?_eq_some hc) hb hcb]

theorem tip_ne_zero (h : IsRun (b :: rest)) : Run.tip (b :: rest) ≠ 0 := by
  intro he
  have h1 := h.one_le b List.mem_cons_self
  have h0 : b.height = 0 := he
  rw [h0] at h1
  exact absurd h1 (by decide)

theorem one_le_base (h : IsRun (b :: rest)) : 1 ≤ (Run.base (b :: rest)).toInt := by
  obtain ⟨c, cs, hc⟩ := List.exists_cons_of_ne_nil (l := (b :: rest).reverse) (by simp)
  rw [Run.base, hc]
  exact h.one_le c (List.mem_reverse.mp (hc ▸ List.mem_cons_self))

/-- The tip of a run with another block below it lies above the base. -/
theorem base_lt_tip (h : IsRun (b :: a :: rest)) :
    (Run.base (b :: a :: rest)).toInt < b.height.toInt := by
  have hne : (a :: rest).reverse ≠ [] := by simp
  obtain ⟨c, cs, hc⟩ := List.exists_cons_of_ne_nil hne
  have hmem : c ∈ a :: rest := List.mem_reverse.mp (hc ▸ List.mem_cons_self)
  have hbase : Run.base (b :: a :: rest) = c.height := by
    rw [Run.base, List.reverse_cons, hc]
    rfl
  rw [hbase]
  exact h.lt_head c hmem

/-- The heights of a run are those between its ends. -/
theorem exists_mem_iff (h : IsRun run) {height : Height} :
    (∃ b ∈ run, b.height = height) ↔ 1 ≤ (Run.base run).toInt ∧
      (Run.base run).toInt ≤ height.toInt ∧ height.toInt ≤ (Run.tip run).toInt := by
  induction h with
  | empty =>
    have hzero : (Run.base []).toInt = 0 := rfl
    simp [hzero]
  | @first b hb =>
    have hbase : Run.base [b] = b.height := rfl
    have htip : Run.tip [b] = b.height := rfl
    rw [hbase, htip]
    simp only [List.mem_singleton, exists_eq_left, ← Int64.toInt_inj]
    omega
  | @next a b rest hr hb ih =>
    have hrun := IsRun.next hr hb
    have hone := hrun.one_le_base
    have hlt := hrun.base_lt_tip
    have htip : Run.tip (b :: a :: rest) = b.height := rfl
    have htip' : Run.tip (a :: rest) = a.height := rfl
    rw [htip', ← Run.base_cons_cons b a rest] at ih
    have hcons : (∃ c ∈ b :: a :: rest, c.height = height) ↔
        b.height = height ∨ ∃ c ∈ a :: rest, c.height = height := by simp
    rw [hcons, ih, htip, ← Int64.toInt_inj]
    omega

end IsRun
end ChainRollback
