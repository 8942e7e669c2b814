import ChainRollback.Chain.Synthetic
import ChainRollback.Proofs.Store.HeldRun
import Mathlib.Data.List.Chain

/-! # The stores of a synthetic chain

The state store of a chain has the state of the tip and the history of all heights from the first
block to just above the tip. Its block store holds the run of its blocks.
-/
namespace ChainRollback
open Std

namespace Height

theorem mem_upTo {first last h : Height} :
    h ∈ upTo first last ↔ first.toInt ≤ h.toInt ∧ h.toInt ≤ last.toInt := by
  have hlow := Int64.le_toInt first
  have hhigh := Int64.toInt_lt last
  have hat : ∀ i : Nat, i < (last.toInt - first.toInt + 1).toNat →
      (Int64.ofInt (first.toInt + i)).toInt = first.toInt + i := fun i hi =>
    Int64.toInt_ofInt_of_le (by omega) (by omega)
  simp only [upTo, List.mem_map, List.mem_range]
  constructor
  · rintro ⟨i, hi, rfl⟩
    rw [hat i hi]
    omega
  · intro hh
    have hi : (h.toInt - first.toInt).toNat < (last.toInt - first.toInt + 1).toNat := by omega
    refine ⟨(h.toInt - first.toInt).toNat, hi, Int64.toInt_inj.mp ?_⟩
    rw [hat _ hi]
    omega

theorem isChain_upTo (first last : Height) :
    (upTo first last).IsChain fun a b => b.toInt = a.toInt + 1 := by
  have hlow := Int64.le_toInt first
  have hhigh := Int64.toInt_lt last
  rw [List.isChain_iff_getElem]
  intro i hi
  simp only [upTo, List.length_map, List.length_range] at hi
  simp only [upTo, List.getElem_map, List.getElem_range]
  rw [Int64.toInt_ofInt_of_le (by omega) (by omega), Int64.toInt_ofInt_of_le (by omega) (by omega)]
  omega

end Height

theorem OrderedMap.find?_foldl_insert {κ α : Type} [Ord κ] [TransOrd κ] [LawfulEqOrd κ]
    [DecidableEq κ] (f : κ → α) (keys : List κ) (m : OrderedMap κ α) (k : κ) :
    (keys.foldl (fun m k => m.insert k (f k)) m).find? k =
      if k ∈ keys then some (f k) else m.find? k := by
  induction keys generalizing m with
  | nil => simp
  | cons a keys ih =>
    rw [List.foldl_cons, ih]
    by_cases hk : k ∈ keys
    · simp [hk]
    · by_cases ha : k = a
      · simp [ha]
      · simp [hk, ha, find?_insert_of_ne]

namespace SyntheticChain

variable {prim : Primitives} {chain : SyntheticChain}

theorem foldl_putValidators (f : Height → ValidatorSet) (heights : List Height)
    (m : MemoryStateStore) : heights.foldl (fun m h => m.putValidators h (f h)) m =
      { m with validators := heights.foldl (fun t h => t.insert h (f h)) m.validators } := by
  induction heights generalizing m with
  | nil => rfl
  | cons h heights ih => rw [List.foldl_cons, ih]; rfl

theorem foldl_putParams (f : Height → ConsensusParams) (heights : List Height)
    (m : MemoryStateStore) : heights.foldl (fun m h => m.putParams h (f h)) m =
      { m with params := heights.foldl (fun t h => t.insert h (f h)) m.params } := by
  induction heights generalizing m with
  | nil => rfl
  | cons h heights ih => rw [List.foldl_cons, ih]; rfl

/-- What the state store of a chain holds. -/
structure HoldsHistory (prim : Primitives) (chain : SyntheticChain) (m : MemoryStateStore) :
    Prop where
  state : ∃ s, chain.stateAt prim chain.tip = .ok s ∧ m.state = some s
  validators : ∀ h : Height, m.validators.find? h =
    if chain.initialHeight.toInt ≤ h.toInt ∧ h.toInt ≤ chain.tip.toInt + 2 then
      some (validatorsAt prim h) else none
  params : ∀ h : Height, m.params.find? h =
    if chain.initialHeight.toInt ≤ h.toInt ∧ h.toInt ≤ chain.tip.toInt + 1 then
      some (chain.paramsAt h) else none
  accepts : m.refusesSaves = false

theorem holdsHistory_of_stateStore {m : MemoryStateStore} (h : chain.stateStore prim = .ok m) :
    HoldsHistory prim chain m := by
  simp only [stateStore, bind_eq_ok, pure_eq_ok, validatorHeights, paramsHeights, map_eq_ok] at h
  obtain ⟨-, ⟨second, hsecond, rfl⟩, -, ⟨next, hnext, rfl⟩, s, hs, rfl⟩ := h
  have h2 : second.toInt = chain.tip.toInt + 2 := Height.plus_eq_ok.mp hsecond
  have h1 : next.toInt = chain.tip.toInt + 1 := Height.plus_eq_ok.mp hnext
  rw [foldl_putValidators, foldl_putParams]
  refine ⟨⟨s, hs, rfl⟩, fun h => ?_, fun h => ?_, rfl⟩
  · change OrderedMap.find? (List.foldl _ ∅ _) h = _
    rw [OrderedMap.find?_foldl_insert, ← h2]
    simp only [Height.mem_upTo, OrderedMap.find?_empty]
  · change OrderedMap.find? (List.foldl _ ∅ _) h = _
    rw [OrderedMap.find?_foldl_insert, ← h1]
    simp only [Height.mem_upTo, OrderedMap.find?_empty]

theorem stateAt_eq_ok {h : Height} {s : State} (hs : chain.stateAt prim h = .ok s) :
    s.lastBlockHeight = h ∧ s.isEmpty = false ∧ h.toInt + 2 < 0x8000000000000000 := by
  simp only [stateAt, bind_eq_ok, pure_eq_ok] at hs
  obtain ⟨-, -, -, -, second, hsecond, rfl⟩ := hs
  have htwo : second.toInt = h.toInt + 2 := Height.plus_eq_ok.mp hsecond
  have hlt := Int64.toInt_lt second
  exact ⟨rfl, rfl, by omega⟩

/-- The header of a block holds what executing the block before it gave. -/
theorem blockMeta_header {h : Height} {b : BlockMeta} (hb : chain.blockMeta prim h = .ok b) :
    b.height = h ∧ ∃ before : Height, before.toInt = h.toInt - 1 ∧
      b.header.appHash = appHashAfter prim before ∧
      b.header.lastResultsHash = resultsHashAfter prim before := by
  simp only [blockMeta, bind_eq_ok, pure_eq_ok] at hb
  obtain ⟨-, -, -, -, before, hbefore, -, -, rfl⟩ := hb
  exact ⟨rfl, before, Height.minus_eq_ok.mp hbefore, rfl, rfl⟩

theorem holds_appendAll {heights : List Height} {m final : MemoryBlockStore} {run : List BlockMeta}
    (hm : m.Holds run) (hr : IsRun run) (hpos : ∀ h ∈ heights, 1 ≤ h.toInt)
    (ha : chain.appendAll prim (fun m b => (MemoryBlockStore.append m b).mapError .error) heights m =
      (.ok (), final)) :
    ∃ added, final.Holds (added ++ run) ∧ IsRun (added ++ run) ∧
      (∀ b ∈ added, b.height ∈ heights ∧ chain.blockMeta prim b.height = .ok b) ∧
      ∀ h ∈ heights, ∃ b ∈ added, b.height = h := by
  induction heights generalizing m run with
  | nil =>
    cases ha
    exact ⟨[], hm, hr, by simp, by simp⟩
  | cons h heights ih =>
    rw [appendAll] at ha
    cases hb : chain.blockMeta prim h with
    | error o => simp [hb] at ha
    | ok b =>
      rw [hb] at ha
      obtain ⟨hheight, -⟩ := blockMeta_header hb
      have hone : 1 ≤ b.height.toInt := hheight ▸ hpos h List.mem_cons_self
      cases happend : m.append b with
      | error e => simp [happend] at ha
      | ok next =>
        simp only [happend, mapError_ok] at ha
        obtain ⟨added, hfinal, hrun, hadded, hall⟩ := ih (hm.append hr hone happend)
          (hm.isRun_append hr hone happend) (fun i hi => hpos i (List.mem_cons_of_mem h hi)) ha
        refine ⟨added ++ [b], by simpa using hfinal, by simpa using hrun, fun a ha => ?_,
          fun i hi => ?_⟩
        · rcases List.mem_append.mp ha with ha | ha
          · exact ⟨List.mem_cons_of_mem h (hadded a ha).1, (hadded a ha).2⟩
          · cases List.mem_singleton.mp ha
            rw [hheight]
            exact ⟨List.mem_cons_self, hb⟩
        · rcases List.mem_cons.mp hi with rfl | hi
          · exact ⟨b, by simp, hheight⟩
          · obtain ⟨a, ha, hai⟩ := hall i hi
            exact ⟨a, List.mem_append_left [b] ha, hai⟩

theorem exists_appendAll {heights : List Height} {m : MemoryBlockStore}
    (hchain : heights.IsChain fun a b => b.toInt = a.toInt + 1)
    (hstart : ∀ h ∈ heights.head?, m.height = 0 ∨ h.toInt = m.height.toInt + 1)
    (hblocks : ∀ h ∈ heights, ∃ b, chain.blockMeta prim h = .ok b) :
    ∃ final, chain.appendAll prim (fun m b => (MemoryBlockStore.append m b).mapError .error) heights m =
      (.ok (), final) := by
  induction heights generalizing m with
  | nil => exact ⟨m, rfl⟩
  | cons h heights ih =>
    obtain ⟨b, hb⟩ := hblocks h List.mem_cons_self
    obtain ⟨hheight, -⟩ := blockMeta_header hb
    have happend : ∃ next, m.append b = .ok next ∧ next.height = h := by
      unfold MemoryBlockStore.append
      split
      · exact ⟨_, rfl, hheight⟩
      · rename_i hne
        have hsucc := (hstart h rfl).resolve_left hne
        rw [if_pos (Height.succ?_eq_some.mpr (by rw [hheight]; exact hsucc))]
        exact ⟨_, rfl, hheight⟩
    obtain ⟨next, hnext, htip⟩ := happend
    obtain ⟨final, hfinal⟩ := ih (m := next) hchain.tail
      (fun i hi => .inr (by rw [htip]; exact hchain.rel_head? hi))
      fun i hi => hblocks i (List.mem_cons_of_mem h hi)
    refine ⟨final, ?_⟩
    rw [appendAll, hb]
    simp only [hnext, mapError_ok]
    exact hfinal

theorem exists_blockStore (chain : SyntheticChain) (last : Height)
    (hblocks : ∀ h : Height, chain.initialHeight.toInt ≤ h.toInt → h.toInt ≤ last.toInt →
      ∃ b, chain.blockMeta prim h = .ok b) : ∃ m, chain.blockStore prim last = .ok m := by
  have hchain := Height.isChain_upTo chain.initialHeight last
  obtain ⟨final, hfinal⟩ := exists_appendAll (m := {}) hchain (fun _ _ => .inl rfl) fun h hh =>
    hblocks h (Height.mem_upTo.mp hh).1 (Height.mem_upTo.mp hh).2
  refine ⟨final, ?_⟩
  rw [blockStore, hfinal]
  rfl

/-- A chain of two blocks has stores whatever upgrade of its parameters is decided. -/
theorem exists_stores_of_upgrade (prim : Primitives) (upgrade : Option (Height × UInt64)) :
    ∃ states blocks,
      ({ tip := 2, upgrade := upgrade } : SyntheticChain).stateStore prim = .ok states ∧
      ({ tip := 2, upgrade := upgrade } : SyntheticChain).blockStore prim 2 = .ok blocks := by
  have hblocks : ∀ h : Height, (1 : Int) ≤ h.toInt → h.toInt ≤ 2 →
      ∃ b, ({ tip := 2, upgrade := upgrade } : SyntheticChain).blockMeta prim h = .ok b := by
    intro h hlow hhigh
    have hcases : h = 1 ∨ h = 2 := by
      rw [← Int64.toInt_inj, ← Int64.toInt_inj]
      change h.toInt = 1 ∨ h.toInt = 2
      omega
    rcases hcases with rfl | rfl
    · exact ⟨_, rfl⟩
    · exact ⟨_, rfl⟩
  obtain ⟨blocks, hb⟩ := exists_blockStore { tip := 2, upgrade := upgrade } 2 hblocks
  have hnext : (2 : Height).plus 1 = .ok 3 := rfl
  have hsecond : (2 : Height).plus 2 = .ok 4 := rfl
  obtain ⟨s, hs⟩ : ∃ s, ({ tip := 2, upgrade := upgrade } : SyntheticChain).stateAt prim 2 = .ok s :=
    ⟨_, rfl⟩
  simp only [stateStore, validatorHeights, paramsHeights, hnext, hsecond, hs]
  exact ⟨_, blocks, rfl, hb⟩

theorem exists_stores_of_two_blocks (prim : Primitives) : ∃ states blocks,
    ({ tip := 2 } : SyntheticChain).stateStore prim = .ok states ∧
    ({ tip := 2 } : SyntheticChain).blockStore prim 2 = .ok blocks :=
  exists_stores_of_upgrade prim none

/-- A run is the blocks of a chain from its first one to a height. -/
structure IsChainRun (prim : Primitives) (chain : SyntheticChain) (last : Height)
    (run : List BlockMeta) : Prop where
  isRun : IsRun run
  tip : Run.tip run = last
  of_mem : ∀ b ∈ run, chain.initialHeight.toInt ≤ b.height.toInt ∧ b.height.toInt ≤ last.toInt ∧
    chain.blockMeta prim b.height = .ok b
  exists_mem : ∀ h : Height, chain.initialHeight.toInt ≤ h.toInt → h.toInt ≤ last.toInt →
    ∃ b ∈ run, b.height = h

theorem holds_of_blockStore {last : Height} {m : MemoryBlockStore}
    (hinitial : 1 ≤ chain.initialHeight.toInt) (hlast : chain.initialHeight.toInt ≤ last.toInt)
    (h : chain.blockStore prim last = .ok m) :
    ∃ run, m.Holds run ∧ IsChainRun prim chain last run := by
  unfold blockStore at h
  rcases ha : chain.appendAll prim (fun m b => (MemoryBlockStore.append m b).mapError .error)
    (chain.initialHeight.upTo last) {} with ⟨result, store⟩
  rw [ha] at h
  obtain ⟨_, rfl, rfl⟩ := map_eq_ok.mp h
  have hempty : ({} : MemoryBlockStore).Holds [] := ⟨rfl, rfl, rfl, rfl⟩
  obtain ⟨run, hholds, hrun, hof, hall⟩ := holds_appendAll hempty .empty
    (fun h hh => by have := (Height.mem_upTo.mp hh).1; omega) ha
  rw [List.append_nil] at hholds hrun
  have hof' : ∀ b ∈ run, chain.initialHeight.toInt ≤ b.height.toInt ∧
      b.height.toInt ≤ last.toInt ∧ chain.blockMeta prim b.height = .ok b := fun b hb =>
    have hmem := Height.mem_upTo.mp (hof b hb).1
    ⟨hmem.1, hmem.2, (hof b hb).2⟩
  refine ⟨run, hholds, hrun, ?_, hof', fun h hlow hhigh =>
    hall h (Height.mem_upTo.mpr ⟨hlow, hhigh⟩)⟩
  obtain ⟨b, hb, hbl⟩ := hall last (Height.mem_upTo.mpr ⟨hlast, Int.le_refl _⟩)
  -- The tip is the greatest height of the run, and `last` is among its heights.
  cases run with
  | nil => cases hb
  | cons a rest =>
    refine Int64.toInt_inj.mp (Int.le_antisymm (hof' a List.mem_cons_self).2.1 ?_)
    rcases List.mem_cons.mp hb with rfl | hb
    · rw [← hbl]
      exact Int.le_refl _
    · rw [← hbl]
      exact Int.le_of_lt (hrun.lt_head b hb)

/-- Each block of a chain is loaded from the store that holds its run. -/
theorem IsChainRun.exists_loadMeta {last h : Height} {run : List BlockMeta} {m : MemoryBlockStore}
    (hr : IsChainRun prim chain last run) (hm : m.Holds run)
    (hlow : chain.initialHeight.toInt ≤ h.toInt) (hhigh : h.toInt ≤ last.toInt) :
    ∃ b, BlockStore.loadMeta m h = .ok (some b) ∧ chain.blockMeta prim h = .ok b := by
  obtain ⟨b, hb, rfl⟩ := hr.exists_mem h hlow hhigh
  have htable := Filed.tabulates hm.filed hr.isRun Function.injective_id
  have hat : Run.at? run b.height = some b := hr.isRun.at?_eq_some.mpr ⟨hb, rfl⟩
  exact ⟨b, congrArg Except.ok ((htable.find?_id b.height).trans hat), (hr.of_mem b hb).2.2⟩

end SyntheticChain
end ChainRollback
