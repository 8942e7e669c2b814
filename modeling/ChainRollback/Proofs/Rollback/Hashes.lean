import ChainRollback.Proofs.Chain.Unwinding

/-! # The hashes of a rebuilt state

A state carries the hashes that executing its last block gave, and the header of the block above it
repeats them. On a synthetic chain the rebuilt state has other hashes: with the block above kept,
the two of its own height in each other's place, and with it removed, those of one height lower. So
they are its own only where the digest does not tell the hashes apart.
-/
namespace ChainRollback
open SyntheticChain

variable {prim : Primitives} {chain : SyntheticChain} {states : MemoryStateStore}
variable {blocks : MemoryBlockStore} {κ : Type} [Checkpoint κ]

def CarriesHashes (prim : Primitives) (h : Height) (s : State) : Prop :=
  s.appHash = appHashAfter prim h ∧ s.lastResultsHash = resultsHashAfter prim h

/-- The digests by which the hashes of a rebuilt state and those of its height would agree. -/
def HashesCoincide (prim : Primitives) (removeBlock : Bool) (h lower : Height) : Prop :=
  if removeBlock then appHashAfter prim lower = appHashAfter prim h ∧
    resultsHashAfter prim lower = resultsHashAfter prim h
  else resultsHashAfter prim h = appHashAfter prim h

theorem exists_rollback_of_chain (chain : SyntheticChain) (removeBlock : Bool) (build : BuildVersion)
    (hinitial : 1 ≤ chain.initialHeight.toInt) (htip : chain.initialHeight.toInt < chain.tip.toInt)
    (hs : chain.stateStore prim = .ok states) (hb : chain.blockStore prim chain.tip = .ok blocks)
    {c : κ} (hc : (Checkpoint.reset c).1 = .ok ()) :
    ∃ i left, (⟨states, blocks, c⟩ : Stores MemoryStateStore MemoryBlockStore κ).rollback removeBlock
        build = (.ok (Plan.aligned i build).outcome, left) ∧
      left.states.state = some (reconstruct i build) ∧ i.removeBlock = removeBlock ∧
      ∃ below : Height, below.toInt = chain.tip.toInt - 1 ∧
        chain.blockMeta prim below = .ok i.rollbackBlock ∧
        chain.blockMeta prim chain.tip = .ok i.latestBlock := by
  have hu := unwoundTo_tip hinitial (Int.le_of_lt htip) hs hb
  obtain ⟨i, below, left, hrollback, hstate, hr, -, hi⟩ :=
    hu.exists_rollback (n := ⟨states, blocks, c⟩) htip (Int.le_refl _) hc removeBlock build
  exact ⟨i, left, hrollback, hstate, hr, below, hi.below_toInt, hi.rollbackBlock, hi.latestBlock⟩

theorem rebuilt_hashes (chain : SyntheticChain) (build : BuildVersion) {i : RollbackInputs}
    {below : Height}
    (hbelow : below.toInt = chain.tip.toInt - 1)
    (hb : chain.blockMeta prim below = .ok i.rollbackBlock)
    (hl : chain.blockMeta prim chain.tip = .ok i.latestBlock) :
    ∃ lower : Height, lower.toInt = chain.tip.toInt - 2 ∧
      (reconstruct i build).appHash =
        (if i.removeBlock then appHashAfter prim lower else resultsHashAfter prim below) ∧
      (reconstruct i build).lastResultsHash =
        if i.removeBlock then resultsHashAfter prim lower else appHashAfter prim below := by
  obtain ⟨-, lower, hlower, happ, hresults⟩ := blockMeta_header hb
  obtain ⟨-, before, hbefore, happ', hresults'⟩ := blockMeta_header hl
  have hbefore' : before = below := Int64.toInt_inj.mp (by omega)
  subst hbefore'
  refine ⟨lower, by omega, ?_, ?_⟩
  · simp only [reconstruct, RollbackInputs.hashes, apply_ite Prod.fst, happ, hresults']
  · simp only [reconstruct, RollbackInputs.hashes, apply_ite Prod.snd, hresults, happ']

/-- After a rollback of an aligned chain the stored state has the hashes of its own height in each
other's place, or those of one height lower. They are the hashes of its height exactly if the digest
gives both the same values. -/
theorem carriesHashes_iff_hashesCoincide (prim : Primitives) (chain : SyntheticChain)
    (removeBlock : Bool) (build : BuildVersion) (hinitial : 1 ≤ chain.initialHeight.toInt)
    (htip : chain.initialHeight.toInt < chain.tip.toInt) (hs : chain.stateStore prim = .ok states)
    (hb : chain.blockStore prim chain.tip = .ok blocks) (c : κ)
    (hc : (Checkpoint.reset c).1 = .ok ()) :
    ∃ out left saved, (⟨states, blocks, c⟩ : Stores MemoryStateStore MemoryBlockStore κ).rollback
        removeBlock build = (.ok out, left) ∧
      left.states.state = some saved ∧ out.appHash = saved.appHash ∧
      ∃ below lower : Height, below.toInt = chain.tip.toInt - 1 ∧ lower.toInt = chain.tip.toInt - 2 ∧
        saved.appHash =
          (if removeBlock then appHashAfter prim lower else resultsHashAfter prim below) ∧
        saved.lastResultsHash =
          (if removeBlock then resultsHashAfter prim lower else appHashAfter prim below) ∧
        (CarriesHashes prim below saved ↔ HashesCoincide prim removeBlock below lower) := by
  obtain ⟨i, left, hrollback, hstate, hr, below, hbelow, hb, hl⟩ :=
    exists_rollback_of_chain chain removeBlock build hinitial htip hs hb hc
  obtain ⟨lower, hlower, happ, hresults⟩ := rebuilt_hashes chain build hbelow hb hl
  rw [hr] at happ hresults
  refine ⟨_, left, reconstruct i build, hrollback, hstate, rfl, below, lower, hbelow, hlower, happ,
    hresults, ?_⟩
  rw [CarriesHashes, HashesCoincide, happ, hresults]
  cases removeBlock with
  | false => exact ⟨fun h => h.1, fun h => ⟨h, h.symm⟩⟩
  | true => exact Iff.rfl

theorem carriesHashes_iff_of_two_blocks : ∃ states blocks out left saved,
    ({ tip := 2 } : SyntheticChain).stateStore .standard = .ok states ∧
    ({ tip := 2 } : SyntheticChain).blockStore .standard 2 = .ok blocks ∧
    (⟨states, blocks, {}⟩ : Stores MemoryStateStore MemoryBlockStore MemoryCheckpoint).rollback
      true .current = (.ok out, left) ∧
    left.states.state = some saved ∧
    (CarriesHashes .standard 1 saved ↔ HashesCoincide .standard true 1 0) := by
  obtain ⟨states, blocks, hs, hb⟩ := exists_stores_of_two_blocks .standard
  obtain ⟨out, left, saved, hrollback, hstate, -, below, lower, hbelow, hlower, -, -, hiff⟩ :=
    carriesHashes_iff_hashesCoincide .standard { tip := 2 } true .current (by decide) (by decide)
      hs hb ({} : MemoryCheckpoint) rfl
  have hbelow' : below = 1 := Int64.toInt_inj.mp hbelow
  have hlower' : lower = 0 := Int64.toInt_inj.mp hlower
  subst hbelow' hlower'
  exact ⟨states, blocks, out, left, saved, hs, hb, hrollback, hstate, hiff⟩

/-- On a chain of two blocks, a rollback that keeps the block leaves a state with neither hash of
its height. -/
theorem not_carriesHashes_of_two_blocks : ∃ states blocks out left saved,
    ({ tip := 2 } : SyntheticChain).stateStore .standard = .ok states ∧
    ({ tip := 2 } : SyntheticChain).blockStore .standard 2 = .ok blocks ∧
    (⟨states, blocks, {}⟩ : Stores MemoryStateStore MemoryBlockStore MemoryCheckpoint).rollback
      false .current = (.ok out, left) ∧
    left.states.state = some saved ∧ saved.lastBlockHeight = 1 ∧
    saved.appHash ≠ appHashAfter .standard 1 ∧
    saved.lastResultsHash ≠ resultsHashAfter .standard 1 := by
  obtain ⟨states, blocks, hs, hb⟩ := exists_stores_of_two_blocks .standard
  obtain ⟨i, left, hrollback, hstate, hr, below, hbelow, hbmeta, hlmeta⟩ :=
    exists_rollback_of_chain { tip := 2 } false .current (by decide) (by decide) hs hb
      (c := ({} : MemoryCheckpoint)) rfl
  have hbelow' : below = 1 := Int64.toInt_inj.mp hbelow
  subst hbelow'
  obtain ⟨lower, -, happ, hresults⟩ :=
    rebuilt_hashes { tip := 2 } .current hbelow hbmeta hlmeta
  have hne : resultsHashAfter .standard 1 ≠ appHashAfter .standard 1 := by decide +kernel
  rw [hr] at happ hresults
  exact ⟨states, blocks, _, left, _, hs, hb, hrollback, hstate, (blockMeta_header hbmeta).1,
    happ ▸ hne, hresults ▸ hne.symm⟩

end ChainRollback
