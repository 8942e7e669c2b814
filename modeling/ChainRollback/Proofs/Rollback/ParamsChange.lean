import ChainRollback.Proofs.Rollback.Hashes

/-! # Since when a rebuilt state has its parameters

A state says at which height the parameters of its next block were decided. A rebuilt state takes
the height over from the state above it, and lowers it to its own next height if it lies beyond.
On a synthetic chain that is the height of the state it stands for, except where the upgrade starts
right above the tip. The upgrade is then undone, but the height is lowered and not put back to that
of the parameters before it.
-/
namespace ChainRollback
namespace SyntheticChain

variable {prim : Primitives} {chain : SyntheticChain} {h below next : Height} {s : State}

def UpgradesAboveTip (chain : SyntheticChain) : Prop :=
  ∃ start version, chain.upgrade = some (start, version) ∧ start.toInt = chain.tip.toInt + 1

theorem paramsChanged_of_stateAt (hnext : next.toInt = h.toInt + 1)
    (hs : chain.stateAt prim h = .ok s) :
    s.lastHeightConsensusParamsChanged = chain.paramsChangedBy next := by
  simp only [stateAt, bind_eq_ok, pure_eq_ok] at hs
  obtain ⟨next', hnext', -, -, -, -, rfl⟩ := hs
  have hone : next'.toInt = h.toInt + 1 := Height.plus_eq_ok.mp hnext'
  have hsame : next' = next := Int64.toInt_inj.mp (hone.trans hnext.symm)
  rw [hsame]

theorem paramsChangedBy_of_none (hu : chain.upgrade = none) (h : Height) :
    chain.paramsChangedBy h = chain.initialHeight := by
  simp only [paramsChangedBy, hu]

theorem paramsChangedBy_of_le {start : Height} {version : UInt64}
    (hu : chain.upgrade = some (start, version)) (hle : start.toInt ≤ h.toInt) :
    chain.paramsChangedBy h = start := by
  simp only [paramsChangedBy, hu, if_pos (Int64.le_iff_toInt_le.mpr hle)]

theorem paramsChangedBy_of_lt {start : Height} {version : UInt64}
    (hu : chain.upgrade = some (start, version)) (hlt : h.toInt < start.toInt) :
    chain.paramsChangedBy h = chain.initialHeight := by
  have hnot : ¬start ≤ h := fun hle => by
    have hle' := Int64.le_iff_toInt_le.mp hle
    omega
  simp only [paramsChangedBy, hu, if_neg hnot]

/-- The height that the rebuilt state has is lowered only for an upgrade right above the tip. -/
theorem clampChange_paramsChangedBy (htip : chain.initialHeight.toInt < chain.tip.toInt)
    (hbelow : below.toInt = chain.tip.toInt - 1) (hnext : next.toInt = chain.tip.toInt + 1) :
    (chain.UpgradesAboveTip → chain.paramsChangedBy chain.tip = chain.initialHeight ∧
      clampChange (chain.paramsChangedBy next) below = chain.tip) ∧
    (¬chain.UpgradesAboveTip →
      clampChange (chain.paramsChangedBy next) below = chain.paramsChangedBy chain.tip) := by
  have hmax := Int64.toInt_lt chain.tip
  have hclamp : ∀ changed : Height,
      (clampChange changed below).toInt = min changed.toInt chain.tip.toInt := fun changed => by
    rw [clampChange_toInt (by omega), hbelow, Int.sub_add_cancel]
  have hkept : ∀ {changed : Height}, changed.toInt ≤ chain.tip.toInt →
      clampChange changed below = changed := fun {changed} hle =>
    Int64.toInt_inj.mp ((hclamp changed).trans (Int.min_eq_left hle))
  constructor
  · rintro ⟨start, version, hu, hstart⟩
    rw [paramsChangedBy_of_lt hu (by omega), paramsChangedBy_of_le hu (by omega)]
    refine ⟨rfl, Int64.toInt_inj.mp ?_⟩
    rw [hclamp, hstart]
    omega
  · intro hnot
    cases hu : chain.upgrade with
    | none =>
      rw [paramsChangedBy_of_none hu, paramsChangedBy_of_none hu, hkept (Int.le_of_lt htip)]
    | some upgrade =>
      obtain ⟨start, version⟩ := upgrade
      have hne : start.toInt ≠ chain.tip.toInt + 1 := fun he => hnot ⟨start, version, hu, he⟩
      by_cases hle : start.toInt ≤ chain.tip.toInt
      · rw [paramsChangedBy_of_le hu hle, paramsChangedBy_of_le hu (by omega), hkept hle]
      · rw [paramsChangedBy_of_lt hu (by omega), paramsChangedBy_of_lt hu (by omega),
          hkept (Int.le_of_lt htip)]

end SyntheticChain

open SyntheticChain

variable {prim : Primitives} {chain : SyntheticChain} {states : MemoryStateStore}
variable {blocks : MemoryBlockStore} {κ : Type} [Checkpoint κ]

/-- What a rollback of a chain leaves of the height at which the parameters changed, and what the
state of the chain has there. -/
theorem exists_paramsChanged (chain : SyntheticChain) (removeBlock : Bool) (build : BuildVersion)
    (hinitial : 1 ≤ chain.initialHeight.toInt) (htip : chain.initialHeight.toInt < chain.tip.toInt)
    (hs : chain.stateStore prim = .ok states) (hb : chain.blockStore prim chain.tip = .ok blocks)
    {c : κ} (hc : (Checkpoint.reset c).1 = .ok ()) :
    ∃ out left saved earlier below next,
      (⟨states, blocks, c⟩ : Stores MemoryStateStore MemoryBlockStore κ).rollback removeBlock build =
        (.ok out, left) ∧ left.states.state = some saved ∧
      below.toInt = chain.tip.toInt - 1 ∧ chain.stateAt prim below = .ok earlier ∧
      earlier.lastHeightConsensusParamsChanged = chain.paramsChangedBy chain.tip ∧
      next.toInt = chain.tip.toInt + 1 ∧
      saved.lastHeightConsensusParamsChanged = clampChange (chain.paramsChangedBy next) below := by
  have hu := unwoundTo_tip hinitial (Int.le_of_lt htip) hs hb
  obtain ⟨i, below, left, hrollback, hstate, -, hinvalid, hi⟩ :=
    hu.exists_rollback (n := ⟨states, blocks, c⟩) htip (Int.le_refl _) hc removeBlock build
  have hbelow := hi.below_toInt
  obtain ⟨earlier, hearlier⟩ := hi.exists_stateAt
  have htipAbove : chain.tip.toInt = below.toInt + 1 := by omega
  -- The state that is rolled back is the chain's own, not one that a rollback has rebuilt.
  obtain ⟨s, htipState, hstored⟩ := (holdsHistory_of_stateStore hs).state
  cases hstored.symm.trans hinvalid
  obtain ⟨-, -, hroom⟩ := stateAt_eq_ok htipState
  obtain ⟨next, hnext⟩ := Height.exists_toInt_eq (i := chain.tip.toInt + 1) (by omega) (by omega)
  refine ⟨_, left, _, earlier, below, next, hrollback, hstate, hbelow, hearlier,
    paramsChanged_of_stateAt htipAbove hearlier, hnext, ?_⟩
  change clampChange i.invalid.lastHeightConsensusParamsChanged
    i.rollbackBlock.header.height = _
  rw [paramsChanged_of_stateAt hnext htipState]
  exact congrArg _ (blockMeta_header hi.rollbackBlock).1

/-- After a rollback of an aligned chain the stored state has the height at which the parameters of
the chain's own state changed, the start of the upgrade if it is in effect at the tip and the first
height otherwise. Only if the upgrade starts right above the tip, it has the height of the tip. -/
theorem paramsChanged_iff_not_upgradesAboveTip (prim : Primitives) (chain : SyntheticChain)
    (removeBlock : Bool) (build : BuildVersion) (hinitial : 1 ≤ chain.initialHeight.toInt)
    (htip : chain.initialHeight.toInt < chain.tip.toInt) (hs : chain.stateStore prim = .ok states)
    (hb : chain.blockStore prim chain.tip = .ok blocks) (c : κ)
    (hc : (Checkpoint.reset c).1 = .ok ()) :
    ∃ out left saved earlier below,
      (⟨states, blocks, c⟩ : Stores MemoryStateStore MemoryBlockStore κ).rollback removeBlock build =
        (.ok out, left) ∧ left.states.state = some saved ∧
      below.toInt = chain.tip.toInt - 1 ∧ chain.stateAt prim below = .ok earlier ∧
      earlier.lastHeightConsensusParamsChanged = chain.paramsChangedBy chain.tip ∧
      (saved.lastHeightConsensusParamsChanged = earlier.lastHeightConsensusParamsChanged ↔
        ¬chain.UpgradesAboveTip) ∧
      (chain.UpgradesAboveTip → saved.lastHeightConsensusParamsChanged = chain.tip) := by
  obtain ⟨out, left, saved, earlier, below, next, hrollback, hstate, hbelow, hearlier, hchanged,
    hnext, hsaved⟩ := exists_paramsChanged chain removeBlock build hinitial htip hs hb hc
  obtain ⟨habove, hother⟩ := clampChange_paramsChangedBy htip hbelow hnext
  refine ⟨out, left, saved, earlier, below, hrollback, hstate, hbelow, hearlier, hchanged, ?_,
    fun hup => hsaved.trans (habove hup).2⟩
  rw [hsaved, hchanged]
  constructor
  · intro he hup
    obtain ⟨hinit, hclamp⟩ := habove hup
    rw [hclamp, hinit] at he
    rw [he] at htip
    exact absurd htip (Int.lt_irrefl _)
  · exact hother

theorem paramsChanged_iff_of_two_blocks : ∃ states blocks out left saved earlier,
    ({ tip := 2, upgrade := some (3, 2) } : SyntheticChain).stateStore .standard = .ok states ∧
    ({ tip := 2, upgrade := some (3, 2) } : SyntheticChain).blockStore .standard 2 = .ok blocks ∧
    (⟨states, blocks, {}⟩ : Stores MemoryStateStore MemoryBlockStore MemoryCheckpoint).rollback
      true .current = (.ok out, left) ∧ left.states.state = some saved ∧
    ({ tip := 2, upgrade := some (3, 2) } : SyntheticChain).stateAt .standard 1 = .ok earlier ∧
    (saved.lastHeightConsensusParamsChanged = earlier.lastHeightConsensusParamsChanged ↔
      ¬({ tip := 2, upgrade := some (3, 2) } : SyntheticChain).UpgradesAboveTip) := by
  obtain ⟨states, blocks, hs, hb⟩ := exists_stores_of_upgrade .standard (some (3, 2))
  obtain ⟨out, left, saved, earlier, below, hrollback, hstate, hbelow, hearlier, -, hiff, -⟩ :=
    paramsChanged_iff_not_upgradesAboveTip .standard { tip := 2, upgrade := some (3, 2) } true
      .current (by decide) (by decide) hs hb ({} : MemoryCheckpoint) rfl
  have hone : below = 1 := Int64.toInt_inj.mp hbelow
  subst hone
  exact ⟨states, blocks, out, left, saved, earlier, hs, hb, hrollback, hstate, hearlier, hiff⟩

/-- An upgrade right above a tip at 2 is undone by either mode of a rollback, and the parameters are
then said to have changed at 2, where no upgrade starts. The chain's own state says 1. -/
theorem paramsChanged_ne_of_upgrade_above_tip : ∃ states blocks out kept out' removed s s' earlier,
    ({ tip := 2, upgrade := some (3, 2) } : SyntheticChain).stateStore .standard = .ok states ∧
    ({ tip := 2, upgrade := some (3, 2) } : SyntheticChain).blockStore .standard 2 = .ok blocks ∧
    ({ tip := 2, upgrade := some (3, 2) } : SyntheticChain).stateAt .standard 1 = .ok earlier ∧
    (⟨states, blocks, {}⟩ : Stores MemoryStateStore MemoryBlockStore MemoryCheckpoint).rollback
      false .current = (.ok out, kept) ∧ kept.states.state = some s ∧
    (⟨states, blocks, {}⟩ : Stores MemoryStateStore MemoryBlockStore MemoryCheckpoint).rollback
      true .current = (.ok out', removed) ∧ removed.states.state = some s' ∧
    earlier.lastHeightConsensusParamsChanged = 1 ∧ s.lastHeightConsensusParamsChanged = 2 ∧
    s'.lastHeightConsensusParamsChanged = 2 := by
  obtain ⟨states, blocks, hs, hb⟩ := exists_stores_of_upgrade .standard (some (3, 2))
  have hmode := fun removeBlock => exists_paramsChanged { tip := 2, upgrade := some (3, 2) }
    removeBlock .current (by decide) (by decide) hs hb (c := ({} : MemoryCheckpoint)) rfl
  obtain ⟨out, kept, s, earlier, below, next, hkept, hs', hbelow, hearlier, hchanged, hnext, hsaved⟩ :=
    hmode false
  obtain ⟨out', removed, s', -, below', next', hremoved, hs'', hbelow', -, -, hnext', hsaved'⟩ :=
    hmode true
  have hone : below = 1 := Int64.toInt_inj.mp hbelow
  have hone' : below' = 1 := Int64.toInt_inj.mp hbelow'
  have hthree : next = 3 := Int64.toInt_inj.mp hnext
  have hthree' : next' = 3 := Int64.toInt_inj.mp hnext'
  subst hone hone' hthree hthree'
  exact ⟨states, blocks, out, kept, out', removed, s, s', earlier, hs, hb, hearlier, hkept, hs',
    hremoved, hs'', hchanged, hsaved, hsaved'⟩

end ChainRollback
