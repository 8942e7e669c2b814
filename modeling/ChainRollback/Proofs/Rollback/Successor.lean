import ChainRollback.Proofs.Rollback.Steps
import ChainRollback.Proofs.Store.StateContents

/-! # One height forward and one back

Executing a block leads from a state to a successor of it. What a rollback reads for the successor
are records of the earlier state and of its block, so the state that it rebuilds agrees with the
earlier one, and saving the rebuilt state writes only records that are there already.
-/
namespace ChainRollback

namespace State

/-- Two states agree on the chain and its last block, on the validators and on the parameters. They
may differ in versions, hashes and the heights of changes. -/
structure Agrees (s t : State) : Prop where
  chainId : s.chainId = t.chainId
  initialHeight : s.initialHeight = t.initialHeight
  lastBlockHeight : s.lastBlockHeight = t.lastBlockHeight
  lastBlockId : s.lastBlockId = t.lastBlockId
  lastBlockTime : s.lastBlockTime = t.lastBlockTime
  nextValidators : s.nextValidators = t.nextValidators
  validators : s.validators = t.validators
  lastValidators : s.lastValidators = t.lastValidators
  consensusParams : s.consensusParams = t.consensusParams

structure Succeeds (s prev : State) : Prop where
  chainId : s.chainId = prev.chainId
  initialHeight : s.initialHeight = prev.initialHeight
  lastBlockHeight : s.lastBlockHeight.toInt = prev.lastBlockHeight.toInt + 1
  validators : s.validators = prev.nextValidators
  lastValidators : s.lastValidators = prev.validators

structure Executed (s : State) (b : BlockMeta) : Prop where
  height : b.height = s.lastBlockHeight
  blockId : b.blockId = s.lastBlockId
  time : b.header.time = s.lastBlockTime

variable {s t prev : State}

theorem Agrees.refl (s : State) : s.Agrees s := ⟨rfl, rfl, rfl, rfl, rfl, rfl, rfl, rfl, rfl⟩

theorem Agrees.succeeds (h : s.Agrees t) (ht : t.Succeeds prev) : s.Succeeds prev :=
  ⟨h.chainId.trans ht.chainId, h.initialHeight.trans ht.initialHeight,
    h.lastBlockHeight ▸ ht.lastBlockHeight, h.validators.trans ht.validators,
    h.lastValidators.trans ht.lastValidators⟩

theorem Succeeds.of_agrees (h : s.Succeeds prev) (hp : prev.Agrees t) : s.Succeeds t :=
  ⟨h.chainId.trans hp.chainId, h.initialHeight.trans hp.initialHeight,
    hp.lastBlockHeight ▸ h.lastBlockHeight, h.validators.trans hp.nextValidators,
    h.lastValidators.trans hp.validators⟩

end State

theorem agrees_reconstruct {i : RollbackInputs} {prev : State} (build : BuildVersion)
    (hs : i.invalid.Succeeds prev) (hb : prev.Executed i.rollbackBlock)
    (hset : i.prevValidators = prev.lastValidators) (hp : i.prevParams = prev.consensusParams) :
    (reconstruct i build).Agrees prev :=
  ⟨hs.chainId, hs.initialHeight, hb.height, hb.blockId, hb.time, hs.validators,
    hs.lastValidators, hset, hp⟩

namespace StateContents

/-- The records that executing a state's last block settles: the validator sets of the next two
heights and the parameters of the next one. -/
structure Records (c : StateContents) (s : State) : Prop where
  validators : ∀ h : Height, h.toInt = s.lastBlockHeight.toInt + 1 →
    c.validators h = some s.validators
  nextValidators : ∀ h : Height, h.toInt = s.lastBlockHeight.toInt + 2 →
    c.validators h = some s.nextValidators
  params : ∀ h : Height, h.toInt = s.lastBlockHeight.toInt + 1 → c.params h = some s.consensusParams

variable {c : StateContents} {s t : State}

theorem Records.of_agrees (h : c.Records t) (ha : s.Agrees t) : c.Records s := by
  constructor
  · rw [ha.lastBlockHeight, ha.validators]
    exact h.validators
  · rw [ha.lastBlockHeight, ha.nextValidators]
    exact h.nextValidators
  · rw [ha.lastBlockHeight, ha.consensusParams]
    exact h.params

/-- A state whose records are there already changes none when it is saved. -/
theorem Records.save_eq (h : c.Records s) : c.save s = { c with state := some s } := by
  have hsets : ∀ i, (s.recordedSet i).or (c.validators i) = c.validators i := by
    intro i
    unfold State.recordedSet
    split
    · rename_i hi
      rw [h.nextValidators i hi]
      rfl
    · split
      · rename_i hi
        rw [h.validators i hi.1]
        rfl
      · rfl
  have hparams : ∀ i, (s.recordedParams i).or (c.params i) = c.params i := by
    intro i
    unfold State.recordedParams
    split
    · rename_i hi
      rw [h.params i hi]
      rfl
    · rfl
  simp only [save, hsets, hparams]

/-- After a save the records of the state are there. The set of the next height is written only with
the first block of a chain, and otherwise has to be there before. -/
theorem records_save (hset : ∀ h : Height, h.toInt = s.lastBlockHeight.toInt + 1 →
    h = s.initialHeight ∨ c.validators h = some s.validators) : (c.save s).Records s := by
  refine ⟨fun h hh => ?_, fun h hh => ?_, fun h hh => ?_⟩
  · change (s.recordedSet h).or (c.validators h) = _
    have hne : ¬h.toInt = s.lastBlockHeight.toInt + 2 := by omega
    rw [State.recordedSet, if_neg hne]
    by_cases hi : h = s.initialHeight
    · rw [if_pos ⟨hh, hi⟩]
      rfl
    · rw [if_neg fun he => hi he.2]
      exact (hset h hh).resolve_left hi
  · change (s.recordedSet h).or (c.validators h) = _
    rw [State.recordedSet, if_pos hh]
    rfl
  · change (s.recordedParams h).or (c.params h) = _
    rw [State.recordedParams, if_pos hh]
    rfl

/-- Saving a state above its first block leaves the records of all lower states. -/
theorem Records.save (h : c.Records t) (hlt : t.lastBlockHeight.toInt < s.lastBlockHeight.toInt)
    (hfirst : s.initialHeight.toInt ≤ s.lastBlockHeight.toInt) : (c.save s).Records t := by
  have hset : ∀ i : Height, i.toInt ≤ t.lastBlockHeight.toInt + 2 →
      (c.save s).validators i = c.validators i := by
    intro i hi
    have hnone : s.recordedSet i = none := by
      rw [State.recordedSet, if_neg (by omega), if_neg]
      rintro ⟨hnext, rfl⟩
      omega
    change (s.recordedSet i).or (c.validators i) = _
    rw [hnone, Option.none_or]
  refine ⟨fun i hi => ?_, fun i hi => ?_, fun i hi => ?_⟩
  · rw [hset i (by omega)]
    exact h.validators i hi
  · rw [hset i (by omega)]
    exact h.nextValidators i hi
  · change (s.recordedParams i).or (c.params i) = _
    rw [State.recordedParams, if_neg (by omega), Option.none_or]
    exact h.params i hi

end StateContents
end ChainRollback
