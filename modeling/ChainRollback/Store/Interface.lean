import ChainRollback.Chain.State
import ChainRollback.Store.Error

/-! # What a rollback asks of its stores

A store is a value. A write gives the store that follows it, or a reason and no store, so a write
that fails leaves its store as it was. A state store has a latest state, if any was ever saved, and
a history of validator sets and parameters, which a save extends above its state and which can be
written on its own. A block store has the lowest and the greatest height that it holds, both zero if
it is empty, and loses its blocks from the greatest height down.
-/
namespace ChainRollback

class StateStore (σ : Type) where
  load : σ → Except StoreError (Option State)
  save : σ → State → Except (Halt StoreError) σ
  loadValidators : σ → Height → Except StoreError ValidatorSet
  loadParams : σ → Height → Except StoreError ConsensusParams

class BlockStore (β : Type) where
  base : β → Except StoreError Height
  height : β → Except StoreError Height
  loadMeta : β → Height → Except StoreError (Option BlockMeta)
  deleteLatest : β → Except (Halt StoreError) β

class StateHistory (σ : Type) extends StateStore σ where
  putValidators : σ → Height → ValidatorSet → σ
  putParams : σ → Height → ConsensusParams → σ

class BlockLog (β : Type) extends BlockStore β where
  /-- Adds the block one above the greatest height held, or any block to an empty store. -/
  append : β → BlockMeta → Except (Halt StoreError) β

namespace State

/-- The records that saving a state adds to the history of validator sets. The set of a first
block has no earlier state to record it, so it comes with the genesis state. -/
def validatorRecords (s : State) : Except Overflow (List (Height × ValidatorSet)) := do
  let next ← Height.plus s.lastBlockHeight 1
  let first := if next = s.initialHeight then [(next, s.validators)] else []
  return first ++ [(← Height.plus next 1, s.nextValidators)]

def paramsHeight (s : State) : Except Overflow Height := Height.plus s.lastBlockHeight 1

end State
end ChainRollback
