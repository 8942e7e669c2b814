import ChainRollback.Chain.State

/-! # The state one height below

The state at `n - 1` follows from the state at `n`, which is invalid, from the blocks at `n - 1`, to
roll back to, and at `n`, the latest, and from the validator set and the parameters recorded for
those heights. The validator sets move down one place, and a change recorded above the new height
becomes a change of the next one.
-/
namespace ChainRollback

structure RollbackInputs where
  invalid : State
  rollbackBlock : BlockMeta
  latestBlock : BlockMeta
  prevValidators : ValidatorSet
  prevParams : ConsensusParams
  removeBlock : Bool

def clampChange (changed h : Height) : Height :=
  if h < changed then h.succSaturating else changed

/-- The app hash and the results hash of the rebuilt state: from the header of the block rolled
back to if that will be the tip, and otherwise from the block after it, each from the field of the
other. -/
def RollbackInputs.hashes (i : RollbackInputs) : Bytes × Bytes :=
  if i.removeBlock then (i.rollbackBlock.header.appHash, i.rollbackBlock.header.lastResultsHash)
  else (i.latestBlock.header.lastResultsHash, i.latestBlock.header.appHash)

def reconstruct (i : RollbackInputs) (build : BuildVersion) : State :=
  let height := i.rollbackBlock.header.height
  { version := ⟨⟨build.blockProtocol, i.prevParams.version.appVersion⟩, build.software⟩
    chainId := i.invalid.chainId
    initialHeight := i.invalid.initialHeight
    lastBlockHeight := height
    lastBlockId := i.rollbackBlock.blockId
    lastBlockTime := i.rollbackBlock.header.time
    nextValidators := i.invalid.validators
    validators := i.invalid.lastValidators
    lastValidators := i.prevValidators
    lastHeightValidatorsChanged := clampChange i.invalid.lastHeightValidatorsChanged height
    consensusParams := i.prevParams
    lastHeightConsensusParamsChanged :=
      clampChange i.invalid.lastHeightConsensusParamsChanged height
    lastResultsHash := i.hashes.2
    appHash := i.hashes.1 }

end ChainRollback
