import ChainRollback.Chain.Block
import ChainRollback.Chain.Params
import ChainRollback.Chain.Validator

/-! # The consensus state

What a node holds after executing its last block: the validator sets of three heights, the
parameters of the next block, and the application's hashes. A state without validators stands for
no state at all.
-/
namespace ChainRollback

structure Version where
  consensus : ConsensusVersion := {}
  software : String := ""
  deriving DecidableEq

structure State where
  version : Version := {}
  chainId : String := ""
  initialHeight : Height := 0
  lastBlockHeight : Height := 0
  lastBlockId : BlockId := {}
  lastBlockTime : Timestamp := {}
  nextValidators : ValidatorSet := .empty
  validators : ValidatorSet := .empty
  lastValidators : ValidatorSet := .empty
  lastHeightValidatorsChanged : Height := 0
  consensusParams : ConsensusParams := {}
  lastHeightConsensusParamsChanged : Height := 0
  lastResultsHash : Bytes := []
  appHash : Bytes := []
  deriving DecidableEq

instance : Inhabited State := ⟨{}⟩

def State.isEmpty (s : State) : Bool := s.validators.isEmpty

/-- The versions of the program that rebuilds a state. -/
structure BuildVersion where
  software : String
  blockProtocol : UInt64
  deriving DecidableEq

def BuildVersion.current : BuildVersion := ⟨"0.1.0", ChainRollback.blockProtocol⟩

end ChainRollback
