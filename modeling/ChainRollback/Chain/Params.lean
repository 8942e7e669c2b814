import ChainRollback.Bytes

/-! # Consensus parameters

The parameters a chain can change by upgrade. The defaults are those of a new chain.
-/
namespace ChainRollback

structure BlockParams where
  maxBytes : Int64 := 22020096
  maxGas : Int64 := -1
  deriving DecidableEq

structure EvidenceParams where
  maxAgeNumBlocks : Int64 := 100000
  maxAgeDurationNanos : UInt64 := 172800000000000
  maxBytes : Int64 := 1048576
  deriving DecidableEq

structure ValidatorParams where
  pubKeyTypes : List String := ["ed25519"]
  deriving DecidableEq

structure VersionParams where
  appVersion : UInt64 := 0
  deriving DecidableEq

structure ConsensusParams where
  block : BlockParams := {}
  evidence : EvidenceParams := {}
  validator : ValidatorParams := {}
  version : VersionParams := {}
  deriving DecidableEq

instance : Inhabited ConsensusParams := ⟨{}⟩

end ChainRollback
