import ChainRollback.Bytes

/-! # Blocks

What a node keeps of a block: its id, its size and its header. The hashes in the header of block
`h` describe the application after block `h - 1`.
-/
namespace ChainRollback

/-- The block protocol spoken by this build. -/
def blockProtocol : UInt64 := 11

/-- A point in time, counted in nanoseconds from the epoch. -/
structure Timestamp where
  nanos : UInt64 := 0
  deriving DecidableEq

namespace Timestamp

/-- The last representable moment stands for all later ones. -/
def ofSecs (secs : UInt64) : Timestamp :=
  ⟨UInt64.ofNat (min (secs.toNat * 1000000000) (UInt64.size - 1))⟩

def secs (t : Timestamp) : UInt64 := t.nanos / 1000000000

/-- Seconds, a point and nine digits. -/
def render (t : Timestamp) : String :=
  let fraction := Nat.toDigits 10 (t.nanos.toNat % 1000000000)
  toString t.secs.toNat ++ "." ++
    String.ofList (List.replicate (9 - fraction.length) '0' ++ fraction) ++ "s"

def order (a b : Timestamp) : Ordering := compare a.nanos b.nanos

end Timestamp

structure PartSetHeader where
  total : UInt32 := 0
  hash : Bytes := []
  deriving DecidableEq

structure BlockId where
  hash : Bytes := []
  partSetHeader : PartSetHeader := {}
  deriving DecidableEq

def BlockId.isZero (id : BlockId) : Bool := id.hash.isEmpty && id.partSetHeader == {}

structure ConsensusVersion where
  block : UInt64 := 0
  app : UInt64 := 0
  deriving DecidableEq

structure Header where
  version : ConsensusVersion := {}
  chainId : String := ""
  height : Height := 0
  time : Timestamp := {}
  lastBlockId : BlockId := {}
  lastCommitHash : Bytes := []
  dataHash : Bytes := []
  validatorsHash : Bytes := []
  nextValidatorsHash : Bytes := []
  consensusHash : Bytes := []
  appHash : Bytes := []
  lastResultsHash : Bytes := []
  evidenceHash : Bytes := []
  proposerAddress : Bytes := []
  deriving DecidableEq

structure BlockMeta where
  blockId : BlockId := {}
  blockSize : UInt64 := 0
  header : Header := {}
  numTxs : UInt64 := 0
  deriving DecidableEq

instance : Inhabited BlockMeta := ⟨{}⟩

def BlockMeta.height (m : BlockMeta) : Height := m.header.height

end ChainRollback
