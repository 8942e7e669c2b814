import ChainRollback.Chain.Commitment
import ChainRollback.Store.Disk
import ChainRollback.Store.Memory

/-! # Synthetic chains

A chain in which every record follows from its height: the validator set changes with every
block, the hashes are digests of the height behind a tag, and the parameters may be upgraded
once. Its stores hold what a node would hold after running it.
-/
namespace ChainRollback

structure SyntheticChain where
  chainId : String := "rewind-test"
  initialHeight : Height := 1
  tip : Height
  software : String := "0.0.0-fixture"
  /-- From a height on, the parameters carry another application version. -/
  upgrade : Option (Height × UInt64) := none

namespace SyntheticChain

def genesisSecs : UInt64 := 1700000000

def blockIntervalSecs : UInt64 := 6

variable (prim : Primitives) (chain : SyntheticChain)

/-- The seed of the `i`-th validator of a height is one byte, repeated. -/
def seedByte (h : Height) (i : UInt8) : UInt8 :=
  UInt8.ofNat (h.toInt % 200).toNat + 1 + i * 50

def validatorAt (h : Height) (i : Fin 3) : Validator :=
  let key := prim.publicKey (Bytes32.replicate (seedByte h (UInt8.ofNat i)))
  { address := prim.address key
    pubKey := key
    votingPower := 10 + Int64.ofNat i
    proposerPriority := Int64.ofNat i }

def validatorsAt (h : Height) : ValidatorSet :=
  .ofList [validatorAt prim h 0, validatorAt prim h 1, validatorAt prim h 2]

def paramsAt (h : Height) : ConsensusParams :=
  { version := { appVersion := match chain.upgrade with
      | some (start, version) => if start ≤ h then version else 1
      | none => 1 } }

def taggedHash (tag : String) (h : Height) : Bytes :=
  (prim.digest (Utf8.encode tag ++ h.toBytes)).bytes

def appHashAfter (h : Height) : Bytes := taggedHash prim "app" h

def resultsHashAfter (h : Height) : Bytes := taggedHash prim "results" h

def blockId (h : Height) : BlockId where
  hash := taggedHash prim "block" h
  partSetHeader := ⟨1, taggedHash prim "parts" h⟩

def blockTime (h : Height) : Except Overflow Timestamp := do
  let offset ← h.minus chain.initialHeight
  let passed := offset.toInt.toNat * blockIntervalSecs.toNat
  if UInt64.size ≤ passed then throw .multiply
  if UInt64.size ≤ genesisSecs.toNat + passed then throw .add
  return .ofSecs (UInt64.ofNat (genesisSecs.toNat + passed))

/-- The block before the first one has no id. -/
def lastBlockId (h : Height) : Except Overflow BlockId :=
  if h = chain.initialHeight then .ok {} else (h.minus 1).map (blockId prim)

/-- The record of a block, whose header holds what executing the block before it gave. -/
def blockMeta (h : Height) : Except Overflow BlockMeta := do
  let lastBlockId ← chain.lastBlockId prim h
  let time ← chain.blockTime h
  let before ← h.minus 1
  let after ← h.plus 1
  let params := chain.paramsAt h
  return {
    blockId := blockId prim h
    blockSize := 1024
    header := {
      version := ⟨blockProtocol, params.version.appVersion⟩
      chainId := chain.chainId
      height := h
      time := time
      lastBlockId := lastBlockId
      lastCommitHash := taggedHash prim "commit" before
      dataHash := taggedHash prim "data" h
      validatorsHash := ((validatorsAt prim h).hash prim.digest).bytes
      nextValidatorsHash := ((validatorsAt prim after).hash prim.digest).bytes
      consensusHash := (params.hash prim.digest).bytes
      appHash := appHashAfter prim before
      lastResultsHash := resultsHashAfter prim before
      evidenceHash := []
      proposerAddress := (validatorAt prim h 2).address }
    numTxs := 2 }

/-- The height at which the parameters in effect after `next` were decided. -/
def paramsChangedBy (next : Height) : Height :=
  match chain.upgrade with
  | some (start, _) => if start ≤ next then start else chain.initialHeight
  | none => chain.initialHeight

def stateAt (h : Height) : Except Overflow State := do
  let next ← h.plus 1
  let params := chain.paramsAt next
  let time ← chain.blockTime h
  let second ← h.plus 2
  return {
    version := ⟨⟨blockProtocol, params.version.appVersion⟩, chain.software⟩
    chainId := chain.chainId
    initialHeight := chain.initialHeight
    lastBlockHeight := h
    lastBlockId := blockId prim h
    lastBlockTime := time
    nextValidators := validatorsAt prim second
    validators := validatorsAt prim next
    lastValidators := validatorsAt prim h
    lastHeightValidatorsChanged := next
    consensusParams := params
    lastHeightConsensusParamsChanged := chain.paramsChangedBy next
    lastResultsHash := resultsHashAfter prim h
    appHash := appHashAfter prim h }

/-- The heights at which the history of validator sets is recorded. -/
def validatorHeights : Except Overflow (List Height) :=
  (chain.tip.plus 2).map chain.initialHeight.upTo

def paramsHeights : Except Overflow (List Height) :=
  (chain.tip.plus 1).map chain.initialHeight.upTo

def stateStore : Except Overflow MemoryStateStore := do
  let sets := (← chain.validatorHeights).foldl
    (fun m h => MemoryStateStore.putValidators m h (validatorsAt prim h)) {}
  let filed := (← chain.paramsHeights).foldl
    (fun m h => MemoryStateStore.putParams m h (chain.paramsAt h)) sets
  return filed.putState (← chain.stateAt prim chain.tip)

/-- Appends the blocks of some heights in turn, up to the first that is refused. -/
def appendAll {β : Type} (append : β → BlockMeta → Except (Halt StoreError) β) :
    List Height → β → Except (Halt StoreError) Unit × β
  | [], store => (.ok (), store)
  | h :: rest, store =>
    match chain.blockMeta prim h with
    | .error o => (.error (.overflow o), store)
    | .ok b =>
      match append store b with
      | .error e => (.error e, store)
      | .ok next => appendAll append rest next

def blockStore (last : Height) : Except (Halt StoreError) MemoryBlockStore :=
  let (result, store) := chain.appendAll prim
    (fun m b => (MemoryBlockStore.append m b).mapError .error) (chain.initialHeight.upTo last) {}
  result.map fun _ => store

/-- Writes the history, the state and the blocks of a chain into a node's stores on disk, keeping
what was written before a step that fails. -/
def fillDisk (last : Height) (states : DiskStateStore) (blocks : DiskBlockStore) :
    Except (Halt StoreError) Unit × DiskStateStore × DiskBlockStore :=
  match chain.validatorHeights with
  | .error o => (.error (.overflow o), states, blocks)
  | .ok heights =>
    let states := heights.foldl (fun s h => s.putValidators h (validatorsAt prim h)) states
    match chain.paramsHeights with
    | .error o => (.error (.overflow o), states, blocks)
    | .ok heights =>
      let states := heights.foldl (fun s h => s.putParams h (chain.paramsAt h)) states
      match (chain.stateAt prim chain.tip).mapError .overflow >>= states.save with
      | .error e => (.error e, states, blocks)
      | .ok states =>
        let (result, blocks) := chain.appendAll prim DiskBlockStore.append
          (chain.initialHeight.upTo last) blocks
        (result, states, blocks)

end SyntheticChain
end ChainRollback
