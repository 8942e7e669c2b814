import ChainRollback.Rollback.Alignment
import ChainRollback.Rollback.Reconstruct
import ChainRollback.Signer.Files

/-! # Rolling back by one height

A rollback first reads everything it needs and settles on a plan: the writes to make, in order,
and the outcome to report. Nothing is written before the plan stands. The writes are then made one
after another, and the first that fails ends the run with what was written before it in place.
-/
namespace ChainRollback

structure Stores (σ β κ : Type) where
  states : σ
  blocks : β
  checkpoint : κ

structure Outcome where
  height : Height
  appHash : Bytes
  deriving DecidableEq

inductive Write where
  | saveState (s : State)
  | deleteBlock
  | resetCheckpoint
  deriving DecidableEq

structure Plan where
  writes : List Write
  outcome : Outcome
  deriving DecidableEq

variable {σ β κ : Type} [StateStore σ] [BlockStore β] [Checkpoint κ]

def loadBlock (blocks : β) (h : Height) : Except RollbackError BlockMeta := do
  match ← (BlockStore.loadMeta blocks h).mapError (.read (.block h)) with
  | some b => return b
  | none => throw (.noBlock h)

def gatherInputs (states : σ) (blocks : β) (removeBlock : Bool) (invalid : State) :
    Except RollbackError RollbackInputs := do
  let n := invalid.lastBlockHeight
  match n.pred? with
  | none => throw (.noHeightBelow n)
  | some below =>
    let rollbackBlock ← loadBlock blocks below
    let latestBlock ← loadBlock blocks n
    let validators ← (StateStore.loadValidators states below).mapError
      (.read (.validators below))
    let params ← (StateStore.loadParams states n).mapError (.read (.params n))
    return ⟨invalid, rollbackBlock, latestBlock, validators, params, removeBlock⟩

/-- A pending block is only reported, or removed; an aligned state is replaced, and its block and
the checkpoint go with it on request. -/
def planRollback (states : σ) (blocks : β) (removeBlock : Bool) (build : BuildVersion) :
    Except RollbackError Plan := do
  let invalid ← loadState states
  let height ← (BlockStore.height blocks).mapError (.read .blockHeight)
  match ← classify invalid.lastBlockHeight height with
  | .pendingBlock =>
    return ⟨if removeBlock then [.deleteBlock] else [],
      ⟨invalid.lastBlockHeight, invalid.appHash⟩⟩
  | .aligned =>
    let s := reconstruct (← gatherInputs states blocks removeBlock invalid) build
    return ⟨.saveState s :: if removeBlock then [.deleteBlock, .resetCheckpoint] else [],
      ⟨s.lastBlockHeight, s.appHash⟩⟩

namespace Stores

/-- One write. The checkpoint may have changed even if its reset fails. -/
def perform (n : Stores σ β κ) : Write → Except (Halt RollbackError) Unit × Stores σ β κ
  | .saveState s =>
    match StateStore.save n.states s with
    | .ok states => (.ok (), { n with states := states })
    | .error e => (.error (e.map .save), n)
  | .deleteBlock =>
    match BlockStore.deleteLatest n.blocks with
    | .ok blocks => (.ok (), { n with blocks := blocks })
    | .error e => (.error (e.map .delete), n)
  | .resetCheckpoint =>
    let (result, checkpoint) := Checkpoint.reset n.checkpoint
    (result.mapError fun e => .error (.reset e), { n with checkpoint := checkpoint })

/-- Writes in turn, up to the first that fails. -/
def performAll (n : Stores σ β κ) : List Write → Except (Halt RollbackError) Unit × Stores σ β κ
  | [] => (.ok (), n)
  | w :: rest =>
    match n.perform w with
    | (.ok _, n) => n.performAll rest
    | failed => failed

def rollback (n : Stores σ β κ) (removeBlock : Bool) (build : BuildVersion) :
    Except (Halt RollbackError) Outcome × Stores σ β κ :=
  match planRollback n.states n.blocks removeBlock build with
  | .error e => (.error (.error e), n)
  | .ok plan =>
    let (result, n) := n.performAll plan.writes
    (result.map fun _ => plan.outcome, n)

end Stores
end ChainRollback
