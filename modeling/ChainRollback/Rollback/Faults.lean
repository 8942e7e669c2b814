import ChainRollback.Rollback.Run
import ChainRollback.Store.Faults

/-! # Rollbacks behind faults

A checkpoint behind a fault refuses its reset and stays as it is. The stores of a node behind
faults are its stores with a choice of the calls that fail.
-/
namespace ChainRollback

structure FaultyCheckpoint (κ : Type) where
  checkpoint : κ
  fault : Option CheckpointError := none

instance {κ : Type} [Checkpoint κ] : Checkpoint (FaultyCheckpoint κ) where
  reset c :=
    match c.fault with
    | some e => (.error e, c)
    | none =>
      let (result, checkpoint) := Checkpoint.reset c.checkpoint
      (result, { c with checkpoint := checkpoint })

/-- The calls of one run that fail, each with its error. -/
structure Faults where
  states : StateFaults := {}
  blocks : BlockFaults := {}
  checkpoint : Option CheckpointError := none

namespace Stores

variable {σ β κ : Type}

def behind (n : Stores σ β κ) (f : Faults) :
    Stores (FaultyStateStore σ) (FaultyBlockStore β) (FaultyCheckpoint κ) :=
  ⟨⟨n.states, f.states⟩, ⟨n.blocks, f.blocks⟩, ⟨n.checkpoint, f.checkpoint⟩⟩

/-- The stores themselves. -/
def bare (n : Stores (FaultyStateStore σ) (FaultyBlockStore β) (FaultyCheckpoint κ)) :
    Stores σ β κ :=
  ⟨n.states.store, n.blocks.store, n.checkpoint.checkpoint⟩

end Stores
end ChainRollback
