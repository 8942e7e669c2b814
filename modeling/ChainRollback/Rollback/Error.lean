import ChainRollback.Signer.Error
import ChainRollback.Store.Error

/-! # Errors of a rollback

An error says which step failed and why the store or the checkpoint refused it. Its kind is what
a caller acts on: in particular a read that fails because nothing is there counts as absence.
-/
namespace ChainRollback

inductive ErrorKind where
  | notFound
  | invariantViolation
  | storeRead
  | storeWriteFailure
  | checkpointResetFailure
  deriving DecidableEq, Repr

/-- The reads of a rollback and of a status report. -/
inductive ReadStep where
  | state
  | blockBase
  | blockHeight
  | block (h : Height)
  | validators (h : Height)
  | params (h : Height)
  deriving DecidableEq

inductive RollbackError where
  | noState
  | noHeightBelow (h : Height)
  | noBlock (h : Height)
  | misaligned (stateHeight blockHeight : Height)
  | read (step : ReadStep) (cause : StoreError)
  | save (cause : StoreError)
  | delete (cause : StoreError)
  | reset (cause : CheckpointError)
  deriving DecidableEq

def ReadStep.message : ReadStep → String
  | state => "failed to load state"
  | blockBase => "failed to read blockstore base"
  | blockHeight => "failed to read blockstore height"
  | block h => "failed to load block at height " ++ toString h
  | validators h => "failed to load validator set at height " ++ toString h
  | params h => "failed to load consensus params at height " ++ toString h

namespace RollbackError

def kind : RollbackError → ErrorKind
  | noState => .notFound
  | noHeightBelow _ => .notFound
  | noBlock _ => .notFound
  | misaligned .. => .invariantViolation
  | read _ cause => if cause.isNotFound then .notFound else .storeRead
  | save _ => .storeWriteFailure
  | delete _ => .storeWriteFailure
  | reset _ => .checkpointResetFailure

def message : RollbackError → String
  | noState => "no state found"
  | noHeightBelow h => "no height below " ++ toString h ++ " to roll back to"
  | noBlock h => "block at height " ++ toString h ++ " not found"
  | misaligned stateHeight blockHeight =>
    "statestore height (" ++ toString stateHeight
      ++ ") is not one below or equal to blockstore height (" ++ toString blockHeight ++ ")"
  | read step _ => step.message
  | save _ => "failed to save rolled back state"
  | delete _ => "failed to remove final block from blockstore"
  | reset _ => "state was rolled back but the signing checkpoint was not reset"

/-- The errors behind it, the nearest first. -/
def causes : RollbackError → List String
  | read _ cause => [cause.message]
  | save cause => [cause.message]
  | delete cause => [cause.message]
  | reset cause => cause.message :: cause.error.message :: cause.error.causes
  | _ => []

end RollbackError
end ChainRollback
