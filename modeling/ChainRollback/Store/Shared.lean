import ChainRollback.Store.Memory

/-! # A state store in memory behind locks

Each part of a shared store is behind a lock that is held for one access. An access that stops
poisons the lock it holds, and to take a poisoned lock is a stop itself. Only a save can stop so: it
works out the heights of its records, which may overflow, under the lock on the validator sets. The
locks on the state and on the parameters are taken after that, so they always open.
-/
namespace ChainRollback

/-- Why a call of a shared store gives no result: as on a store of one's own, or at a poisoned
lock. -/
inductive Stop where
  | halt (h : Halt StoreError)
  | poisoned
  deriving DecidableEq

def Stop.ofAnswer {α : Type} (answer : Except StoreError α) : Except Stop α :=
  answer.mapError fun e => .halt (.error e)

structure SharedStateStore where
  parts : MemoryStateStore := {}
  /-- The lock on the validator sets is poisoned. -/
  poisoned : Bool := false
  deriving DecidableEq

namespace SharedStateStore

variable (m : SharedStateStore)

def load : Except Stop (Option State) := Stop.ofAnswer (StateStore.load m.parts)

def loadValidators (h : Height) : Except Stop ValidatorSet :=
  if m.poisoned then .error .poisoned else Stop.ofAnswer (StateStore.loadValidators m.parts h)

def loadParams (h : Height) : Except Stop ConsensusParams :=
  Stop.ofAnswer (StateStore.loadParams m.parts h)

def save (s : State) : Except Stop Unit × SharedStateStore :=
  -- a store that refuses saves does so before it takes a lock
  if m.poisoned && !m.parts.refusesSaves then (.error .poisoned, m)
  else match m.parts.save s with
    | .ok parts => (.ok (), { m with parts := parts })
    | .error (.error e) => (.error (.halt (.error e)), m)
    | .error (.overflow o) => (.error (.halt (.overflow o)), { m with poisoned := true })

def putValidators (h : Height) (set : ValidatorSet) : Except Stop Unit × SharedStateStore :=
  if m.poisoned then (.error .poisoned, m)
  else (.ok (), { m with parts := m.parts.putValidators h set })

def putParams (h : Height) (p : ConsensusParams) : SharedStateStore :=
  { m with parts := m.parts.putParams h p }

end SharedStateStore
end ChainRollback
