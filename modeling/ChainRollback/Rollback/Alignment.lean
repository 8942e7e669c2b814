import ChainRollback.Rollback.Error
import ChainRollback.Store.Interface

/-! # How two stores stand to each other

A node saves a block before the state that follows it. So its block store is level with its state
or exactly one block ahead; every other pair of heights is refused.
-/
namespace ChainRollback

inductive Alignment where
  /-- A block is held that the state has not advanced past. -/
  | pendingBlock
  | aligned
  deriving DecidableEq, Repr

def classify (stateHeight blockHeight : Height) : Except RollbackError Alignment :=
  if stateHeight.succ? = some blockHeight then .ok .pendingBlock
  else if blockHeight = stateHeight then .ok .aligned
  else .error (.misaligned stateHeight blockHeight)

theorem classify_eq_pendingBlock {s b : Height} :
    classify s b = .ok .pendingBlock ↔ b.toInt = s.toInt + 1 := by
  rw [← Height.succ?_eq_some]
  unfold classify
  split
  · simp [*]
  · split <;> simp_all

theorem classify_eq_aligned {s b : Height} : classify s b = .ok .aligned ↔ b = s := by
  unfold classify
  split
  · rename_i h
    have hs := Height.succ?_eq_some.mp h
    simp only [Except.ok.injEq, reduceCtorEq, false_iff]
    intro e
    rw [e] at hs
    omega
  · split <;> simp [*]

theorem classify_eq_error {s b : Height} {e : RollbackError}
    (h : classify s b = .error e) : e = .misaligned s b := by
  unfold classify at h
  split at h
  · cases h
  · split at h
    · cases h
    · cases h
      rfl

variable {σ β : Type} [StateStore σ] [BlockStore β]

/-- The stored state, unless there is none worth the name. -/
def loadState (states : σ) : Except RollbackError State := do
  match ← (StateStore.load states).mapError (.read .state) with
  | some s => if s.isEmpty then throw .noState else return s
  | none => throw .noState

structure StoreStatus where
  stateHeight : Height
  blockBase : Height
  blockHeight : Height
  deriving DecidableEq

namespace StoreStatus

def read (blocks : β) (states : σ) : Except RollbackError StoreStatus := do
  let s ← loadState states
  let base ← (BlockStore.base blocks).mapError (.read .blockBase)
  let height ← (BlockStore.height blocks).mapError (.read .blockHeight)
  return ⟨s.lastBlockHeight, base, height⟩

def alignment (s : StoreStatus) : Except RollbackError Alignment :=
  classify s.stateHeight s.blockHeight

end StoreStatus
end ChainRollback
