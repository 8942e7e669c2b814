import ChainRollback.OrderedMap
import ChainRollback.Store.Interface

/-! # Stores in memory

Each keeps its records in ordered maps and counts its successful writes. Either can be told to
refuse writes. A save that overflows gives no store; what it leaves to others that use the same
store is in `Store.Shared`.
-/
namespace ChainRollback

structure MemoryStateStore where
  state : Option State := none
  validators : OrderedMap Height ValidatorSet := ∅
  params : OrderedMap Height ConsensusParams := ∅
  saves : Nat := 0
  refusesSaves : Bool := false
  deriving DecidableEq

namespace MemoryStateStore

def putState (m : MemoryStateStore) (s : State) : MemoryStateStore := { m with state := some s }

def putValidators (m : MemoryStateStore) (h : Height) (set : ValidatorSet) : MemoryStateStore :=
  { m with validators := m.validators.insert h set }

def putParams (m : MemoryStateStore) (h : Height) (p : ConsensusParams) : MemoryStateStore :=
  { m with params := m.params.insert h p }

def removeValidators (m : MemoryStateStore) (h : Height) : MemoryStateStore :=
  { m with validators := m.validators.erase h }

def removeParams (m : MemoryStateStore) (h : Height) : MemoryStateStore :=
  { m with params := m.params.erase h }

def save (m : MemoryStateStore) (s : State) : Except (Halt StoreError) MemoryStateStore :=
  if m.refusesSaves then .error (.error (.backend "save disabled"))
  else do
    let records ← s.validatorRecords.mapError .overflow
    let height ← s.paramsHeight.mapError .overflow
    return { m with
      state := some s
      validators := records.foldl (fun all (h, set) => all.insert h set) m.validators
      params := m.params.insert height s.consensusParams
      saves := m.saves + 1 }

instance : StateStore MemoryStateStore where
  load m := .ok m.state
  save := save
  loadValidators m h := match m.validators.find? h with
    | some set => .ok set
    | none => .error (.noValidators h)
  loadParams m h := match m.params.find? h with
    | some p => .ok p
    | none => .error (.noParams h)

instance : StateHistory MemoryStateStore where
  putValidators := putValidators
  putParams := putParams

end MemoryStateStore

/-- A run of blocks from `base` to `height`, which are both zero for an empty store. -/
structure MemoryBlockStore where
  base : Height := 0
  height : Height := 0
  metas : OrderedMap Height BlockMeta := ∅
  deletes : Nat := 0
  refusesDeletes : Bool := false
  deriving DecidableEq

namespace MemoryBlockStore

def append (m : MemoryBlockStore) (b : BlockMeta) : Except StoreError MemoryBlockStore :=
  if m.height = 0 then
    .ok { m with base := b.height, height := b.height, metas := m.metas.insert b.height b }
  else if m.height.succ? = some b.height then
    .ok { m with height := b.height, metas := m.metas.insert b.height b }
  else .error (.nonContiguous m.height b.height)

/-- Loses one record and leaves the ends of the run where they are. -/
def forget (m : MemoryBlockStore) (h : Height) : MemoryBlockStore :=
  { m with metas := m.metas.erase h }

def deleteLatest (m : MemoryBlockStore) : Except (Halt StoreError) MemoryBlockStore :=
  if m.refusesDeletes then .error (.error (.backend "delete disabled"))
  else if m.height = 0 then .error (.error .empty)
  else do
    let rest := { m with metas := m.metas.erase m.height, deletes := m.deletes + 1 }
    if m.height = m.base then return { rest with base := 0, height := 0 }
    return { rest with height := ← (m.height.minus 1).mapError .overflow }

instance : BlockStore MemoryBlockStore where
  base m := .ok m.base
  height m := .ok m.height
  loadMeta m h := .ok (m.metas.find? h)
  deleteLatest := deleteLatest

instance : BlockLog MemoryBlockStore where
  append m b := (m.append b).mapError .error

end MemoryBlockStore
end ChainRollback
