import ChainRollback.Record.Chain
import ChainRollback.Store.Environment
import ChainRollback.Store.Interface

/-! # Stores on disk

The two stores of a node, each over an environment of its own. A record is filed under the eight
big-endian bytes of its height, so the bytes sort negative heights behind all others. A save is
one transaction: it gives an environment with all of its records or none.
-/
namespace ChainRollback

/-- The height a key stands for. -/
def Height.ofKey (key : Bytes) : Except StoreError Height :=
  if key.length = 8 then .ok (UInt64.ofNat (Bytes.ofBigEndian key)).toInt64
  else .error (.serialization "invalid height key length")

def Codec.fromDisk {α : Type} (c : Codec α) (record : Bytes) : Except StoreError α :=
  (c.read record).mapError fun fault => .serialization fault.message

/-- The record filed under a height, if there is one. -/
def Table.recordAt {α : Type} (t : Table) (c : Codec α) (h : Height) :
    Except StoreError (Option α) :=
  match t.find? h.toBytes with
  | some record => (c.fromDisk record).map some
  | none => .ok none

structure DiskBlockStore where
  env : Environment

namespace DiskBlockStore

def openIn (e : Environment) : Except DiskError DiskBlockStore :=
  e.checkSchema.map fun e => ⟨e.create .blockMetas⟩

def metas (s : DiskBlockStore) : Table := s.env.table .blockMetas

/-- The height of a binding at an end of the table, zero if the table is empty. -/
def edge : Option (Bytes × Bytes) → Except StoreError Height
  | some (key, _) => Height.ofKey key
  | none => .ok 0

def base (s : DiskBlockStore) : Except StoreError Height := edge s.metas.first?

def height (s : DiskBlockStore) : Except StoreError Height := edge s.metas.last?

def put (s : DiskBlockStore) (b : BlockMeta) : DiskBlockStore :=
  ⟨s.env.put .blockMetas b.height.toBytes (BlockMeta.codec.encode b)⟩

def append (s : DiskBlockStore) (b : BlockMeta) : Except (Halt StoreError) DiskBlockStore :=
  match s.metas.last? with
  | none => .ok (s.put b)
  | some (key, _) => do
    let tip ← (Height.ofKey key).mapError .error
    let next ← (tip.plus 1).mapError .overflow
    if b.height = next then return s.put b
    throw (.error (.nonContiguous tip b.height))

def deleteLatest (s : DiskBlockStore) : Except (Halt StoreError) DiskBlockStore :=
  match s.metas.last? with
  | none => .error (.error .empty)
  | some (key, _) => do
    let _ ← (Height.ofKey key).mapError .error
    return ⟨s.env.remove .blockMetas key⟩

instance : BlockStore DiskBlockStore where
  base := base
  height := height
  loadMeta s h := Table.recordAt s.metas BlockMeta.codec h
  deleteLatest := deleteLatest

instance : BlockLog DiskBlockStore where
  append := append

end DiskBlockStore

structure DiskStateStore where
  env : Environment

namespace DiskStateStore

/-- The UTF-8 bytes of `stateKey`. -/
def stateKey : Bytes := [0x73, 0x74, 0x61, 0x74, 0x65, 0x4b, 0x65, 0x79]

def openIn (e : Environment) : Except DiskError DiskStateStore :=
  e.checkSchema.map fun e =>
    ⟨((e.create .state).create .validators).create .consensusParams⟩

def putValidators (s : DiskStateStore) (h : Height) (set : ValidatorSet) : DiskStateStore :=
  ⟨s.env.put .validators h.toBytes (ValidatorSet.codec.encode set)⟩

def putParams (s : DiskStateStore) (h : Height) (p : ConsensusParams) : DiskStateStore :=
  ⟨s.env.put .consensusParams h.toBytes (ConsensusParams.codec.encode p)⟩

def putState (s : DiskStateStore) (state : State) : DiskStateStore :=
  ⟨s.env.put .state stateKey (State.codec.encode state)⟩

def load (s : DiskStateStore) : Except StoreError (Option State) :=
  match (s.env.table .state).find? stateKey with
  | some record => (State.codec.fromDisk record).map some
  | none => .ok none

def save (s : DiskStateStore) (state : State) : Except (Halt StoreError) DiskStateStore := do
  let records ← state.validatorRecords.mapError .overflow
  let height ← state.paramsHeight.mapError .overflow
  let filed := records.foldl (fun s (h, set) => s.putValidators h set) s
  return (filed.putParams height state.consensusParams).putState state

instance : StateStore DiskStateStore where
  load := load
  save := save
  loadValidators s h := do
    match ← Table.recordAt (s.env.table .validators) ValidatorSet.codec h with
    | some set => return set
    | none => throw (.noValidators h)
  loadParams s h := do
    match ← Table.recordAt (s.env.table .consensusParams) ConsensusParams.codec h with
    | some p => return p
    | none => throw (.noParams h)

instance : StateHistory DiskStateStore where
  putValidators := putValidators
  putParams := putParams

end DiskStateStore
end ChainRollback
