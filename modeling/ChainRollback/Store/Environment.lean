import ChainRollback.Bytes
import ChainRollback.OrderedMap
import ChainRollback.Store.Error

/-! # Persistent environments

An environment is what one directory of a node keeps on disk: tables from byte strings to byte
strings, sorted by key, some of which may not exist yet. Each environment carries the version of
its layout, which is checked when it is opened and written when it is new.
-/
namespace ChainRollback

inductive TableName where
  /-- Facts about the environment itself. -/
  | layout
  | blockMetas
  | state
  | validators
  | consensusParams
  deriving DecidableEq, Repr

namespace TableName

/-- What the table is called on disk. -/
def name : TableName → String
  | layout => "meta"
  | blockMetas => "block_metas"
  | state => "state"
  | validators => "validators"
  | consensusParams => "consensus_params"

def all : List TableName := [layout, blockMetas, state, validators, consensusParams]

def ofName? (s : String) : Option TableName := all.find? fun t => t.name == s

end TableName

abbrev Table := OrderedMap Bytes Bytes

structure Environment where
  table? : TableName → Option Table

namespace Environment

def empty : Environment := ⟨fun _ => none⟩

instance : Inhabited Environment := ⟨empty⟩

/-- The records of a table, none for a table that does not exist. -/
def table (e : Environment) (name : TableName) : Table := (e.table? name).getD ∅

def set (e : Environment) (name : TableName) (t : Table) : Environment :=
  ⟨fun other => if other = name then some t else e.table? other⟩

def create (e : Environment) (name : TableName) : Environment := e.set name (e.table name)

def put (e : Environment) (name : TableName) (key value : Bytes) : Environment :=
  e.set name ((e.table name).insert key value)

def remove (e : Environment) (name : TableName) (key : Bytes) : Environment :=
  e.set name ((e.table name).erase key)

@[simp] theorem table_set_self (e : Environment) (name : TableName) (t : Table) :
    (e.set name t).table name = t := by
  simp [set, table]

theorem table_set_of_ne (e : Environment) {name other : TableName} (t : Table)
    (h : other ≠ name) : (e.set name t).table other = e.table other := by
  simp [set, table, h]

@[simp] theorem table_create (e : Environment) (name other : TableName) :
    (e.create name).table other = e.table other := by
  unfold create
  by_cases h : other = name
  · rw [h, table_set_self]
  · rw [table_set_of_ne e _ h]

end Environment

/-- Why an environment cannot be opened or read. -/
inductive DiskError where
  | engine (reason : String)
  | io (reason : String)
  | notFound (what : String)
  | serialization (reason : String)
  | schemaMismatch (found expected : UInt32)
  deriving DecidableEq

namespace DiskError

def message : DiskError → String
  | engine reason => "LMDB error: " ++ reason
  | io reason => "I/O error: " ++ reason
  | notFound what => "key not found: " ++ what
  | serialization reason => "serialization error: " ++ reason
  | schemaMismatch found expected =>
    "schema version " ++ toString found ++ " is not supported (expected " ++ toString expected
      ++ ")"

/-- The error it stems from, in words, if it has one of its own. -/
def causes : DiskError → List String
  | engine reason => [reason]
  | io reason => [reason]
  | _ => []

def toStoreError : DiskError → StoreError
  | notFound what => .notFound what
  | serialization reason => .serialization reason
  | e@(schemaMismatch ..) => .corruption e.message
  | e@(engine _) => .backend e.message
  | e@(io _) => .backend e.message

end DiskError

namespace Environment

def schemaVersion : UInt32 := 1

/-- The UTF-8 bytes of `schema_version`. -/
def schemaKey : Bytes :=
  [0x73, 0x63, 0x68, 0x65, 0x6d, 0x61, 0x5f, 0x76, 0x65, 0x72, 0x73, 0x69, 0x6f, 0x6e]

def schemaBytes : Bytes := Bytes.littleEndian 4 schemaVersion.toNat

/-- Refuses an environment of another layout and stamps one that has no version yet. -/
def checkSchema (e : Environment) : Except DiskError Environment :=
  match (e.table .layout).find? schemaKey with
  | none => .ok (e.put .layout schemaKey schemaBytes)
  | some bytes =>
    if bytes.length ≠ 4 then
      .error (.serialization "schema_version has unexpected byte length")
    else
      let found := UInt32.ofNat (Bytes.ofLittleEndian bytes)
      if found = schemaVersion then .ok (e.create .layout)
      else .error (.schemaMismatch found schemaVersion)

end Environment
end ChainRollback
