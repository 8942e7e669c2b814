import ChainRollback.FileTree.Basic
import ChainRollback.Store.Disk

/-! # Environments in a tree of files

An environment is the file `data.mdb` of its directory, with a lock file beside it that is written
anew each time. Opening a store makes its directory and its environment if they are missing, and
files the environment again once its layout has been checked. While a store is open its file is
mapped into memory, so the size of the map is in whole pages.
-/
namespace ChainRollback

def environmentFile : String := "data.mdb"

def lockFile : String := "lock.mdb"

def lockBytes : Bytes := [0xde, 0xc0, 0xef, 0xbe]

def pageSize : UInt64 := 4096

/-- The addresses that a program can map. -/
def addressSpace : UInt64 := 0x800000000000

def mapSizeFault (mapSize : UInt64) : String :=
  "map size (" ++ toString mapSize ++ ") must be a multiple of the system page size ("
    ++ toString pageSize ++ ")"

namespace FileTree

/-- Reads the environment whose file is at a place. An empty file is an empty environment. -/
def mapEnvironment (t : FileTree) (mapSize : UInt64) (place : Location) :
    Except DiskError Environment × FileTree :=
  let fresh := t.set place (.file [])
  let outOfMemory : DiskError := .engine "Cannot allocate memory (os error 12)"
  match t.find? place with
  | some .directory => (.error (.engine IoError.isDirectory.message), t)
  | some (.file (_ :: _)) => (.error (.engine "MDB_INVALID: File is not an LMDB file"), t)
  | some (.database e) => if mapSize < addressSpace then (.ok e, t) else (.error outOfMemory, t)
  | none | some (.file []) =>
    if mapSize < addressSpace then (.ok .empty, t.set place (.database .empty))
    else (.error outOfMemory, fresh)

def openEnvironment (t : FileTree) (mapSize : UInt64) (dir : String) :
    Except DiskError (Environment × Location) × FileTree :=
  match t.makeDirectories dir with
  | (.error e, t) => (.error (.io e.message), t)
  | (.ok (), t) =>
    match t.locate dir with
    | .error e => (.error (.engine e.message), t)
    | .ok l =>
      if mapSize % pageSize ≠ 0 then (.error (.engine (mapSizeFault mapSize)), t)
      else match t.find? (l ++ [lockFile]) with
        | some .directory => (.error (.engine IoError.isDirectory.message), t)
        | _ =>
          let place := l ++ [environmentFile]
          let (result, t) :=
            (t.set (l ++ [lockFile]) (.file lockBytes)).mapEnvironment mapSize place
          (result.map fun e => (e, place), t)

/-- Files an environment, unless its file has been taken away since it was opened. -/
def fileEnvironment (t : FileTree) (place : Location) (e : Environment) : FileTree :=
  match t.find? place with
  | some (.database _) => t.set place (.database e)
  | _ => t

/-- Opens the store in a directory. The tree that is left holds the environment as the store has
it, or as it was if the store cannot be opened. -/
def openStore {σ : Type} (t : FileTree) (mapSize : UInt64) (dir : String)
    (openIn : Environment → Except DiskError σ) (env : σ → Environment) :
    Except DiskError (σ × Location) × FileTree :=
  match t.openEnvironment mapSize dir with
  | (.error e, t) => (.error e, t)
  | (.ok (e, place), t) =>
    match openIn e with
    | .error e => (.error e, t)
    | .ok s => (.ok (s, place), t.fileEnvironment place (env s))

def openBlockStore (t : FileTree) (mapSize : UInt64) (dir : String) :
    Except DiskError (DiskBlockStore × Location) × FileTree :=
  t.openStore mapSize dir DiskBlockStore.openIn DiskBlockStore.env

def openStateStore (t : FileTree) (mapSize : UInt64) (dir : String) :
    Except DiskError (DiskStateStore × Location) × FileTree :=
  t.openStore mapSize dir DiskStateStore.openIn DiskStateStore.env

end FileTree

inductive StoreName where
  | block
  | state
  deriving DecidableEq, Repr

def StoreName.noun : StoreName → String
  | block => "block store"
  | state => "state store"

/-- The stores of a node while they are open, with the places of their environments. -/
structure OpenStores where
  blocks : DiskBlockStore
  blocksPlace : Location
  states : DiskStateStore
  statesPlace : Location

def OpenStores.close (s : OpenStores) (t : FileTree) : FileTree :=
  (t.fileEnvironment s.blocksPlace s.blocks.env).fileEnvironment s.statesPlace s.states.env

/-- What of a node's stores is open. The block store is opened first, so it may be open alone. -/
inductive HeldStores where
  | none
  | blocks (store : DiskBlockStore) (place : Location)
  | both (stores : OpenStores)

namespace HeldStores

/-- Opens the state store beside a block store that is open, and stays so in any case. -/
def openStates (store : DiskBlockStore) (place : Location) (t : FileTree) (mapSize : UInt64)
    (stateDir : String) : Except (StoreName × DiskError) OpenStores × HeldStores × FileTree :=
  match t.openStateStore mapSize stateDir with
  | (.error e, t) => (.error (.state, e), .blocks store place, t)
  | (.ok (states, statesPlace), t) =>
    let stores : OpenStores := ⟨store, place, states, statesPlace⟩
    (.ok stores, .both stores, t)

def openRest (h : HeldStores) (t : FileTree) (mapSize : UInt64) (blockDir stateDir : String) :
    Except (StoreName × DiskError) OpenStores × HeldStores × FileTree :=
  match h with
  | .both stores => (.ok stores, h, t)
  | .blocks store place => openStates store place t mapSize stateDir
  | .none =>
    match t.openBlockStore mapSize blockDir with
    | (.error e, t) => (.error (.block, e), .none, t)
    | (.ok (store, place), t) => openStates store place t mapSize stateDir

def close (h : HeldStores) (t : FileTree) : FileTree :=
  match h with
  | .none => t
  | .blocks store place => t.fileEnvironment place store.env
  | .both stores => stores.close t

end HeldStores

def OpenStores.openIn (t : FileTree) (mapSize : UInt64) (blockDir stateDir : String) :
    Except (StoreName × DiskError) OpenStores × FileTree :=
  let (result, _, t) := HeldStores.none.openRest t mapSize blockDir stateDir
  (result, t)

end ChainRollback
