import ChainRollback.FileTree.Write
import ChainRollback.Signer.Error

/-! # Validator files

A validator keeps its key and its sign state in a file each. Saving replaces a file at once;
resetting loads both files and replaces the sign state by one that has signed nothing, so the key
file is never written.
-/
namespace ChainRollback

structure SignerFiles where
  keyFile : String
  stateFile : String
  deriving DecidableEq

/-- A validator in memory. -/
structure Signer where
  key : ValidatorKey
  state : SignState
  deriving DecidableEq

def FileTree.readRecord {α : Type} (t : FileTree) (path : String)
    (parse : Bytes → Except Json.Fault α) : Except SignerError α := do
  let text ← (t.readText path).mapError (.read path)
  (parse (Utf8.encode text)).mapError (.json path)

def FileTree.writeText (t : FileTree) (path text : String) :
    Except SignerError Unit × FileTree :=
  let (result, t) := t.replace path (Utf8.encode text)
  (result.mapError (.write path), t)

def SignState.load (t : FileTree) (path : String) : Except SignerError SignState :=
  t.readRecord path SignState.parse

def SignState.save (s : SignState) (t : FileTree) (path : String) :
    Except SignerError Unit × FileTree := t.writeText path s.pretty

def ValidatorKey.load (prim : Primitives) (t : FileTree) (path : String) :
    Except SignerError ValidatorKey := do
  let r ← t.readRecord path KeyRecord.parse
  (ValidatorKey.ofRecord prim r).mapError (.invalidKey path)

def ValidatorKey.save (k : ValidatorKey) (t : FileTree) (path : String) :
    Except SignerError Unit × FileTree := t.writeText path k.pretty

namespace Signer

variable (prim : Primitives)

/-- A validator that has signed nothing. -/
def ofPrivate (privateKey : Bytes32) : Signer := ⟨.ofPrivate prim privateKey, {}⟩

def load (t : FileTree) (files : SignerFiles) : Except SignerError Signer := do
  let key ← ValidatorKey.load prim t files.keyFile
  return ⟨key, ← SignState.load t files.stateFile⟩

def save (s : Signer) (t : FileTree) (files : SignerFiles) : Except SignerError Unit × FileTree :=
  match s.key.save t files.keyFile with
  | (.ok _, t) => s.state.save t files.stateFile
  | failed => failed

def clear (s : Signer) : Signer := { s with state := {} }

/-- Clears the sign state in memory and then in its file, in memory also if the file fails. -/
def reset (s : Signer) (t : FileTree) (files : SignerFiles) :
    Except SignerError Unit × Signer × FileTree :=
  let (result, t) := s.clear.state.save t files.stateFile
  (result, s.clear, t)

end Signer

/-- Something whose record of what was signed can be cleared. -/
class Checkpoint (κ : Type) where
  reset : κ → Except CheckpointError Unit × κ

/-- A checkpoint that counts its resets, or refuses them. -/
structure MemoryCheckpoint where
  resets : Nat := 0
  refuses : Bool := false
  deriving DecidableEq

instance : Checkpoint MemoryCheckpoint where
  reset c :=
    if c.refuses then
      (.error (.reset (.write "null_checkpoint" (.refused "reset disabled"))), c)
    else (.ok (), { c with resets := c.resets + 1 })

/-- The validator files of a node in their tree. -/
structure FileCheckpoint where
  prim : Primitives
  tree : FileTree
  files : SignerFiles

def FileCheckpoint.reset (c : FileCheckpoint) : Except CheckpointError Unit × FileCheckpoint :=
  match Signer.load c.prim c.tree c.files with
  | .error e => (.error (.load e), c)
  | .ok s =>
    let (result, _, tree) := s.reset c.tree c.files
    (result.mapError .reset, { c with tree := tree })

instance : Checkpoint FileCheckpoint where
  reset := FileCheckpoint.reset

/-- A checkpoint of either of two kinds is one. -/
instance {κ κ' : Type} [Checkpoint κ] [Checkpoint κ'] : Checkpoint (κ ⊕ κ') where
  reset
    | .inl c => (Checkpoint.reset c).map id .inl
    | .inr c => (Checkpoint.reset c).map id .inr

end ChainRollback
