import ChainRollback.FileTree.Basic

/-! # Writing files

A file is replaced by way of a second file beside it: the new content is written there in full
and then moved into place. The steps are separate operations, so that a tree between any two of
them can be looked at.
-/
namespace ChainRollback

inductive FileOp where
  /-- Makes the file, empty if it was there before. A path that ends in a slash names a directory,
  whether there is one or not. -/
  | create (path : String)
  | write (path : String) (content : Bytes)
  | sync (path : String)
  | rename (source target : String)
  deriving DecidableEq

namespace FileTree

def applyOp (t : FileTree) : FileOp → Except IoError FileTree
  | .create path => do
    checkPath path
    let segments := Path.body path
    let l ← t.walk (t.origin path) <|
      if Path.endsInSlash path then segments.dropLast ++ [""] else segments
    match t.find? l with
    | some .directory => throw .isDirectory
    | _ => return t.set l (.file [])
  | .write path content => do return t.set (← t.locate path) (.file content)
  | .sync _ => .ok t
  | .rename source target => do
    let place ← t.locate source
    let l ← t.locate target
    match t.find? place, t.find? l with
    | none, _ => throw .notFound
    | _, some .directory => throw .isDirectory
    | some n, _ => return (t.erase place).set l n

def applyOps (t : FileTree) : List FileOp → Except IoError Unit × FileTree
  | [] => (.ok (), t)
  | op :: rest =>
    match t.applyOp op with
    | .ok t => t.applyOps rest
    | .error e => (.error e, t)

end FileTree

def temporary (path : String) : String := path ++ ".tmp"

/-- The operations that replace a file at once. -/
def replaceOps (path : String) (content : Bytes) : List FileOp :=
  [.create (temporary path), .write (temporary path) content, .sync (temporary path),
    .rename (temporary path) path]

def FileTree.replace (t : FileTree) (path : String) (content : Bytes) :
    Except IoError Unit × FileTree := t.applyOps (replaceOps path content)

namespace FileTree

def writeFile (t : FileTree) (path : String) (content : Bytes) :
    Except IoError Unit × FileTree :=
  match t.makeDirectories (Path.parent path) with
  | (.ok (), t) => t.applyOps [.create path, .write path content]
  | failed => failed

def removeFile (t : FileTree) (path : String) : Except IoError FileTree := do
  let l ← t.locate path
  match t.find? l with
  | none => throw .notFound
  | some .directory => throw .isDirectory
  | some _ => return t.erase l

end FileTree
end ChainRollback
