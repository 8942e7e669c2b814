import ChainRollback.FileTree.Basic
import ChainRollback.Record.Codec

/-! # Snapshots of environments

An environment is kept in a file as one record: a mark, and then each table that exists by its
name, with its bindings in the order of their keys.
-/
namespace ChainRollback
open Codec

/-- The UTF-8 bytes of `SNAPSHOT`. -/
def snapshotMark : Bytes := [0x53, 0x4E, 0x41, 0x50, 0x53, 0x48, 0x4F, 0x54]

def tablesCodec : Codec (List (String × List (Bytes × Bytes))) :=
  (text.pair (bytes.pair bytes).list).list

namespace Environment

def toBytes (e : Environment) : Bytes :=
  snapshotMark ++ tablesCodec.encode
    (TableName.all.filterMap fun name => (e.table? name).map fun t => (name.name, t.entries))

/-- A table by its name; tables of unknown names are left out. -/
def addTable (e : Environment) (name : String) (entries : List (Bytes × Bytes)) : Environment :=
  match TableName.ofName? name with
  | some name => e.set name (entries.foldl (fun t b => t.insert b.1 b.2) ∅)
  | none => e

def ofBytes? (content : Bytes) : Option Environment :=
  if snapshotMark.isPrefixOf content then
    match tablesCodec.read (content.drop snapshotMark.length) with
    | .ok tables => some (tables.foldl (fun e t => e.addTable t.1 t.2) .empty)
    | .error _ => none
  else none

end Environment

namespace Node

def ofContent (content : Bytes) : Node :=
  match Environment.ofBytes? content with
  | some e => .database e
  | none => .file content

/-- What is written of a node; nothing of a directory. -/
def content? : Node → Option Bytes
  | .directory => none
  | .file content => some content
  | .database e => some e.toBytes

end Node
end ChainRollback
