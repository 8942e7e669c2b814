import ChainRollback.Signer.Files
import ChainRollback.Toml.Document
import ChainRollback.Toml.Printer

/-! # Configuration

Where the files of a node lie and how the program logs. A configuration is read from the keys of a
TOML document, each of which may be left out, and written as one line for each of its fields.
-/
namespace ChainRollback

inductive LogFormat where
  | human
  | json
  deriving DecidableEq, Repr

namespace LogFormat

def name : LogFormat → String
  | human => "human"
  | json => "json"

def ofName? (s : String) : Option LogFormat :=
  if s = "human" then some human else if s = "json" then some json else none

theorem ofName?_name (f : LogFormat) : ofName? f.name = some f := by
  cases f <;> rfl

end LogFormat

structure Config where
  dataDir : String := "data"
  keyFile : String := "config/priv_validator_key.json"
  stateFile : String := "data/priv_validator_state.json"
  /-- The greatest size of each store in bytes. -/
  mapSize : UInt64 := 1073741824
  logFormat : LogFormat := .human
  logLevel : String := "info"
  deriving DecidableEq

instance : Inhabited Config := ⟨{}⟩

/-- The places of a node's stores and validator files. -/
structure NodePaths where
  stateDir : String
  blockDir : String
  signer : SignerFiles
  deriving DecidableEq

namespace Config
open Toml

def asText : Item → Option String
  | .scalar (.text s) => some s
  | _ => none

def asSize : Item → Option UInt64
  | .scalar (.integer i) => if 0 ≤ i then some (UInt64.ofNat i.toNat) else none
  | _ => none

/-- Whether an item holds nothing, so that it may stand behind the name of a choice. -/
def isVoid : Item → Bool
  | .array items => items.isEmpty
  | .inlined t => t.entries.isEmpty
  | .table t => t.entries.isEmpty
  | .tables ts => ts.isEmpty
  | .scalar _ => false

/-- A table that names a choice by its one key. -/
def choice (t : Toml.Table) : Option LogFormat :=
  match t.entries with
  | [(key, item)] => (LogFormat.ofName? key).filter fun _ => isVoid item
  | _ => none

def asFormat : Item → Option LogFormat
  | .scalar (.text s) => LogFormat.ofName? s
  | .inlined t => choice t
  | .table t => choice t
  | _ => none

/-- The value of a key; a key that is missing has its default. -/
def valueOf {α : Type} (t : Toml.Table) (key : String) (default : α) (read : Item → Option α) :
    Option α :=
  match t.find? key with
  | some item => read item
  | none => some default

/-- Keys of other names do not matter. -/
def ofTable (t : Toml.Table) : Option Config := do
  return {
    dataDir := ← valueOf t "data_dir" ({} : Config).dataDir asText
    keyFile := ← valueOf t "priv_validator_key_file" ({} : Config).keyFile asText
    stateFile := ← valueOf t "priv_validator_state_file" ({} : Config).stateFile asText
    mapSize := ← valueOf t "map_size" ({} : Config).mapSize asSize
    logFormat := ← valueOf t "log_format" ({} : Config).logFormat asFormat
    logLevel := ← valueOf t "log_level" ({} : Config).logLevel asText }

def ofToml (text : String) : Option Config := Toml.parse text >>= ofTable

def line (key : String) (value : List Char) : List Char :=
  key.toList ++ [' ', '=', ' '] ++ value ++ ['\n']

def textLine (key value : String) : Except Overflow (List Char) :=
  (renderText value.toList).map (line key)

def lines (c : Config) : Except Overflow (List Char) := do
  let dataDir ← textLine "data_dir" c.dataDir
  let keyFile ← textLine "priv_validator_key_file" c.keyFile
  let stateFile ← textLine "priv_validator_state_file" c.stateFile
  let mapSize := line "map_size" (Nat.toDigits 10 c.mapSize.toNat)
  let logFormat ← textLine "log_format" c.logFormat.name
  let logLevel ← textLine "log_level" c.logLevel
  return dataDir ++ keyFile ++ stateFile ++ mapSize ++ logFormat ++ logLevel

/-- Where the files of the node in a home directory lie. -/
def resolve (c : Config) (home : String) : NodePaths :=
  let data := Path.join home c.dataDir
  { stateDir := Path.join data "state"
    blockDir := Path.join data "blockstore"
    signer := ⟨Path.join home c.keyFile, Path.join home c.stateFile⟩ }

/-- The configuration file of a home directory. -/
def fileIn (home : String) : String := Path.join home "config/rewind.toml"

end Config

inductive ConfigError where
  | read (path : String) (error : IoError)
  | parse
  /-- A number that TOML cannot hold. -/
  | serialize
  deriving DecidableEq

namespace ConfigError

def message : ConfigError → String
  | read path error => "failed to read config file " ++ path ++ ": " ++ error.message
  | parse => "invalid config"
  | serialize => "failed to serialize config"

def causes : ConfigError → List String
  | read _ error => [error.message]
  | parse | serialize => []

end ConfigError

namespace Config

/-- TOML has no integers above the 64-bit signed range, so a larger size has no text. -/
def toToml (c : Config) : Except (Halt ConfigError) String :=
  if c.mapSize.toNat < 0x8000000000000000 then
    match c.lines with
    | .ok text => .ok (String.ofList text)
    | .error o => .error (.overflow o)
  else .error (.error .serialize)

def readFile (t : FileTree) (path : String) : Except ConfigError Config := do
  let text ← (t.readText path).mapError (.read path)
  match ofToml text with
  | some c => return c
  | none => throw .parse

/-- The configuration in the file that is named, or else in the file of the home directory, or
else the default. -/
def load (t : FileTree) (home : String) : (named : Option String) → Except ConfigError Config
  | some path => readFile t path
  | none => if t.isFile (fileIn home) then readFile t (fileIn home) else .ok {}

end Config
end ChainRollback
