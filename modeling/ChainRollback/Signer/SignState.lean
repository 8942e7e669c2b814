import ChainRollback.Json.Printer
import ChainRollback.Json.Record

/-! # What a validator signed last

The sign state keeps a validator from signing twice at one height, round and step. It is stored
as a JSON record of five members, of which the signature and the signed bytes may be left out.
-/
namespace ChainRollback

/-- The step of a round that a signature was given at. -/
inductive SignStep where
  | none
  | propose
  | prevote
  | precommit
  deriving DecidableEq, Repr, Inhabited

namespace SignStep

def toUInt8 : SignStep → UInt8
  | none => 0
  | propose => 1
  | prevote => 2
  | precommit => 3

def ofUInt8? (n : UInt8) : Option SignStep :=
  if n = 0 then some none
  else if n = 1 then some propose
  else if n = 2 then some prevote
  else if n = 3 then some precommit
  else Option.none

def name : SignStep → String
  | none => "None"
  | propose => "Propose"
  | prevote => "Prevote"
  | precommit => "Precommit"

/-- Steps come in the order of their numbers. -/
def order (a b : SignStep) : Ordering := compare a.toUInt8 b.toUInt8

/-- What is said of a number that is no step. -/
def refusal (n : UInt8) : String := "invalid sign step: " ++ toString n

end SignStep

structure SignState where
  height : Height := 0
  round : Int32 := 0
  step : SignStep := .none
  signature : Option Bytes := none
  signbytes : Bytes := []
  deriving DecidableEq, Inhabited

namespace SignState

/-- Whether nothing was ever signed. An empty signature is a signature. -/
def isZero (s : SignState) : Bool := s == {}

def members (s : SignState) : List (String × Json.Scalar) :=
  [("height", .integer s.height.toInt), ("round", .integer s.round.toInt),
    ("step", .integer s.step.toUInt8.toNat),
    ("signature", match s.signature with
      | some b => .hex b
      | none => .null),
    ("signbytes", .hex s.signbytes)]

def compact (s : SignState) : String := Json.compact s.members

def pretty (s : SignState) : String := Json.pretty s.members

/-- A sign state of which some members have been read. -/
structure Draft where
  height : Option Height := none
  round : Option Int32 := none
  step : Option SignStep := none
  signature : Option (Option Bytes) := none
  signbytes : Option Bytes := none
  deriving DecidableEq

open Json

def readHeight : Reader Height := fun text =>
  (readInteger (-0x8000000000000000) 0x7fffffffffffffff "i64" text).map fun (i, rest) =>
    (Int64.ofInt i, rest)

def readRound : Reader Int32 := fun text =>
  (readInteger (-0x80000000) 0x7fffffff "i32" text).map fun (i, rest) => (Int32.ofInt i, rest)

def readStep : Reader SignStep := fun text => do
  let (i, rest) ← readInteger 0 255 "u8" text
  let n := UInt8.ofNat i.toNat
  match SignStep.ofUInt8? n with
  | some step => return (step, rest)
  | none => throw (.data (.refused (SignStep.refusal n)))

/-- A reader of a value that goes into a draft. -/
def into {α : Type} (read : Reader α) (put : Draft → α → Draft) (d : Draft) : Reader Draft :=
  fun text => (read text).map fun (v, rest) => (put d v, rest)

def format : RecordFormat Draft where
  title := "struct LastSignState"
  blank := {}
  fields := [
    ⟨"height", true, (·.height.isSome), into readHeight fun d v => { d with height := some v }⟩,
    ⟨"round", true, (·.round.isSome), into readRound fun d v => { d with round := some v }⟩,
    ⟨"step", true, (·.step.isSome), into readStep fun d v => { d with step := some v }⟩,
    ⟨"signature", false, (·.signature.isSome),
      into readHexOrNull fun d v => { d with signature := some v }⟩,
    ⟨"signbytes", false, (·.signbytes.isSome),
      into readHex fun d v => { d with signbytes := some v }⟩]

/-- The state of a finished draft; the members left out have their defaults. -/
def Draft.state (d : Draft) : SignState where
  height := d.height.getD 0
  round := d.round.getD 0
  step := d.step.getD .none
  signature := d.signature.getD none
  signbytes := d.signbytes.getD []

def parse (text : Bytes) : Except Json.Fault SignState := (format.parse text).map Draft.state

end SignState
end ChainRollback
