import ChainRollback.Json.Skip

/-! # Records in JSON text

A record is read straight from its text, so the first fault met on the way is the one reported: a
repeated member or a value of the wrong type wins over broken grammar further on, and a missing
member is noticed at the closing brace. Members may come in any order and members of other names
are passed over. A list of the values in order stands for the record too, and may stop before
members that have a default.
-/
namespace ChainRollback.Json

/-- The fault of finding another value than the expected one at the front of a text. -/
def mismatch (expected : String) (text : Bytes) : Fault :=
  let found (r : Except Fault Found) : Fault := match r with
    | .ok f => .data (.wrongType f expected)
    | .error e => e
  let number (negative : Bool) (text : Bytes) : Fault := found <|
    (readNumber negative text).map fun (n, _) => match n with
      | .integer i => .integer i
      | .floating bits => .floating bits
  match text with
  | [] => .truncated
  | b :: rest =>
    if b = 0x6E then found ((skipWord afterN rest).map fun _ => .null)
    else if b = 0x74 then found ((skipWord afterT rest).map fun _ => .boolean true)
    else if b = 0x66 then found ((skipWord afterF rest).map fun _ => .boolean false)
    else if b = 0x2D then number true rest
    else if isDigit b then number false (b :: rest)
    else if b = 0x22 then found ((readString rest).map fun (s, _) => .text s)
    else if b = 0x5B then .data (.wrongType .sequence expected)
    else if b = 0x7B then .data (.wrongType .map expected)
    else .malformed

def readInteger (low high : Int) (expected : String) : Reader Int := fun text => do
  let inRange (n : Number × Bytes) : Except Fault (Int × Bytes) := match n with
    | (.integer i, rest) =>
      if low ≤ i ∧ i ≤ high then .ok (i, rest) else .error (.data (.outOfRange i expected))
    | (.floating bits, _) => .error (.data (.wrongType (.floating bits) expected))
  match skipBlank text with
  | [] => .error .truncated
  | b :: rest =>
    if b = 0x2D then readNumber true rest >>= inRange
    else if isDigit b then readNumber false (b :: rest) >>= inRange
    else .error (mismatch expected (b :: rest))

def readHex : Reader Bytes := fun text =>
  match skipBlank text with
  | [] => .error .truncated
  | b :: rest =>
    if b = 0x22 then do
      let (s, rest) ← readString rest
      match Hex.decode s with
      | .ok bytes => return (bytes, rest)
      | .error e => throw (.data (.refused e.message))
    else .error (mismatch "a string" (b :: rest))

def readHexOrNull : Reader (Option Bytes) := fun text =>
  match skipBlank text with
  | 0x6E :: rest => (skipWord afterN rest).map fun rest => (none, rest)
  | text => (readHex text).map fun (b, rest) => (some b, rest)

/-- A member of a record that is filled in a draft `δ`. -/
structure Field (δ : Type) where
  name : String
  required : Bool
  isSet : δ → Bool
  read : δ → Reader δ

structure RecordFormat (δ : Type) where
  /-- What the record is called when another value stands in its place. -/
  title : String
  fields : List (Field δ)
  blank : δ

namespace RecordFormat

variable {δ : Type} (f : RecordFormat δ)

def field? (name : String) : Option (Field δ) := f.fields.find? fun m => m.name == name

def readMember (d : δ) (name : String) : Reader δ := fun text =>
  let behindColon (read : Reader δ) : Except Fault (δ × Bytes) := match skipBlank text with
    | [] => .error .truncated
    | b :: rest => if b = 0x3A then read rest else .error .malformed
  match f.field? name with
  | none => behindColon fun text => (passOver text).map fun rest => (d, rest)
  | some m =>
    if m.isSet d then .error (.data (.duplicate name)) else behindColon (m.read d)

def close (d : δ) (rest : Bytes) : Except Fault (δ × Bytes) :=
  match f.fields.find? fun m => m.required && !m.isSet d with
  | some m => .error (.data (.missing m.name))
  | none => .ok (d, rest)

/-- Members from the opening quote of a name on. -/
def readMembers : (fuel : Nat) → δ → Reader δ
  | 0, _, _ => .error .truncated
  | fuel + 1, d, text => do
    let (name, text) ← readString text
    let (d, text) ← f.readMember d name text
    match skipBlank text with
    | [] => throw .truncated
    | b :: rest =>
      if b = 0x7D then f.close d rest
      else if b ≠ 0x2C then throw .malformed
      else match skipBlank rest with
        | [] => throw .truncated
        | c :: rest => if c = 0x22 then readMembers fuel d rest else throw .malformed

def readObject : Reader δ := fun text =>
  match skipBlank text with
  | [] => .error .truncated
  | b :: rest =>
    if b = 0x7D then f.close f.blank rest
    else if b = 0x22 then f.readMembers rest.length f.blank rest
    else .error .malformed

def tooShort (length : Nat) : Fault :=
  .data (.tooShort length (f.title ++ " with " ++ toString f.fields.length ++ " elements"))

/-- Elements for the fields from number `index` on; `text` is behind the element before. -/
def readElements (d : δ) : (index : Nat) → List (Field δ) → Reader δ
  | _, [], text => .ok (d, text)
  | index, m :: fields, text =>
    let absent : Except Fault (δ × Bytes) :=
      if m.required then .error (f.tooShort index) else readElements d (index + 1) fields text
    let present (text : Bytes) : Except Fault (δ × Bytes) := do
      let (d, text) ← m.read d text
      readElements d (index + 1) fields text
    match skipBlank text with
    | [] => .error .truncated
    | b :: rest =>
      if b = 0x5D then absent
      else if index = 0 then present (b :: rest)
      else if b ≠ 0x2C then .error .malformed
      else match skipBlank rest with
        | [] => .error .truncated
        | c :: rest => if c = 0x5D then .error .malformed else present (c :: rest)

def readList : Reader δ := fun text => do
  let (d, text) ← f.readElements f.blank 0 f.fields text
  match skipBlank text with
  | [] => throw .truncated
  | b :: rest => if b = 0x5D then return (d, rest) else throw .malformed

def read : Reader δ := fun text =>
  match skipBlank text with
  | [] => .error .truncated
  | b :: rest =>
    if b = 0x7B then f.readObject rest
    else if b = 0x5B then f.readList rest
    else .error (mismatch f.title (b :: rest))

def parse (text : Bytes) : Except Fault δ := do
  let (d, rest) ← f.read text
  if (skipBlank rest).isEmpty then return d else throw .malformed

end RecordFormat
end ChainRollback.Json
