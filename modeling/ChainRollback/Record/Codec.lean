import ChainRollback.Text.Utf8

/-! # Binary records

Values are laid out one after another with no marks between them: integers little-endian in their
full width, a sequence or a text behind its length in eight bytes, an optional value behind one
byte. A reader takes its value from the front of the input and hands back what follows.
-/
namespace ChainRollback

inductive RecordFault where
  /-- The input ends inside an integer, a key or the bytes of a sequence. -/
  | cutOff
  /-- The input ends inside the bytes of a text. -/
  | cutText
  | badText (fault : Utf8.Fault)
  | badTag (tag : Nat)
  deriving DecidableEq, Repr

def RecordFault.message : RecordFault → String
  | .cutOff => "io error: unexpected end of file"
  | .cutText => "io error: "
  | .badText fault => "string is not valid utf8: " ++ fault.message
  | .badTag tag => "tag for enum is not valid, found " ++ toString tag

/-- How values of a type are written, and read from the front of an input. -/
structure Codec (α : Type) where
  encode : α → Bytes
  decode : Bytes → Except RecordFault (α × Bytes)

namespace Codec

variable {α β : Type}

/-- The value at the front of a record; what follows it does not matter. -/
def read (c : Codec α) (b : Bytes) : Except RecordFault α := (c.decode b).map (·.1)

def takeBytes (fault : RecordFault) (n : Nat) (b : Bytes) : Except RecordFault (Bytes × Bytes) :=
  if n ≤ b.length then .ok (b.take n, b.drop n) else .error fault

def natural (width : Nat) : Codec Nat where
  encode n := Bytes.littleEndian width n
  decode b := (takeBytes .cutOff width b).map fun (front, rest) =>
    (Bytes.ofLittleEndian front, rest)

/-- The same layout seen as another type. -/
def iso (c : Codec α) (make : α → β) (back : β → α) : Codec β where
  encode v := c.encode (back v)
  decode b := (c.decode b).map fun (v, rest) => (make v, rest)

def u8 : Codec UInt8 := (natural 1).iso UInt8.ofNat UInt8.toNat

def u32 : Codec UInt32 := (natural 4).iso UInt32.ofNat UInt32.toNat

def u64 : Codec UInt64 := (natural 8).iso UInt64.ofNat UInt64.toNat

def i64 : Codec Int64 := u64.iso UInt64.toInt64 Int64.toUInt64

def bytes : Codec Bytes where
  encode v := (natural 8).encode v.length ++ v
  decode b := do
    let (n, b) ← (natural 8).decode b
    takeBytes .cutOff n b

def text : Codec String where
  encode v := (natural 8).encode (Utf8.encode v).length ++ Utf8.encode v
  decode b := do
    let (n, b) ← (natural 8).decode b
    let (front, rest) ← takeBytes .cutText n b
    match Utf8.decode front with
    | .ok s => return (s, rest)
    | .error fault => throw (.badText fault)

/-- Thirty-two bytes without a length. -/
def bytes32 : Codec Bytes32 where
  encode v := v.bytes
  decode b :=
    if h : 32 ≤ b.length then .ok (⟨b.take 32, by simp [h]⟩, b.drop 32) else .error .cutOff

def option (c : Codec α) : Codec (Option α) where
  encode
    | none => u8.encode 0
    | some v => u8.encode 1 ++ c.encode v
  decode b := do
    let (tag, b) ← u8.decode b
    if tag = 0 then return (none, b)
    else if tag = 1 then
      let (v, b) ← c.decode b
      return (some v, b)
    else throw (.badTag tag.toNat)

def decodeMany (c : Codec α) : Nat → Bytes → Except RecordFault (List α × Bytes)
  | 0, b => .ok ([], b)
  | n + 1, b => do
    let (v, b) ← c.decode b
    let (vs, b) ← decodeMany c n b
    return (v :: vs, b)

def list (c : Codec α) : Codec (List α) where
  encode vs := (natural 8).encode vs.length ++ vs.flatMap c.encode
  decode b := do
    let (n, b) ← (natural 8).decode b
    decodeMany c n b

/-- One value behind another. -/
def pair (c : Codec α) (d : Codec β) : Codec (α × β) where
  encode v := c.encode v.1 ++ d.encode v.2
  decode b := do
    let (v, b) ← c.decode b
    let (w, b) ← d.decode b
    return ((v, w), b)

end Codec
end ChainRollback
