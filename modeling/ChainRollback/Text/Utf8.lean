import ChainRollback.Bytes

/-! # UTF-8 text

A byte string is text when it is the UTF-8 form of some characters. When it is not, the fault
names the first byte at which no character can be read, and whether the bytes there are wrong or
merely cut short.
-/
namespace ChainRollback.Utf8

inductive Fault where
  | invalid (width index : Nat)
  | incomplete (index : Nat)
  deriving DecidableEq, Repr

def Fault.message : Fault → String
  | .invalid width index =>
    "invalid utf-8 sequence of " ++ toString width ++ " bytes from index " ++ toString index
  | .incomplete index => "incomplete utf-8 byte sequence from index " ++ toString index

/-- How many bytes follow the first one, and the range of the first of these; the later ones range
from `0x80` to `0xBF`. -/
def lead (b : UInt8) : Option (Nat × UInt8 × UInt8) :=
  if b < 0x80 then some (0, 0, 0)
  else if b < 0xC2 then none
  else if b < 0xE0 then some (1, 0x80, 0xBF)
  else if b = 0xE0 then some (2, 0xA0, 0xBF)
  else if b = 0xED then some (2, 0x80, 0x9F)
  else if b < 0xF0 then some (2, 0x80, 0xBF)
  else if b = 0xF0 then some (3, 0x90, 0xBF)
  else if b < 0xF4 then some (3, 0x80, 0xBF)
  else if b = 0xF4 then some (3, 0x80, 0x8F)
  else none

/-- Inside a character that began at `start`: `seen` of its bytes are read and `owed` are to
come, the next between `low` and `high`. -/
def firstFault (start seen owed : Nat) (low high : UInt8) : Bytes → Option Fault
  | [] => if owed = 0 then none else some (.incomplete start)
  | b :: rest =>
    if owed = 0 then
      match lead b with
      | none => some (.invalid 1 (start + seen))
      | some (n, low, high) => firstFault (start + seen) 1 n low high rest
    else if low ≤ b ∧ b ≤ high then firstFault start (seen + 1) (owed - 1) 0x80 0xBF rest
    else some (.invalid seen start)

def fault (b : Bytes) : Fault := (firstFault 0 0 0 0 0 b).getD (.incomplete b.length)

def encode (s : String) : Bytes := s.toUTF8.toList

def decode (b : Bytes) : Except Fault String :=
  match String.fromUTF8? ⟨b.toArray⟩ with
  | some s => .ok s
  | none => .error (fault b)

end ChainRollback.Utf8
