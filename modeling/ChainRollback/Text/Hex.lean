import ChainRollback.Bytes
import ChainRollback.Text.Quoted

/-! # Hexadecimal text

Bytes are written as two upper-case digits each and read from digits of either case. A text of
odd length is refused as such before any character is looked at; otherwise the first byte that is
no digit is reported with its place.
-/
namespace ChainRollback

/-- Why a text or a byte string is not the value it should be. -/
inductive HexFault where
  | oddLength
  | badByte (byte : UInt8) (index : Nat)
  deriving DecidableEq, Repr

/-- Lengths and positions count bytes of UTF-8. -/
inductive FormatError where
  | invalidHex (text : String) (fault : HexFault)
  | invalidLength (actual : Nat)
  deriving DecidableEq, Repr

/-- The offending byte is shown as the character of that number. -/
def HexFault.message : HexFault → String
  | .oddLength => "Odd number of digits"
  | .badByte byte index =>
    "Invalid character " ++ Text.quoteChar (Char.ofNat byte.toNat) ++ " at position "
      ++ toString index

def FormatError.message : FormatError → String
  | .invalidHex text fault => "invalid hex string: " ++ text ++ ": " ++ fault.message
  | .invalidLength actual => "invalid length: expected 32 bytes, got " ++ toString actual

namespace Hex

def digit (n : Nat) : Char :=
  if n < 10 then Char.ofNat (48 + n) else Char.ofNat (55 + n)

def digits (b : UInt8) : List Char := [digit (b.toNat / 16), digit (b.toNat % 16)]

def encode (b : Bytes) : String := String.ofList (b.flatMap digits)

def value? (c : UInt8) : Option Nat :=
  if 48 ≤ c.toNat ∧ c.toNat ≤ 57 then some (c.toNat - 48)
  else if 65 ≤ c.toNat ∧ c.toNat ≤ 70 then some (c.toNat - 55)
  else if 97 ≤ c.toNat ∧ c.toNat ≤ 102 then some (c.toNat - 87)
  else none

def value (c : UInt8) (index : Nat) : Except HexFault Nat :=
  match value? c with
  | some v => .ok v
  | none => .error (.badByte c index)

/-- Reads digits in pairs; `index` is the place of the first of them. -/
def decodePairs : (index : Nat) → Bytes → Except HexFault Bytes
  | _, [] => .ok []
  | _, [_] => .error .oddLength
  | index, high :: low :: rest => do
    let h ← value high index
    let l ← value low (index + 1)
    let b ← decodePairs (index + 2) rest
    return UInt8.ofNat (16 * h + l) :: b

def decodeBytes (text : Bytes) : Except HexFault Bytes :=
  if text.length % 2 = 1 then .error .oddLength else decodePairs 0 text

def decode (s : String) : Except FormatError Bytes :=
  (decodeBytes s.toUTF8.toList).mapError (.invalidHex s)

end Hex

/-- The order of byte strings, first difference first and a prefix before its extensions. -/
def Bytes.order (a b : Bytes) : Ordering := compare a b

def Bytes32.ofSlice (b : Bytes) : Except FormatError Bytes32 :=
  match Bytes32.ofBytes? b with
  | some k => .ok k
  | none => .error (.invalidLength b.length)

end ChainRollback
