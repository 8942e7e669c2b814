import ChainRollback.Json.Fault
import ChainRollback.Text.Hex
import ChainRollback.Text.Utf8

/-! # Strings in JSON text

A string is read one byte at a time behind its opening quote. Four bytes after the letter of a
numbered escape are taken before any of them is looked at, so a text that ends among them is cut
short rather than malformed. A string that is passed over is held to less: neither its encoding
nor its surrogates are checked.
-/
namespace ChainRollback.Json

inductive StringState where
  | plain
  | escape
  | unit (digits : Bytes)
  /-- Behind the first half of a pair: its backslash, its letter or its digits come next. -/
  | pairSlash (high : Nat)
  | pairLetter (high : Nat)
  | pairUnit (high : Nat) (digits : Bytes)

def shortEscape? (b : UInt8) : Option UInt8 :=
  if b = 0x22 ∨ b = 0x5C ∨ b = 0x2F then some b
  else if b = 0x62 then some 0x08
  else if b = 0x66 then some 0x0C
  else if b = 0x6E then some 0x0A
  else if b = 0x72 then some 0x0D
  else if b = 0x74 then some 0x09
  else none

def hexUnit? (digits : Bytes) : Option Nat :=
  digits.foldlM (fun n b => (Hex.value? b).map (16 * n + ·)) 0

def charBytes (n : Nat) : Bytes := String.utf8EncodeChar (Char.ofNat n)

/-- Moves one byte ahead: a new state and the bytes that this completes. -/
def StringState.step (b : UInt8) : StringState → Except Fault (StringState × Bytes)
  | plain =>
    if b = 0x5C then .ok (escape, [])
    else if b < 0x20 then .error .malformed
    else .ok (plain, [b])
  | escape =>
    if b = 0x75 then .ok (unit [], [])
    else match shortEscape? b with
      | some c => .ok (plain, [c])
      | none => .error .malformed
  | unit digits =>
    let digits := digits ++ [b]
    if digits.length < 4 then .ok (unit digits, [])
    else match hexUnit? digits with
      | none => .error .malformed
      | some n =>
        if 0xDC00 ≤ n ∧ n ≤ 0xDFFF then .error .malformed
        else if 0xD800 ≤ n ∧ n ≤ 0xDBFF then .ok (pairSlash n, [])
        else .ok (plain, charBytes n)
  | pairSlash high => if b = 0x5C then .ok (pairLetter high, []) else .error .malformed
  | pairLetter high => if b = 0x75 then .ok (pairUnit high [], []) else .error .malformed
  | pairUnit high digits =>
    let digits := digits ++ [b]
    if digits.length < 4 then .ok (pairUnit high digits, [])
    else match hexUnit? digits with
      | none => .error .malformed
      | some low =>
        if low < 0xDC00 ∨ 0xDFFF < low then .error .malformed
        else .ok (plain, charBytes (0x10000 + 0x400 * (high - 0xD800) + (low - 0xDC00)))

def StringState.isPlain : StringState → Bool
  | plain => true
  | _ => false

/-- The bytes of a string up to its closing quote. -/
def readContent (state : StringState) : Reader Bytes
  | [] => .error .truncated
  | b :: text =>
    if state.isPlain && b == 0x22 then .ok ([], text)
    else match state.step b with
      | .error e => .error e
      | .ok (state, done) =>
        match readContent state text with
        | .error e => .error e
        | .ok (content, rest) => .ok (done ++ content, rest)

def readString : Reader String := fun text =>
  match readContent .plain text with
  | .error e => .error e
  | .ok (content, rest) =>
    match Utf8.decode content with
    | .ok s => .ok (s, rest)
    | .error _ => .error .malformed

inductive SkipState where
  | plain
  | escape
  | unit (digits : Bytes)

def skipString : SkipState → Bytes → Except Fault Bytes
  | _, [] => .error .truncated
  | .plain, b :: text =>
    if b = 0x22 then .ok text
    else if b = 0x5C then skipString .escape text
    else if b < 0x20 then .error .malformed
    else skipString .plain text
  | .escape, b :: text =>
    if b = 0x75 then skipString (.unit []) text
    else if (shortEscape? b).isSome then skipString .plain text
    else .error .malformed
  | .unit digits, b :: text =>
    let digits := digits ++ [b]
    if digits.length < 4 then skipString (.unit digits) text
    else if (hexUnit? digits).isSome then skipString .plain text
    else .error .malformed

end ChainRollback.Json
