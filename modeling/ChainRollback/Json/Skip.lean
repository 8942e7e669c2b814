import ChainRollback.Json.Number
import ChainRollback.Json.Text

/-! # Passing over JSON values

A value that no record asks for is checked for its form and dropped. The depth of nesting is not
bounded; every call is paid for by a byte of the text or by the call before it, so twice the
length of the text is fuel enough.
-/
namespace ChainRollback.Json

mutual

def skipValue : (fuel : Nat) → Bytes → Except Fault Bytes
  | 0, _ => .error .truncated
  | fuel + 1, text =>
    match skipBlank text with
    | [] => .error .truncated
    | b :: rest =>
      if b = 0x6E then skipWord afterN rest
      else if b = 0x74 then skipWord afterT rest
      else if b = 0x66 then skipWord afterF rest
      else if b = 0x2D then skipNumeral rest
      else if isDigit b then skipNumeral (b :: rest)
      else if b = 0x22 then skipString .plain rest
      else if b = 0x5B then
        match skipBlank rest with
        | [] => .error .truncated
        | c :: inner => if c = 0x5D then .ok inner else skipElements fuel (c :: inner)
      else if b = 0x7B then
        match skipBlank rest with
        | [] => .error .truncated
        | c :: inner => if c = 0x7D then .ok inner else skipMembers fuel (c :: inner)
      else .error .malformed

/-- At the first of the elements left in a list. -/
def skipElements : (fuel : Nat) → Bytes → Except Fault Bytes
  | 0, _ => .error .truncated
  | fuel + 1, text => do
    match skipBlank (← skipValue fuel text) with
    | [] => throw .truncated
    | b :: rest =>
      if b = 0x2C then skipElements fuel rest
      else if b = 0x5D then return rest
      else throw .malformed

/-- At the first of the members left in an object. -/
def skipMembers : (fuel : Nat) → Bytes → Except Fault Bytes
  | 0, _ => .error .truncated
  | fuel + 1, text =>
    match skipBlank text with
    | [] => .error .truncated
    | b :: rest =>
      if b ≠ 0x22 then .error .malformed
      else do
        match skipBlank (← skipString .plain rest) with
        | [] => throw .truncated
        | c :: value =>
          if c ≠ 0x3A then throw .malformed
          match skipBlank (← skipValue fuel value) with
          | [] => throw .truncated
          | d :: more =>
            if d = 0x2C then skipMembers fuel more
            else if d = 0x7D then return more
            else throw .malformed

end

def passOver (text : Bytes) : Except Fault Bytes := skipValue (2 * text.length + 2) text

end ChainRollback.Json
