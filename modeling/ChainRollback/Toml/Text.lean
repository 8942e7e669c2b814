/-! # Strings in TOML text

A string is basic, with escapes, or literal, without; either may run over several lines between
three quotes. A line break is a line feed with or without a carriage return before it, and reads
as a line feed. A line break right behind the opening quotes is left out.
-/
namespace ChainRollback.Toml

def isBlank (c : Char) : Bool := c == ' ' || c == '\t'

def isPrinting (c : Char) : Bool := c == '\t' || (' ' ≤ c && c != '\x7f')

def hexValue? (c : Char) : Option Nat :=
  if '0' ≤ c ∧ c ≤ '9' then some (c.toNat - 48)
  else if 'A' ≤ c ∧ c ≤ 'F' then some (c.toNat - 55)
  else if 'a' ≤ c ∧ c ≤ 'f' then some (c.toNat - 87)
  else none

def charOf? (n : Nat) : Option Char :=
  if n.isValidChar then some (Char.ofNat n) else none

def shortEscape? (c : Char) : Option Char :=
  if c = 'b' then some '\x08'
  else if c = 't' then some '\t'
  else if c = 'n' then some '\n'
  else if c = 'f' then some '\x0c'
  else if c = 'r' then some '\r'
  else if c = '"' ∨ c = '\\' then some c
  else none

inductive TextState where
  | plain
  | escape
  /-- Inside a numbered escape, with `left` digits to come. -/
  | digits (left value : Nat)
  /-- Behind a backslash at the end of a line, before the line break. -/
  | lineEnd
  /-- Among the blanks and line breaks that such a backslash takes away. -/
  | gap
  deriving DecidableEq

abbrev Reader (α : Type) := List Char → Option (α × List Char)

/-- Inside an escape: the next state, with the character it completes. -/
def TextState.step (c : Char) : TextState → Option (TextState × Option Char)
  | escape =>
    if c = 'u' then some (digits 4 0, none)
    else if c = 'U' then some (digits 8 0, none)
    else (shortEscape? c).map fun d => (plain, some d)
  | digits left value => do
    let value := 16 * value + (← hexValue? c)
    if left = 1 then return (plain, some (← charOf? value))
    return (digits (left - 1) value, none)
  | _ => none

def prepend (d : Option Char) (r : List Char × List Char) : List Char × List Char :=
  match d with
  | some d => (d :: r.1, r.2)
  | none => r

def readBasic : TextState → Reader (List Char)
  | _, [] => none
  | .plain, c :: text =>
    if c = '"' then some ([], text)
    else if c = '\\' then readBasic .escape text
    else if isPrinting c then (readBasic .plain text).map (prepend (some c))
    else none
  | state, c :: text =>
    match state.step c with
    | none => none
    | some (state, d) => (readBasic state text).map (prepend d)

def readLiteral : Reader (List Char)
  | [] => none
  | c :: text =>
    if c = '\'' then some ([], text)
    else if isPrinting c then (readLiteral text).map (prepend (some c))
    else none

/-- A run of quotes that closes a string of several lines: what it adds to the string and what
follows. Up to two quotes before the closing three belong to the string. -/
def closing? (quote : Char) (text : List Char) : Option (List Char × List Char) :=
  let run := (text.takeWhile (· == quote)).length
  if run < 3 then none
  else some (List.replicate (min run 5 - 3) quote, text.drop (min run 5))

def readBasicLines : TextState → Reader (List Char)
  | _, [] => none
  | state, c :: text =>
    if state = .plain ∨ state = .gap then
      if state = .gap ∧ (isBlank c ∨ c = '\n') then readBasicLines .gap text
      else if c = '\r' then if text.head? = some '\n' then readBasicLines state text else none
      else if c = '"' then
        match closing? '"' (c :: text) with
        | some closed => some closed
        | none => (readBasicLines .plain text).map (prepend (some c))
      else if c = '\\' then readBasicLines .escape text
      else if c = '\n' ∨ isPrinting c then (readBasicLines .plain text).map (prepend (some c))
      else none
    else if state = .lineEnd ∨ (state = .escape ∧ (isBlank c ∨ c = '\n' ∨ c = '\r')) then
      if isBlank c then readBasicLines .lineEnd text
      else if c = '\n' then readBasicLines .gap text
      else if c = '\r' ∧ text.head? = some '\n' then readBasicLines .lineEnd text
      else none
    else match state.step c with
      | none => none
      | some (state, d) => (readBasicLines state text).map (prepend d)

def readLiteralLines : Reader (List Char)
  | [] => none
  | c :: text =>
    if c = '\r' then if text.head? = some '\n' then readLiteralLines text else none
    else if c = '\'' then
      match closing? '\'' (c :: text) with
      | some closed => some closed
      | none => (readLiteralLines text).map (prepend (some c))
    else if c = '\n' ∨ isPrinting c then (readLiteralLines text).map (prepend (some c))
    else none

def dropBreak : List Char → List Char
  | '\n' :: text => text
  | '\r' :: '\n' :: text => text
  | text => text

def asText (r : List Char × List Char) : String × List Char := (String.ofList r.1, r.2)

def readText : Reader String
  | '"' :: '"' :: '"' :: text => (readBasicLines .plain (dropBreak text)).map asText
  | '\'' :: '\'' :: '\'' :: text => (readLiteralLines (dropBreak text)).map asText
  | '"' :: text => (readBasic .plain text).map asText
  | '\'' :: text => (readLiteral text).map asText
  | _ => none

end ChainRollback.Toml
