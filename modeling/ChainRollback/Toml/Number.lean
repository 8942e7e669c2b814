import ChainRollback.Toml.Item
import ChainRollback.Toml.Text

/-! # Numbers and dates in TOML text

An integer has 64 bits and a sign and may be written to the bases two, eight and sixteen; single
underscores may stand between digits. Of a float and of a date it only matters that they are well
formed.
-/
namespace ChainRollback.Toml

def isDigit (c : Char) : Bool := '0' ≤ c && c ≤ '9'

def digitOf (base : Nat) (c : Char) : Option Nat := (hexValue? c).filter (· < base)

/-- The digits at the front, with single underscores between them. -/
def spanDigits (base : Nat) : List Char → List Nat × List Char
  | [] => ([], [])
  | c :: text =>
    match digitOf base c with
    | some d =>
      let (digits, rest) := match text with
        | '_' :: e :: more =>
          if (digitOf base e).isSome then spanDigits base (e :: more) else ([], text)
        | text => spanDigits base text
      (d :: digits, rest)
    | none => ([], c :: text)
  termination_by text => text.length

def valueOf (base : Nat) (digits : List Nat) : Nat := digits.foldl (fun n d => base * n + d) 0

def bounded (i : Int) : Option Scalar :=
  if -0x8000000000000000 ≤ i ∧ i < 0x8000000000000000 then some (.integer i) else none

/-- Digits to a base other than ten, behind its mark. -/
def readBased (base : Nat) : Reader Scalar := fun text =>
  match spanDigits base text with
  | ([], _) => none
  | (digits, rest) => (bounded (valueOf base digits)).map fun s => (s, rest)

/-- Decimal digits without leading zeros. -/
def readWhole : Reader (List Nat) := fun text =>
  match text with
  | '0' :: rest => some ([0], rest)
  | text =>
    match spanDigits 10 text with
    | ([], _) => none
    | r => some r

/-- Whether the digits before and after the point, scaled by a power of ten, round to a finite
double. -/
def isFinite (digits : List Nat) (scale : Int) : Bool :=
  let value := valueOf 10 digits
  let width := (Nat.toDigits 10 value).length
  if value = 0 ∨ width + scale < 300 then true
  else if 320 < width + scale then false
  else value * Nat.pow 10 scale.toNat < (1 <<< 1024 - 1 <<< 970) * Nat.pow 10 (-scale).toNat

def readSign : List Char → Option Char × List Char
  | '+' :: text => (some '+', text)
  | '-' :: text => (some '-', text)
  | text => (none, text)

def readFraction : Reader (Option (List Nat))
  | '.' :: text =>
    match spanDigits 10 text with
    | ([], _) => none
    | (digits, rest) => some (some digits, rest)
  | text => some (none, text)

def readExponent : Reader (Option Int)
  | [] => some (none, [])
  | c :: text =>
    if c = 'e' ∨ c = 'E' then
      let (sign, text) := readSign text
      match spanDigits 10 text with
      | ([], _) => none
      | (digits, rest) =>
        let n : Int := valueOf 10 digits
        some (some (if sign = some '-' then -n else n), rest)
    else some (none, c :: text)

/-- A number with or without a point and an exponent. Too large a positive float is refused. -/
def readDecimal : Reader Scalar := fun text => do
  let (sign, text) := readSign text
  let negative := sign == some '-'
  let (whole, text) ← readWhole text
  let (fraction, text) ← readFraction text
  let (exponent, text) ← readExponent text
  if fraction.isNone ∧ exponent.isNone then
    let n : Int := valueOf 10 whole
    return (← bounded (if negative then -n else n), text)
  let after := fraction.getD []
  guard (negative || isFinite (whole ++ after) (exponent.getD 0 - after.length))
  return (.floating, text)

/-- Takes a word from the front. -/
def takeWord (word text : List Char) : Option (List Char) :=
  if word.isPrefixOf text then some (text.drop word.length) else none

def readSpecial : Reader Scalar := fun text =>
  let (_, text) := readSign text
  ((takeWord ['i', 'n', 'f'] text) <|> takeWord ['n', 'a', 'n'] text).map fun rest =>
    (.floating, rest)

/-- A number of exactly `width` digits between two bounds. -/
def readField (width low high : Nat) : Reader Nat := fun text =>
  let front := text.take width
  if front.length = width ∧ front.all isDigit then
    let n := valueOf 10 (front.map fun c => c.toNat - 48)
    if low ≤ n ∧ n ≤ high then some (n, text.drop width) else none
  else none

def expect (c : Char) : List Char → Option (List Char)
  | d :: text => if d = c then some text else none
  | [] => none

def isLeap (year : Nat) : Bool := year % 4 == 0 && (year % 100 != 0 || year % 400 == 0)

def daysIn (year month : Nat) : Nat :=
  if month = 2 then if isLeap year then 29 else 28
  else if month = 4 ∨ month = 6 ∨ month = 9 ∨ month = 11 then 30
  else 31

def readDate (text : List Char) : Option (List Char) := do
  let (year, text) ← readField 4 0 9999 text
  let (month, text) ← readField 2 1 12 (← expect '-' text)
  let (_, text) ← readField 2 1 (daysIn year month) (← expect '-' text)
  return text

def readTime (text : List Char) : Option (List Char) := do
  let (_, text) ← readField 2 0 23 text
  let (_, text) ← readField 2 0 59 (← expect ':' text)
  let (_, text) ← readField 2 0 60 (← expect ':' text)
  match text with
  | '.' :: c :: rest => if isDigit c then return rest.dropWhile isDigit else return text
  | text => return text

def readOffset (text : List Char) : List Char :=
  match text with
  | [] => []
  | c :: rest =>
    if c = 'Z' ∨ c = 'z' then rest
    else if c = '+' ∨ c = '-' then
      let behind : Option (List Char) := do
        let (_, text) ← readField 2 0 23 rest
        let (_, text) ← readField 2 0 59 (← expect ':' text)
        return text
      behind.getD text
    else text

/-- A date, a time of day, or a date with a time and perhaps an offset. -/
def readDateTime : Reader Scalar := fun text =>
  let behind := match readDate text with
    | some rest =>
      let withTime := match rest with
        | c :: more => if c = 'T' ∨ c = 't' ∨ c = ' ' then (readTime more).map readOffset else none
        | [] => none
      some (withTime.getD rest)
    | none => readTime text
  behind.map fun rest => (.dateTime, rest)

/-- A value that is neither a string nor made of others. -/
def readPlain : Reader Scalar := fun text =>
  match text with
  | '0' :: 'x' :: rest => readBased 16 rest
  | '0' :: 'o' :: rest => readBased 8 rest
  | '0' :: 'b' :: rest => readBased 2 rest
  | text =>
    ((takeWord ['t', 'r', 'u', 'e'] text).map fun rest => (.boolean true, rest)) <|>
      ((takeWord ['f', 'a', 'l', 's', 'e'] text).map fun rest => (.boolean false, rest)) <|>
      readDateTime text <|> readSpecial text <|> readDecimal text

end ChainRollback.Toml
