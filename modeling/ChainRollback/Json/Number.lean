import ChainRollback.Json.Fault

/-! # Numbers in JSON text

A number is scanned into its digits and then given a value. It is an integer when it is written
as one and fits in 64 bits with or without a sign; otherwise, and for a zero behind a minus sign,
it is a double. Digits that no longer fit in 64 bits are dropped, and the rest is scaled by powers
of ten, so a long number need not be the nearest double.
-/
namespace ChainRollback.Json

/-- A number as it is written; the digits are their values. -/
structure Numeral where
  negative : Bool
  whole : List Nat
  fraction : Option (List Nat)
  exponent : Option (Bool × List Nat)

def isDigit (b : UInt8) : Bool := 0x30 ≤ b && b ≤ 0x39

def digitValue (b : UInt8) : Nat := b.toNat - 0x30

def spanDigits (text : Bytes) : List Nat × Bytes :=
  ((text.takeWhile isDigit).map digitValue, text.dropWhile isDigit)

def readDigits : Reader (List Nat)
  | [] => .error .truncated
  | b :: text => if isDigit b then .ok (spanDigits (b :: text)) else .error .malformed

def readWhole : Reader (List Nat)
  | [] => .error .truncated
  | b :: text =>
    if b = 0x30 then
      if text.head?.any isDigit then .error .malformed else .ok ([0], text)
    else readDigits (b :: text)

def readFraction : Reader (Option (List Nat))
  | 0x2E :: text => (readDigits text).map fun (digits, rest) => (some digits, rest)
  | text => .ok (none, text)

/-- The sign of an exponent and its digits; true stands for minus. -/
def readExponent : Reader (Option (Bool × List Nat))
  | [] => .ok (none, [])
  | b :: text =>
    if b = 0x65 ∨ b = 0x45 then
      let (negative, text) := match text with
        | 0x2B :: text => (false, text)
        | 0x2D :: text => (true, text)
        | text => (false, text)
      (readDigits text).map fun (digits, rest) => (some (negative, digits), rest)
    else .ok (none, b :: text)

def readNumeral (negative : Bool) : Reader Numeral := fun text => do
  let (whole, text) ← readWhole text
  let (fraction, text) ← readFraction text
  let (exponent, text) ← readExponent text
  return (⟨negative, whole, fraction, exponent⟩, text)

/-- Passes over a number behind its sign; one that is cut short is malformed here. -/
def skipNumeral (text : Bytes) : Except Fault Bytes :=
  match readNumeral false text with
  | .ok (_, rest) => .ok rest
  | .error _ => .error .malformed

inductive Number where
  | integer (value : Int)
  | floating (bits : UInt64)

/-- Takes digits in while the number stays below `2 ^ 64`; gives it and the digits left over. -/
def absorbDigits (n : Nat) : List Nat → Nat × List Nat
  | [] => (n, [])
  | d :: rest => if 10 * n + d < UInt64.size then absorbDigits (10 * n + d) rest else (n, d :: rest)

def decimalValue (digits : List Nat) : Nat := digits.foldl (fun n d => 10 * n + d) 0

/-- A number times a power of ten, by at most `steps` divisions for large negative powers. -/
def scaleDouble (f : Float) (scale : Int) : (steps : Nat) → Option Float
  | 0 => some f
  | steps + 1 =>
    if scale.natAbs ≤ 308 then
      let power := Float.ofScientific 1 false scale.natAbs
      if 0 ≤ scale then
        let product := f * power
        if product.isInf then none else some product
      else some (f / power)
    else if f == 0 then some f
    else if 0 ≤ scale then none
    else scaleDouble (f / Float.ofScientific 1 false 308) (scale + 308) steps

/-- The double of a number that is no integer; none if it is too large. -/
def Numeral.double? (n : Numeral) : Option Float :=
  let (value, dropped) := absorbDigits 0 n.whole
  let fraction := n.fraction.getD []
  let (value, ignored) := absorbDigits value fraction
  let scale : Int := dropped.length - (fraction.length - ignored.length : Nat)
  let magnitude := match n.exponent with
    | none => scaleDouble (UInt64.ofNat value).toFloat scale 8
    | some (negative, digits) =>
      let exponent := decimalValue digits
      if 0x80000000 ≤ exponent then
        if value = 0 ∨ negative then some 0 else none
      else
        scaleDouble (UInt64.ofNat value).toFloat
          (if negative then scale - exponent else scale + exponent) 8
  magnitude.map fun f => if n.negative then -f else f

def Numeral.isInteger (n : Numeral) : Bool :=
  n.fraction.isNone && n.exponent.isNone &&
    if n.negative then 0 < decimalValue n.whole && decimalValue n.whole ≤ 0x8000000000000000
    else decimalValue n.whole < UInt64.size

def Numeral.value (n : Numeral) : Except Fault Number :=
  if n.isInteger then
    .ok (.integer (if n.negative then -decimalValue n.whole else decimalValue n.whole))
  else match n.double? with
    | some f => .ok (.floating f.toBits)
    | none => .error .malformed

def readNumber (negative : Bool) : Reader Number := fun text => do
  let (n, rest) ← readNumeral negative text
  return (← n.value, rest)

end ChainRollback.Json
