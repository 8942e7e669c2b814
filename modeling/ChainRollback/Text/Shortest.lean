/-! # Shortest decimal text of a binary fraction

A finite double is `mantissa · 2 ^ exponent`. Its text has the fewest digits that read back as
the same double, and among those the digits nearest to its value. The search is exact: it walks
the decimal grids from coarse to fine and keeps the first point inside the interval of reals that
round to the double.
-/
namespace ChainRollback.Text

structure Decimal where
  digits : Nat
  scale : Int
  deriving DecidableEq, Repr

/-- A double by its sign and its parts; `boundary` holds of the least mantissa of a binade, where
the double below is half as far away as the double above. -/
structure Binary where
  negative : Bool
  mantissa : Nat
  exponent : Int
  boundary : Bool
  deriving DecidableEq, Repr

def Binary.ofBits (bits : Nat) : Binary :=
  let fraction := bits % (1 <<< 52)
  let biased : Nat := (bits >>> 52) % (1 <<< 11)
  let negative := (bits >>> 63) % 2 == 1
  if biased = 0 then ⟨negative, fraction, -1074, false⟩
  else ⟨negative, 1 <<< 52 + fraction, (biased : Int) - 1075, fraction == 0 && biased > 1⟩

/-- A non-negative rational by numerator and denominator, scaled by `10 ^ scale`. -/
def scaled (n d : Nat) (scale : Int) : Nat × Nat :=
  (n * Nat.pow 10 scale.toNat, d * Nat.pow 10 (-scale).toNat)

def leadingExponent (n d : Nat) : Int :=
  if d ≤ n then ((Nat.toDigits 10 (n / d)).length : Int) - 1
  else -((((List.range 400).find? fun s => d ≤ n * Nat.pow 10 s).getD 400 : Nat) : Int)

/-- A point of the grid `10 ^ scale` that lies in the interval from `low` to `high` over `den`,
the nearer neighbour of `value` first. -/
def gridPoint? (low value high den : Nat) (closed : Bool) (scale : Int) : Option Decimal :=
  let (up, down) := scaled 1 1 scale
  let unit := up * den
  let floor := value * down / unit
  let inside (c : Nat) : Bool :=
    if closed then low * down ≤ c * unit && c * unit ≤ high * down
    else low * down < c * unit && c * unit < high * down
  let below := value * down - floor * unit
  let above := (floor + 1) * unit - value * down
  let nearLow := below < above || (below == above && floor % 2 == 0)
  let pair := if nearLow then [floor, floor + 1] else [floor + 1, floor]
  (pair.find? inside).map fun c => ⟨c, scale⟩

def Binary.shortest (b : Binary) : Decimal :=
  let shift := (b.exponent - 2).toNat
  let den := 1 <<< (2 - b.exponent).toNat
  let value := (4 * b.mantissa) <<< shift
  let low := (4 * b.mantissa - if b.boundary then 1 else 2) <<< shift
  let high := (4 * b.mantissa + 2) <<< shift
  let lead := leadingExponent value den
  ((List.range 17).findSome? fun (k : Nat) =>
    gridPoint? low value high den (b.mantissa % 2 == 0) (lead - k)).getD ⟨0, 0⟩

def Decimal.trim (d : Decimal) : List Char × Int :=
  let all := Nat.toDigits 10 d.digits
  let zeros := (all.reverse.takeWhile (· == '0')).length
  (all.take (all.length - zeros), d.scale + zeros)

def zeros (n : Int) : List Char := List.replicate n.toNat '0'

/-- Positional between `10 ^ -5` and `10 ^ 16`, always with a point; otherwise one digit before
the point and a signed exponent. -/
def Decimal.render (d : Decimal) : List Char :=
  let (digits, scale) := d.trim
  let lead := scale + digits.length - 1
  if 16 ≤ lead ∨ lead < -5 then
    let tail := digits.drop 1
    digits.take 1 ++ (if tail.isEmpty then [] else '.' :: tail) ++
      'e' :: (if lead < 0 then '-' else '+') :: Nat.toDigits 10 lead.natAbs
  else if 0 ≤ scale then digits ++ zeros scale ++ ['.', '0']
  else if 0 ≤ lead then
    digits.take (lead + 1).toNat ++ '.' :: digits.drop (lead + 1).toNat
  else '0' :: '.' :: zeros (-lead - 1) ++ digits

def renderDouble (bits : UInt64) : String :=
  let b := Binary.ofBits bits.toNat
  let magnitude := if b.mantissa = 0 then ['0', '.', '0'] else b.shortest.render
  String.ofList (if b.negative then '-' :: magnitude else magnitude)

end ChainRollback.Text
