import ChainRollback.Hash.Sha2

/-! # Ed25519 public keys

The public key of a seed is the base point of the twisted Edwards curve over `2 ^ 255 - 19`,
multiplied by the clamped first half of the seed's SHA-512 digest, and written as its second
coordinate with the parity of the first in the top bit.
-/
namespace ChainRollback.Ed25519

def p : Nat := 1 <<< 255 - 19

def power (base : Nat) : (bits : Nat) → (exponent : Nat) → Nat
  | 0, _ => 1
  | bits + 1, exponent =>
    let half := power (base * base % p) bits (exponent / 2)
    if exponent % 2 = 1 then base * half % p else half

def inverse (a : Nat) : Nat := power a 255 (p - 2)

/-- The constant `-121665 / 121666` of the curve. -/
def d : Nat := (p - 121665) * inverse 121666 % p

/-- A point in extended coordinates: `x / z`, `y / z` and `t = x y / z`. -/
structure Point where
  x : Nat
  y : Nat
  z : Nat
  t : Nat

namespace Point

def zero : Point := ⟨0, 1, 1, 0⟩

/-- Complete for this curve, so it doubles as well. -/
def add (a b : Point) : Point :=
  let s := (a.y + p - a.x) * (b.y + p - b.x) % p
  let u := (a.y + a.x) * (b.y + b.x) % p
  let c := 2 * d * a.t % p * b.t % p
  let e := 2 * a.z * b.z % p
  let h := u + p - s
  let f := e + p - c
  let g := e + c
  let k := u + s
  ⟨h * f % p, g * k % p, f * g % p, h * k % p⟩

/-- The low `bits` bits of `n` times the point. -/
def multiply (a : Point) : (bits : Nat) → (n : Nat) → Point
  | 0, _ => zero
  | bits + 1, n =>
    let rest := multiply (add a a) bits (n / 2)
    if n % 2 = 1 then add a rest else rest

def base : Point :=
  let y := 4 * inverse 5 % p
  let square := (y * y + p - 1) * inverse (d * y * y + 1) % p
  let root := power square 255 ((p + 3) / 8)
  let turned := root * power 2 255 ((p - 1) / 4) % p
  let x := if root * root % p = square then root else turned
  let x := if x % 2 = 0 then x else p - x
  ⟨x, y, 1, x * y % p⟩

def encode (a : Point) : Bytes32 :=
  let w := inverse a.z
  let x := a.x * w % p
  let y := a.y * w % p
  ⟨Bytes.littleEndian 32 (y + (x % 2) <<< 255), Bytes.littleEndian_length _ _⟩

end Point

/-- A multiple of eight with its bit 254 set. -/
def clamp (n : Nat) : Nat := 1 <<< 254 + n % (1 <<< 254) / 8 * 8

def publicKey (seed : Bytes32) : Bytes32 :=
  let half := (sha512 seed.bytes).take 32
  (Point.base.multiply 255 (clamp (Bytes.ofLittleEndian half))).encode

end ChainRollback.Ed25519
