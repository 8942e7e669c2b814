import ChainRollback.Height

/-! # Byte strings

Fixed-width integers are written least or most significant byte first. Reading back what was
written gives the number modulo its width, and every byte string of that width is the written
form of the number it reads as.
-/
namespace ChainRollback

abbrev Bytes := List UInt8

namespace Bytes

/-- The low `width` bytes of `n`, least significant first. -/
def littleEndian : (width : Nat) → (n : Nat) → Bytes
  | 0, _ => []
  | width + 1, n => UInt8.ofNat n :: littleEndian width (n / 256)

def ofLittleEndian : Bytes → Nat
  | [] => 0
  | b :: rest => b.toNat + 256 * ofLittleEndian rest

/-- The low `width` bytes of `n`, most significant first. -/
def bigEndian (width n : Nat) : Bytes := (littleEndian width n).reverse

def ofBigEndian (b : Bytes) : Nat := ofLittleEndian b.reverse

@[simp] theorem littleEndian_length (width n : Nat) : (littleEndian width n).length = width := by
  induction width generalizing n with
  | zero => rfl
  | succ width ih => simp [littleEndian, ih]

@[simp] theorem bigEndian_length (width n : Nat) : (bigEndian width n).length = width := by
  simp [bigEndian]

/-- How many numbers fit in `width` bytes. -/
def capacity (width : Nat) : Nat := 1 <<< (8 * width)

theorem capacity_succ (width : Nat) : capacity (width + 1) = 256 * capacity width := by
  rw [capacity, capacity, Nat.one_shiftLeft, Nat.one_shiftLeft, Nat.mul_succ, Nat.pow_add,
    Nat.mul_comm]

theorem ofLittleEndian_lt (b : Bytes) : ofLittleEndian b < capacity b.length := by
  induction b with
  | nil => exact Nat.zero_lt_one
  | cons x rest ih =>
    have hx := x.toNat_lt
    simp only [ofLittleEndian, List.length_cons, capacity_succ]
    omega

theorem ofLittleEndian_littleEndian (width n : Nat) :
    ofLittleEndian (littleEndian width n) = n % capacity width := by
  induction width generalizing n with
  | zero => exact (Nat.mod_one n).symm
  | succ width ih =>
    have hmod : (UInt8.ofNat n).toNat = n % 256 := UInt8.toNat_ofNat'
    rw [littleEndian, ofLittleEndian, ih, hmod, capacity_succ, Nat.mod_mul]

theorem littleEndian_ofLittleEndian (b : Bytes) :
    littleEndian b.length (ofLittleEndian b) = b := by
  induction b with
  | nil => rfl
  | cons x rest ih =>
    have hx := x.toNat_lt
    have hdiv : (x.toNat + 256 * ofLittleEndian rest) / 256 = ofLittleEndian rest := by omega
    have hmod : (x.toNat + 256 * ofLittleEndian rest) % 256 = x.toNat := by omega
    simp only [List.length_cons, littleEndian, ofLittleEndian, hdiv, ih, List.cons.injEq, and_true]
    apply UInt8.toNat_inj.mp
    simp only [UInt8.toNat_ofNat']
    exact hmod

end Bytes

/-- Thirty-two bytes: a key, a seed or a digest. -/
structure Bytes32 where
  bytes : Bytes
  length_eq : bytes.length = 32
  deriving DecidableEq

namespace Bytes32

@[ext] theorem ext {a b : Bytes32} (h : a.bytes = b.bytes) : a = b := by
  cases a
  cases b
  cases h
  rfl

/-- One byte, thirty-two times. -/
def replicate (b : UInt8) : Bytes32 := ⟨List.replicate 32 b, by simp⟩

instance : Inhabited Bytes32 := ⟨replicate 0⟩

def ofBytes? (b : Bytes) : Option Bytes32 :=
  if h : b.length = 32 then some ⟨b, h⟩ else none

end Bytes32

/-- The big-endian two's complement form of a height. -/
def Height.toBytes (h : Height) : Bytes := Bytes.bigEndian 8 h.toUInt64.toNat

end ChainRollback
