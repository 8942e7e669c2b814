import ChainRollback.Bytes

/-! # Merkle roots

The root of a list of leaves, in the shape of RFC 6962: a leaf and an inner node are hashed
behind different first bytes, and a list splits at the greatest power of two below its length.
The hash function is a parameter.
-/
namespace ChainRollback.Merkle

/-- The greatest power of two below `n`, for `n` at least two. -/
def splitPoint (n : Nat) : Nat := 1 <<< (n - 1).log2

theorem splitPoint_lt {n : Nat} (h : 2 ≤ n) : splitPoint n < n := by
  have := Nat.log2_self_le (n := n - 1) (by omega)
  rw [splitPoint, Nat.one_shiftLeft]
  omega

theorem splitPoint_pos (n : Nat) : 0 < splitPoint n := by
  rw [splitPoint, Nat.one_shiftLeft]
  exact Nat.two_pow_pos _

theorem le_two_mul_splitPoint {n : Nat} (h : 2 ≤ n) : n ≤ 2 * splitPoint n := by
  have := Nat.lt_log2_self (n := n - 1)
  rw [Nat.pow_succ] at this
  rw [splitPoint, Nat.one_shiftLeft]
  omega

theorem toNat_double {k : UInt64} (h : k.toNat * 2 < UInt64.size) :
    (k * 2).toNat = k.toNat * 2 := by
  rw [UInt64.toNat_mul]
  exact Nat.mod_eq_of_lt h

/-- The search for it in words of 64 bits: `k` is doubled for as long as its double is below `n`. A
double that leaves the range ends the computation. -/
def doubleBelow (n k : UInt64) (hk : 0 < k.toNat) : Except Overflow UInt64 :=
  if hfit : k.toNat * 2 < UInt64.size then
    if k * 2 < n then doubleBelow n (k * 2) (by rw [toNat_double hfit]; omega) else .ok k
  else .error .multiply
  termination_by UInt64.size - k.toNat
  decreasing_by
    rw [toNat_double hfit]
    omega

variable (hash : Bytes → Bytes32)

def leafHash (leaf : Bytes) : Bytes32 := hash (0 :: leaf)

def innerHash (left right : Bytes32) : Bytes32 := hash (1 :: left.bytes ++ right.bytes)

def root : List Bytes → Bytes32
  | [] => hash []
  | [leaf] => leafHash hash leaf
  | a :: b :: rest =>
    let leaves := a :: b :: rest
    let k := splitPoint leaves.length
    innerHash hash (root (leaves.take k)) (root (leaves.drop k))
  termination_by leaves => leaves.length
  decreasing_by
    all_goals
      have hlt := splitPoint_lt (n := (a :: b :: rest).length) (by simp)
      have hpos := splitPoint_pos (a :: b :: rest).length
      simp only [List.length_take, List.length_drop]
      omega

end ChainRollback.Merkle
