import ChainRollback.Proofs.Hash.Binding

/-! # The shape of a Merkle tree

A list of two or more leaves is cut at the one power of two that is below its length and whose
double is not, and doubling finds it in 64-bit words for every length that a list in memory can
have. So a list whose length is a power of two is the left half of the tree as soon as more leaves
follow it, up to as many again.
-/
namespace ChainRollback.Merkle

/-- The power of two below a number whose double is not below it. -/
def IsSplit (n k : Nat) : Prop := k.isPowerOfTwo ∧ k < n ∧ n ≤ 2 * k

section
variable {n k j : Nat}

theorem IsSplit.unique (hk : IsSplit n k) (hj : IsSplit n j) : k = j := by
  obtain ⟨⟨a, rfl⟩, hlt, hle⟩ := hk
  obtain ⟨⟨b, rfl⟩, hlt', hle'⟩ := hj
  have hab : a < b + 1 := by
    rw [← Nat.pow_lt_pow_iff_right (a := 2) (by decide), Nat.pow_succ]
    omega
  have hba : b < a + 1 := by
    rw [← Nat.pow_lt_pow_iff_right (a := 2) (by decide), Nat.pow_succ]
    omega
  have heq : a = b := by omega
  rw [heq]

theorem isSplit_splitPoint (h : 2 ≤ n) : IsSplit n (splitPoint n) :=
  ⟨⟨_, Nat.one_shiftLeft _⟩, splitPoint_lt h, le_two_mul_splitPoint h⟩

theorem isSplit_iff (h : 2 ≤ n) : IsSplit n k ↔ k = splitPoint n := by
  constructor
  · exact fun hk => hk.unique (isSplit_splitPoint h)
  · rintro rfl
    exact isSplit_splitPoint h

end

/-- Doubling stays among the powers of two below `n`, and the first whose double is not below `n` is
the result. No double leaves the range, since it is less than twice `n`. -/
theorem exists_doubleBelow {n k : UInt64} (hk : 0 < k.toNat) (hpow : k.toNat.isPowerOfTwo)
    (hlt : k.toNat < n.toNat) (hn : n.toNat ≤ 0x8000000000000000) :
    ∃ j, doubleBelow n k hk = .ok j ∧ IsSplit n.toNat j.toNat := by
  induction k, hk using doubleBelow.induct n with
  | case1 k hk hfit hdouble ih =>
    have hnat := toNat_double hfit
    rw [doubleBelow, dif_pos hfit, if_pos hdouble]
    rw [UInt64.lt_iff_toNat_lt] at hdouble
    refine ih ?_ hdouble
    rw [hnat]
    exact Nat.isPowerOfTwo_mul_two_of_isPowerOfTwo hpow
  | case2 k hk hfit hdouble =>
    rw [doubleBelow, dif_pos hfit, if_neg hdouble]
    rw [UInt64.lt_iff_toNat_lt, toNat_double hfit] at hdouble
    exact ⟨k, rfl, hpow, hlt, by omega⟩
  | case3 k hk hfit =>
    have hsize : UInt64.size = 0x10000000000000000 := rfl
    omega

section
variable {hash : Bytes → Bytes32} {leaves xs ys : List Bytes}

theorem root_of_two_le (h : 2 ≤ leaves.length) : root hash leaves =
    innerHash hash (root hash (leaves.take (splitPoint leaves.length)))
      (root hash (leaves.drop (splitPoint leaves.length))) := by
  match leaves with
  | [] => simp at h
  | [_] => simp at h
  | a :: b :: rest => rw [root]

theorem root_append (hpow : xs.length.isPowerOfTwo) (hpos : 1 ≤ ys.length)
    (hle : ys.length ≤ xs.length) :
    root hash (xs ++ ys) = innerHash hash (root hash xs) (root hash ys) := by
  have hlength : (xs ++ ys).length = xs.length + ys.length := List.length_append
  have htwo : 2 ≤ (xs ++ ys).length := by omega
  have hsplit : xs.length = splitPoint (xs ++ ys).length :=
    (isSplit_iff htwo).mp ⟨hpow, by omega, by omega⟩
  rw [root_of_two_le htwo, ← hsplit, List.take_left, List.drop_left]

end

/-- The search in words finds the one power of two at which a list of any length that fits in memory
is cut, without leaving the range. Cutting there leaves two shorter lists that are not empty. A list
whose length is a power of two and at most as many leaves behind it have the roots that are hashed
together for the root of all. -/
theorem cut_at_power_of_two :
    (∀ n : UInt64, 2 ≤ n.toNat → n.toNat ≤ 0x8000000000000000 →
      ∃ k, doubleBelow n 1 Nat.one_pos = .ok k ∧ k.toNat = splitPoint n.toNat) ∧
    (∀ n k, 2 ≤ n → (IsSplit n k ↔ k = splitPoint n)) ∧
    (∀ leaves : List Bytes, 2 ≤ leaves.length → ∀ half,
      half = leaves.take (splitPoint leaves.length) ∨
        half = leaves.drop (splitPoint leaves.length) →
      half ≠ [] ∧ half.length < leaves.length) ∧
    ∀ (hash : Bytes → Bytes32) (xs ys : List Bytes), xs.length.isPowerOfTwo → 1 ≤ ys.length →
      ys.length ≤ xs.length →
      root hash (xs ++ ys) = innerHash hash (root hash xs) (root hash ys) := by
  refine ⟨fun n hn hmax => ?_, fun n k => isSplit_iff, ?_, fun hash xs ys => root_append⟩
  · obtain ⟨k, hk, hsplit⟩ :=
      exists_doubleBelow (k := 1) Nat.one_pos Nat.isPowerOfTwo_one hn hmax
    exact ⟨k, hk, (isSplit_iff hn).mp hsplit⟩
  · intro leaves h half hhalf
    have hlt := splitPoint_lt h
    have hpos := splitPoint_pos leaves.length
    have hlength : 0 < half.length ∧ half.length < leaves.length := by
      rcases hhalf with rfl | rfl
      · rw [List.length_take]
        omega
      · rw [List.length_drop]
        omega
    exact ⟨List.length_pos_iff.mp hlength.1, hlength.2⟩

open ByteSum in
theorem cut_at_power_of_two_of_three :
    (∃ k, doubleBelow 0x8000000000000000 1 Nat.one_pos = .ok k ∧
      k.toNat = splitPoint 0x8000000000000000) ∧
    (IsSplit 5 4 ↔ 4 = splitPoint 5) ∧
    ([[1], [2], [3]] : List Bytes).drop (splitPoint 3) ≠ [] ∧
    root digest ([[1], [2]] ++ [[3]]) =
      innerHash digest (root digest [[1], [2]]) (root digest [[3]]) := by
  obtain ⟨hsearch, hunique, hhalves, happend⟩ := cut_at_power_of_two
  refine ⟨hsearch 0x8000000000000000 (by decide) (by decide), hunique 5 4 (by decide), ?_, ?_⟩
  · exact (hhalves [[1], [2], [3]] (by decide) _ (.inr rfl)).1
  · exact happend digest [[1], [2]] [[3]] ⟨1, rfl⟩ (by decide) (by decide)

end ChainRollback.Merkle
