import ChainRollback.Chain.Commitment
import ChainRollback.Proofs.Store.HeightKey

/-! # What a Merkle root binds

Two lists of leaves with one root are the same list, or a string hashed for the one and a string
hashed for the other differ and have the same digest. The trees need not have one shape: where the
last strings hashed agree, both are empty, both are leaves, or both join two roots, and then one of
the two halves goes on with the difference. The hash of a validator set binds its keys and powers in
order in this way and depends on nothing else.
-/
namespace ChainRollback

namespace Merkle

variable (hash : Bytes → Bytes32)

/-- The strings that are hashed for a root, each behind those that its own bytes need. -/
def hashed : List Bytes → List Bytes
  | [] => [[]]
  | [leaf] => [0 :: leaf]
  | a :: b :: rest =>
    let leaves := a :: b :: rest
    let k := splitPoint leaves.length
    hashed (leaves.take k) ++ hashed (leaves.drop k) ++
      [1 :: (root hash (leaves.take k)).bytes ++ (root hash (leaves.drop k)).bytes]
  termination_by leaves => leaves.length
  decreasing_by
    all_goals
      have hlt := splitPoint_lt (n := (a :: b :: rest).length) (by simp)
      have hpos := splitPoint_pos (a :: b :: rest).length
      simp only [List.length_take, List.length_drop]
      omega

/-- The last string that is hashed for a root. -/
def lastHashed : List Bytes → Bytes
  | [] => []
  | [leaf] => 0 :: leaf
  | a :: b :: rest =>
    let leaves := a :: b :: rest
    let k := splitPoint leaves.length
    1 :: (root hash (leaves.take k)).bytes ++ (root hash (leaves.drop k)).bytes

/-- Strings of two lists that differ and have the same digest. -/
def CollidesIn (these those : List Bytes) : Prop :=
  ∃ a ∈ these, ∃ b ∈ those, a ≠ b ∧ hash a = hash b

variable {hash} {xs ys : List Bytes}

theorem root_eq_hash_lastHashed (hash : Bytes → Bytes32) (xs : List Bytes) :
    root hash xs = hash (lastHashed hash xs) := by
  unfold root lastHashed
  split <;> rfl

theorem lastHashed_mem_hashed : lastHashed hash xs ∈ hashed hash xs := by
  unfold hashed lastHashed
  split <;> simp

section
variable (hash) (a b : Bytes) (rest : List Bytes)

theorem hashed_take_subset :
    hashed hash ((a :: b :: rest).take (splitPoint (a :: b :: rest).length)) ⊆
      hashed hash (a :: b :: rest) := by
  intro s hs
  rw [hashed]
  exact List.mem_append_left _ (List.mem_append_left _ hs)

theorem hashed_drop_subset :
    hashed hash ((a :: b :: rest).drop (splitPoint (a :: b :: rest).length)) ⊆
      hashed hash (a :: b :: rest) := by
  intro s hs
  rw [hashed]
  exact List.mem_append_left _ (List.mem_append_right _ hs)

end

/-- A root depends on the digests of the strings hashed for it only. -/
theorem root_congr {hash' : Bytes → Bytes32} (h : ∀ b ∈ hashed hash xs, hash' b = hash b) :
    root hash' xs = root hash xs := by
  have hlast {xs : List Bytes} (h : ∀ b ∈ hashed hash xs, hash' b = hash b)
      (heq : lastHashed hash' xs = lastHashed hash xs) : root hash' xs = root hash xs := by
    rw [root_eq_hash_lastHashed, root_eq_hash_lastHashed hash xs, heq]
    exact h _ lastHashed_mem_hashed
  induction xs using root.induct with
  | case1 => exact hlast h rfl
  | case2 leaf => exact hlast h rfl
  | case3 a b rest leaves k ihleft ihright =>
    have hleft := ihleft fun s hs => h s (hashed_take_subset hash a b rest hs)
    have hright := ihright fun s hs => h s (hashed_drop_subset hash a b rest hs)
    apply hlast h
    rw [lastHashed, lastHashed, hleft, hright]

theorem CollidesIn.mono {these those more more' : List Bytes} (h : CollidesIn hash these those)
    (hl : these ⊆ more) (hr : those ⊆ more') : CollidesIn hash more more' := by
  obtain ⟨a, ha, b, hb, hne, heq⟩ := h
  exact ⟨a, hl ha, b, hr hb, hne, heq⟩

/-- The two roots that an inner string joins can be told from it. -/
theorem inner_inj {l r l' r' : Bytes32}
    (h : 1 :: l.bytes ++ r.bytes = 1 :: l'.bytes ++ r'.bytes) : l = l' ∧ r = r' := by
  have hlength : l.bytes.length = l'.bytes.length := l.length_eq.trans l'.length_eq.symm
  obtain ⟨hl, hr⟩ := List.append_inj (List.cons.inj h).2 hlength
  exact ⟨Bytes32.ext hl, Bytes32.ext hr⟩

/-- Different lists with one root have a collision between the strings hashed for them. -/
theorem collidesIn_of_root_eq (hash : Bytes → Bytes32) (xs : List Bytes) :
    ∀ ys, xs ≠ ys → root hash xs = root hash ys →
      CollidesIn hash (hashed hash xs) (hashed hash ys) := by
  have hlast (xs ys : List Bytes) (h : root hash xs = root hash ys)
      (hne : lastHashed hash xs ≠ lastHashed hash ys) :
      CollidesIn hash (hashed hash xs) (hashed hash ys) := by
    rw [root_eq_hash_lastHashed hash xs, root_eq_hash_lastHashed hash ys] at h
    exact ⟨_, lastHashed_mem_hashed, _, lastHashed_mem_hashed, hne, h⟩
  induction xs using root.induct with
  | case1 =>
    intro ys hne h
    match ys with
    | [] => exact absurd rfl hne
    | [_] => exact hlast _ _ h (by simp [lastHashed])
    | _ :: _ :: _ => exact hlast _ _ h (by simp [lastHashed])
  | case2 leaf =>
    intro ys hne h
    match ys with
    | [] => exact hlast _ _ h (by simp [lastHashed])
    | [leaf'] => exact hlast _ _ h (by simpa [lastHashed] using hne)
    | _ :: _ :: _ => exact hlast _ _ h (by simp [lastHashed])
  | case3 a b rest leaves k ihleft ihright =>
    intro ys hne h
    match ys with
    | [] => exact hlast _ _ h (by simp [lastHashed])
    | [_] => exact hlast _ _ h (by simp [lastHashed])
    | c :: d :: rest' =>
      by_cases hinner : lastHashed hash leaves = lastHashed hash (c :: d :: rest')
      · obtain ⟨hl, hr⟩ := inner_inj hinner
        -- The lists differ before the points where they are cut, or behind them.
        by_cases htake :
            leaves.take k = (c :: d :: rest').take (splitPoint (c :: d :: rest').length)
        · have hdrop : leaves.drop k ≠
              (c :: d :: rest').drop (splitPoint (c :: d :: rest').length) := by
            intro hdrop
            apply hne
            calc a :: b :: rest = leaves.take k ++ leaves.drop k := (List.take_append_drop ..).symm
              _ = (c :: d :: rest').take (splitPoint (c :: d :: rest').length) ++
                  (c :: d :: rest').drop (splitPoint (c :: d :: rest').length) := by
                rw [htake, hdrop]
              _ = c :: d :: rest' := List.take_append_drop ..
          exact (ihright _ hdrop hr).mono (hashed_drop_subset hash a b rest)
            (hashed_drop_subset hash c d rest')
        · exact (ihleft _ htake hl).mono (hashed_take_subset hash a b rest)
            (hashed_take_subset hash c d rest')
      · exact hlast _ _ h hinner

end Merkle

namespace ValidatorSet

variable {s t : ValidatorSet}

def leaves (s : ValidatorSet) : List Bytes := s.validators.map Validator.leaf

/-- What the hash of a set is about. -/
def keysAndPowers (s : ValidatorSet) : List (Bytes32 × Int64) :=
  s.validators.map fun v => (v.pubKey, v.votingPower)

theorem leaves_eq (s : ValidatorSet) :
    s.leaves = s.keysAndPowers.map fun p => p.1.bytes ++ Height.toBytes p.2 := by
  rw [keysAndPowers, List.map_map]
  rfl

/-- Key and power can be told from the leaf of a validator. -/
theorem leaf_injective :
    Function.Injective fun p : Bytes32 × Int64 => p.1.bytes ++ Height.toBytes p.2 := by
  intro p q h
  have hlength : p.1.bytes.length = q.1.bytes.length := p.1.length_eq.trans q.1.length_eq.symm
  obtain ⟨hkey, hpower⟩ := List.append_inj h hlength
  exact Prod.ext (Bytes32.ext hkey) (Height.toBytes_injective hpower)

theorem leaves_eq_iff : s.leaves = t.leaves ↔ s.keysAndPowers = t.keysAndPowers := by
  rw [leaves_eq, leaves_eq]
  exact List.map_inj_right fun _ _ => (leaf_injective ·)

end ValidatorSet

/-- Two lists of leaves with one root are equal, or among the strings hashed for the one and for the
other, on which alone the roots depend, there are two that differ and have the same digest. The hash
of a validator set is that of its keys and powers: it stays the same if only addresses, priorities
and the proposer change, and two sets with other keys or powers and one hash have such strings. -/
theorem commitments_bind (digest : Bytes → Bytes32) :
    (∀ xs (digest' : Bytes → Bytes32), (∀ b ∈ Merkle.hashed digest xs, digest' b = digest b) →
      Merkle.root digest' xs = Merkle.root digest xs) ∧
    (∀ xs ys, xs ≠ ys → Merkle.root digest xs = Merkle.root digest ys →
      Merkle.CollidesIn digest (Merkle.hashed digest xs) (Merkle.hashed digest ys)) ∧
    (∀ s t : ValidatorSet, s.keysAndPowers = t.keysAndPowers → s.hash digest = t.hash digest) ∧
    ∀ s t : ValidatorSet, s.keysAndPowers ≠ t.keysAndPowers → s.hash digest = t.hash digest →
      Merkle.CollidesIn digest (Merkle.hashed digest s.leaves) (Merkle.hashed digest t.leaves) := by
  refine ⟨fun xs digest' => Merkle.root_congr, Merkle.collidesIn_of_root_eq digest, ?_, ?_⟩
  · intro s t h
    exact congrArg (Merkle.root digest) (ValidatorSet.leaves_eq_iff.mpr h)
  · intro s t hne h
    exact Merkle.collidesIn_of_root_eq digest _ _ (mt ValidatorSet.leaves_eq_iff.mp hne) h

/-! A digest that adds up bytes does not tell apart what is in another order. -/

namespace ByteSum
open Merkle

def digest (b : Bytes) : Bytes32 := .replicate (b.foldl (· + ·) 0)

/-- Differs from the digest where nothing is hashed. -/
def otherDigest (b : Bytes) : Bytes32 := if b = [] then default else digest b

def validator (seed : UInt8) (power : Int64) : Validator := ⟨[seed], .replicate seed, power, 0⟩

def set : ValidatorSet := .ofList [validator 1 10, validator 2 11]

/-- Other addresses and priorities and no proposer. -/
def relabelled : ValidatorSet :=
  ⟨set.validators.map fun v => { v with address := [], proposerPriority := 7 }, none⟩

def reordered : ValidatorSet := .ofList [validator 2 11, validator 1 10]

theorem root_pair (hash : Bytes → Bytes32) (a b : Bytes) :
    root hash [a, b] = innerHash hash (leafHash hash a) (leafHash hash b) := by
  rw [root]
  change innerHash hash (root hash [a]) (root hash [b]) = _
  rw [root, root]

theorem root_three (hash : Bytes → Bytes32) (a b c : Bytes) : root hash [a, b, c] =
    innerHash hash (innerHash hash (leafHash hash a) (leafHash hash b)) (leafHash hash c) := by
  have hsplit : splitPoint [a, b, c].length = 2 := show splitPoint 3 = 2 by decide +kernel
  rw [root]
  simp only [hsplit]
  change innerHash hash (root hash [a, b]) (root hash [c]) = _
  rw [root_pair, root]

theorem otherDigest_eq : ∀ b ∈ hashed digest [[1], [2]], otherDigest b = digest b := by
  intro b hb
  rw [hashed] at hb
  change b ∈ hashed digest [[1]] ++ hashed digest [[2]] ++ [_] at hb
  rw [hashed, hashed] at hb
  apply if_neg
  rintro rfl
  simp at hb

theorem root_eq : root digest [[1], [2]] = root digest [[5], [6], [2]] := by
  rw [root_pair, root_three]
  decide +kernel

theorem hash_eq : set.hash digest = reordered.hash digest := by
  change root digest [_, _] = root digest [_, _]
  rw [root_pair, root_pair]
  decide +kernel

end ByteSum

open ByteSum in
theorem commitments_bind_of_byteSum :
    Merkle.root otherDigest [[1], [2]] = Merkle.root digest [[1], [2]] ∧
    Merkle.CollidesIn digest (Merkle.hashed digest [[1], [2]])
      (Merkle.hashed digest [[5], [6], [2]]) ∧
    set.hash digest = relabelled.hash digest ∧
    Merkle.CollidesIn digest (Merkle.hashed digest set.leaves)
      (Merkle.hashed digest reordered.leaves) := by
  obtain ⟨hroot, hlists, hsame, hsets⟩ := commitments_bind digest
  exact ⟨hroot _ _ otherDigest_eq, hlists _ _ (by decide) root_eq, hsame _ _ (by decide),
    hsets _ _ (by decide) hash_eq⟩

end ChainRollback
