import ChainRollback.Chain.Validator
import Mathlib.Algebra.BigOperators.Group.List.Basic
import Mathlib.Algebra.Ring.Int.Defs

/-! # The total voting power

Powers are added one after another, and a sum that leaves the 64-bit range becomes the end of the
range that it passed. Powers that are not negative can only pass the upper end, once, and stay
there, so their total is the exact sum or the greatest number. With powers of both signs the total
may depend on their order, but as long as no prefix of them leaves the range nothing is lost.
-/
namespace ChainRollback

namespace VotingPower

def InRange (i : Int) : Prop := -0x8000000000000000 ≤ i ∧ i ≤ 0x7fffffffffffffff

instance (i : Int) : Decidable (InRange i) :=
  inferInstanceAs (Decidable (-0x8000000000000000 ≤ i ∧ i ≤ 0x7fffffffffffffff))

/-- The number in the 64-bit range that is nearest to an integer. -/
def clamp (i : Int) : Int := max (-0x8000000000000000) (min 0x7fffffffffffffff i)

variable {i : Int}

theorem inRange_toInt (a : Int64) : InRange a.toInt :=
  ⟨Int64.le_toInt a, Int.le_of_lt_add_one (Int64.toInt_lt a)⟩

theorem clamp_of_inRange (h : InRange i) : clamp i = i := by
  unfold InRange at h
  unfold clamp
  omega

theorem clamp_of_nonneg (h : 0 ≤ i) : clamp i = min 0x7fffffffffffffff i := by
  unfold clamp
  omega

theorem toInt_saturatingSum (a b : Int64) :
    (saturatingSum a b).toInt = clamp (a.toInt + b.toInt) := by
  unfold saturatingSum clamp
  split
  · change -0x8000000000000000 = _
    omega
  split
  · change 0x7fffffffffffffff = _
    omega
  · rw [Int64.toInt_add, Int.bmod_eq_of_le (by omega) (by omega)]
    omega

/-- Adds powers to a total, from the first to the last. -/
def addAll (total : Int64) (vs : List Validator) : Int64 :=
  vs.foldl (fun total v => saturatingSum total v.votingPower) total

def sum (vs : List Validator) : Int := (vs.map fun v => v.votingPower.toInt).sum

def NonNegative (vs : List Validator) : Prop := ∀ v ∈ vs, 0 ≤ v.votingPower.toInt

instance (vs : List Validator) : Decidable (NonNegative vs) :=
  List.decidableBAll (fun v : Validator => 0 ≤ v.votingPower.toInt) vs

section
variable {total : Int64} {v : Validator} {vs ws : List Validator}

theorem addAll_cons : addAll total (v :: vs) = addAll (saturatingSum total v.votingPower) vs := rfl

theorem sum_cons : sum (v :: vs) = v.votingPower.toInt + sum vs := by
  rw [sum, List.map_cons, List.sum_cons]
  rfl

theorem nonNegative_cons :
    NonNegative (v :: vs) ↔ 0 ≤ v.votingPower.toInt ∧ NonNegative vs := List.forall_mem_cons

theorem NonNegative.sum_nonneg (h : NonNegative vs) : 0 ≤ sum vs := by
  induction vs with
  | nil => exact Int.le_refl 0
  | cons v vs ih =>
    obtain ⟨hv, hvs⟩ := nonNegative_cons.mp h
    have hsum := ih hvs
    rw [sum_cons]
    omega

theorem sum_perm (h : vs.Perm ws) : sum vs = sum ws :=
  (h.map fun v : Validator => v.votingPower.toInt).sum_eq

/-- Once the upper end is reached it is never left again. -/
theorem toInt_addAll_of_nonneg (ht : 0 ≤ total.toInt) (h : NonNegative vs) :
    (addAll total vs).toInt = min 0x7fffffffffffffff (total.toInt + sum vs) := by
  induction vs generalizing total with
  | nil =>
    have hhigh := (inRange_toInt total).2
    change total.toInt = min _ (total.toInt + 0)
    omega
  | cons v vs ih =>
    obtain ⟨hv, hvs⟩ := nonNegative_cons.mp h
    have hstep := toInt_saturatingSum total v.votingPower
    rw [clamp_of_nonneg (Int.add_nonneg ht hv)] at hstep
    have hsum := hvs.sum_nonneg
    rw [addAll_cons, ih (by omega) hvs, hstep, sum_cons]
    omega

/-- Nothing is lost where no prefix leaves the range. -/
theorem toInt_addAll_of_inRange
    (h : ∀ i ≤ vs.length, InRange (total.toInt + sum (vs.take i))) :
    (addAll total vs).toInt = total.toInt + sum vs := by
  induction vs generalizing total with
  | nil => exact (Int.add_zero _).symm
  | cons v vs ih =>
    have hone : InRange (total.toInt + v.votingPower.toInt) := by
      have hfirst := h 1 (Nat.le_add_left 1 vs.length)
      rw [List.take_succ_cons, List.take_zero, sum_cons] at hfirst
      exact (Int.add_zero v.votingPower.toInt) ▸ hfirst
    have hstep := toInt_saturatingSum total v.votingPower
    rw [clamp_of_inRange hone] at hstep
    rw [addAll_cons, ih, hstep, sum_cons, Int.add_assoc]
    intro i hi
    have hprefix := h (i + 1) (Nat.succ_le_succ hi)
    rwa [List.take_succ_cons, sum_cons, ← Int.add_assoc, ← hstep] at hprefix

end

end VotingPower

namespace ValidatorSet
open VotingPower

variable {s t : ValidatorSet}

/-- A set with its first validators only. -/
def first (s : ValidatorSet) (i : Nat) : ValidatorSet := ⟨s.validators.take i, s.proposer⟩

theorem totalVotingPower_eq_addAll (s : ValidatorSet) :
    s.totalVotingPower = addAll 0 s.validators := rfl

theorem toInt_totalVotingPower (h : NonNegative s.validators) :
    s.totalVotingPower.toInt = min 0x7fffffffffffffff (sum s.validators) := by
  have hzero : (0 : Int64).toInt = 0 := rfl
  rw [totalVotingPower_eq_addAll, toInt_addAll_of_nonneg (Int.le_of_eq hzero.symm) h, hzero,
    Int.zero_add]

theorem totalVotingPower_first_succ {i : Nat} {v : Validator} (h : s.validators[i]? = some v) :
    (s.first (i + 1)).totalVotingPower =
      saturatingSum (s.first i).totalVotingPower v.votingPower := by
  have htake : s.validators.take (i + 1) = s.validators.take i ++ [v] := by
    rw [List.take_add_one, h]
    rfl
  change addAll 0 (s.validators.take (i + 1)) = _
  rw [addAll, htake, List.foldl_append]
  rfl

end ValidatorSet

open VotingPower in
/-- Without negative powers the total is the exact sum or the greatest number, so that it does not
depend on the order of the validators and does not fall when one is added. In any set each validator
moves the total to the number of the range that is nearest to the exact result, and the total is the
exact sum if no prefix has a sum outside the range. -/
theorem totalVotingPower_saturates :
    (∀ s : ValidatorSet, NonNegative s.validators →
      s.totalVotingPower.toInt = min 0x7fffffffffffffff (sum s.validators)) ∧
    (∀ s t : ValidatorSet, NonNegative s.validators → s.validators.Perm t.validators →
      s.totalVotingPower = t.totalVotingPower) ∧
    (∀ (s t : ValidatorSet) (v : Validator), NonNegative t.validators →
      t.validators.Perm (v :: s.validators) → s.totalVotingPower ≤ t.totalVotingPower) ∧
    (∀ s : ValidatorSet, (s.first 0).totalVotingPower = 0 ∧
      (s.first s.size).totalVotingPower = s.totalVotingPower ∧
      ∀ i v, s.validators[i]? = some v → (s.first (i + 1)).totalVotingPower.toInt =
        clamp ((s.first i).totalVotingPower.toInt + v.votingPower.toInt)) ∧
    ∀ s : ValidatorSet, (∀ i ≤ s.size, InRange (sum (s.first i).validators)) →
      s.totalVotingPower.toInt = sum s.validators := by
  refine ⟨fun s => ValidatorSet.toInt_totalVotingPower, ?_, ?_, ?_, ?_⟩
  · intro s t h hperm
    have ht : NonNegative t.validators := fun v hv => h v (hperm.mem_iff.mpr hv)
    apply Int64.toInt_inj.mp
    rw [ValidatorSet.toInt_totalVotingPower h, ValidatorSet.toInt_totalVotingPower ht,
      sum_perm hperm]
  · intro s t v ht hperm
    have hall : NonNegative (v :: s.validators) := fun w hw => ht w (hperm.mem_iff.mpr hw)
    obtain ⟨hv, hs⟩ := nonNegative_cons.mp hall
    rw [Int64.le_iff_toInt_le, ValidatorSet.toInt_totalVotingPower hs,
      ValidatorSet.toInt_totalVotingPower ht, sum_perm hperm, sum_cons]
    omega
  · intro s
    refine ⟨rfl, ?_, fun i v hv => ?_⟩
    · change addAll 0 (s.validators.take s.validators.length) = _
      rw [List.take_length]
      rfl
    · rw [ValidatorSet.totalVotingPower_first_succ hv, toInt_saturatingSum]
  · intro s h
    have hprefixes : ∀ i ≤ s.validators.length,
        InRange ((0 : Int64).toInt + sum (s.validators.take i)) := by
      intro i hi
      have hprefix := h i hi
      rwa [← Int.zero_add (sum _)] at hprefix
    exact (toInt_addAll_of_inRange hprefixes).trans (Int.zero_add _)

namespace HalfRange

/-- Two of these powers are one more than fits. -/
def half : Int64 := 0x4000000000000000

def validator (power : Int64) : Validator := ⟨[], default, power, 0⟩

def set (powers : List Int64) : ValidatorSet := ⟨powers.map validator, none⟩

end HalfRange

open HalfRange in
/-- With powers of both signs the order matters once the range is left. -/
example : (set [half, half, -1]).totalVotingPower ≠ (set [-1, half, half]).totalVotingPower := by
  decide

open VotingPower HalfRange in
theorem totalVotingPower_saturates_of_halves :
    (NonNegative (set [half, half, 1]).validators ∧
      (set [half, half, 1]).totalVotingPower.toInt =
        min 0x7fffffffffffffff (sum (set [half, half, 1]).validators)) ∧
    (set [half, half, 1]).totalVotingPower = (set [half, 1, half]).totalVotingPower ∧
    (set [half, half]).totalVotingPower ≤ (set [half, 1, half]).totalVotingPower ∧
    ((set [half, half, -1]).first 2).totalVotingPower.toInt =
      clamp (((set [half, half, -1]).first 1).totalVotingPower.toInt + half.toInt) ∧
    (set [half, -1, half]).totalVotingPower.toInt = sum (set [half, -1, half]).validators := by
  obtain ⟨hsum, horder, hadd, hsteps, hexact⟩ := totalVotingPower_saturates
  have hhalves : NonNegative (set [half, half, 1]).validators := by decide
  refine ⟨⟨hhalves, hsum _ hhalves⟩, horder _ _ hhalves (by decide), ?_, ?_, ?_⟩
  · exact hadd _ _ (validator 1) (by decide) (by decide)
  · exact (hsteps (set [half, half, -1])).2.2 1 (validator half) rfl
  · exact hexact _ (by decide)

end ChainRollback
