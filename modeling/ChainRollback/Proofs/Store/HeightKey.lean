import ChainRollback.Proofs.Record.Exact
import ChainRollback.Proofs.Store.Tabulates
import ChainRollback.Store.Disk

/-! # Keys of heights

Every height is read back from its key, and among the heights that are not negative the keys stand
in the order of the heights. Those of negative heights come after them, in order too, so between the
keys of a height and the next only the step to zero goes down. A record filed under the key of its
height is read back exactly.
-/
namespace ChainRollback
open Std

namespace Bytes

theorem bigEndian_succ (width n : Nat) :
    bigEndian (width + 1) n = bigEndian width (n / 256) ++ [UInt8.ofNat n] := by
  simp [bigEndian, littleEndian]

theorem ofBigEndian_bigEndian (width n : Nat) :
    ofBigEndian (bigEndian width n) = n % capacity width := by
  rw [ofBigEndian, bigEndian, List.reverse_reverse, ofLittleEndian_littleEndian]

theorem bigEndian_ofBigEndian (b : Bytes) : bigEndian b.length (ofBigEndian b) = b := by
  have hlittle := littleEndian_ofLittleEndian b.reverse
  rw [List.length_reverse] at hlittle
  rw [bigEndian, ofBigEndian, hlittle, List.reverse_reverse]

theorem compare_append_singleton {xs ys : Bytes} (h : xs.length = ys.length) (a b : UInt8) :
    compare (xs ++ [a]) (ys ++ [b]) = (compare xs ys).then (compare a b) := by
  induction xs generalizing ys with
  | nil =>
    cases List.length_eq_zero_iff.mp h.symm
    simp [List.compare_cons_cons]
  | cons x xs ih =>
    cases ys with
    | nil => simp at h
    | cons y ys =>
      have ih' := ih (Nat.succ.inj h)
      simp only [List.cons_append, List.compare_cons_cons, ih', Ordering.then_assoc]

/-- The greater of two numbers of one width differs first in a greater byte. -/
theorem compare_bigEndian_of_lt {width m n : Nat} (h : m < n) (hn : n < capacity width) :
    compare (bigEndian width m) (bigEndian width n) = .lt := by
  induction width generalizing m n with
  | zero =>
    have hone : capacity 0 = 1 := rfl
    omega
  | succ width ih =>
    rw [capacity_succ] at hn
    rw [bigEndian_succ, bigEndian_succ, compare_append_singleton (by simp)]
    by_cases hq : m / 256 < n / 256
    · rw [ih hq (by omega)]
      rfl
    · have heq : m / 256 = n / 256 := by omega
      have hself : compare (bigEndian width (n / 256)) (bigEndian width (n / 256)) = .eq :=
        ReflCmp.compare_self
      have hlow : UInt8.ofNat m < UInt8.ofNat n := by
        rw [UInt8.lt_iff_toNat_lt, UInt8.toNat_ofNat', UInt8.toNat_ofNat']
        omega
      rw [heq, hself]
      exact compare_eq_lt.mpr hlow

end Bytes

namespace Height

theorem ofKey_toBytes (h : Height) : ofKey h.toBytes = .ok h := by
  have hlt : h.toUInt64.toNat < Bytes.capacity 8 := h.toUInt64.toNat_lt
  unfold ofKey toBytes
  rw [if_pos (Bytes.bigEndian_length 8 _), Bytes.ofBigEndian_bigEndian, Nat.mod_eq_of_lt hlt,
    UInt64.ofNat_toNat, Int64.toInt64_toUInt64]

/-- A key stands for a height only if it is the key of the height. -/
theorem ofKey_eq_ok {key : Bytes} {h : Height} : ofKey key = .ok h ↔ key = h.toBytes := by
  constructor
  · intro hk
    unfold ofKey at hk
    split at hk
    · rename_i hlen
      cases hk
      have hlt : Bytes.ofBigEndian key < 2 ^ 64 := by
        have hcapacity := Bytes.ofLittleEndian_lt key.reverse
        rwa [List.length_reverse, hlen] at hcapacity
      have hnat : (UInt64.ofNat (Bytes.ofBigEndian key)).toNat = Bytes.ofBigEndian key :=
        UInt64.toNat_ofNat_of_lt hlt
      rw [toBytes, UInt64.toUInt64_toInt64, hnat]
      have hkey := Bytes.bigEndian_ofBigEndian key
      rw [hlen] at hkey
      exact hkey.symm
    · cases hk
  · rintro rfl
    exact ofKey_toBytes h

theorem toBytes_injective : Function.Injective toBytes := by
  intro a b h
  have he := ofKey_toBytes a
  rw [h, ofKey_toBytes] at he
  exact (Except.ok.inj he).symm

/-- The number that a key spells. -/
theorem toUInt64_toNat (h : Height) : (h.toUInt64.toNat : Int) =
    if 0 ≤ h.toInt then h.toInt else h.toInt + 0x10000000000000000 := by
  have hcond := BitVec.toInt_eq_toNat_cond h.toBitVec
  have hlt : h.toUInt64.toNat < 2 ^ 64 := h.toBitVec.isLt
  have hnat : h.toBitVec.toNat = h.toUInt64.toNat := rfl
  rw [Int64.toInt_toBitVec, hnat] at hcond
  split at hcond <;> split <;> omega

theorem toUInt64_toNat_of_nonneg {h : Height} (hh : 0 ≤ h.toInt) :
    (h.toUInt64.toNat : Int) = h.toInt := by
  rw [toUInt64_toNat, if_pos hh]

theorem compare_toBytes_of_lt {a b : Height} (ha : 0 ≤ a.toInt) (h : a.toInt < b.toInt) :
    compare a.toBytes b.toBytes = .lt := by
  refine Bytes.compare_bigEndian_of_lt ?_ b.toUInt64.toNat_lt
  have h1 := toUInt64_toNat_of_nonneg ha
  have h2 := toUInt64_toNat_of_nonneg (h := b) (by omega)
  omega

/-- The key of the next height is greater, unless it is that of zero. -/
theorem compare_toBytes_of_succ {a b : Height} (h : b.toInt = a.toInt + 1) (hb : b ≠ 0) :
    compare a.toBytes b.toBytes = .lt := by
  refine Bytes.compare_bigEndian_of_lt ?_ b.toUInt64.toNat_lt
  have h1 := toUInt64_toNat a
  have h2 := toUInt64_toNat b
  have hne : b.toInt ≠ 0 := fun he => hb (Int64.toInt_inj.mp he)
  split at h1 <;> split at h2 <;> omega

/-- The key of zero is the least of all. -/
theorem compare_toBytes_zero {h : Height} (hne : h ≠ 0) :
    compare (0 : Height).toBytes h.toBytes = .lt := by
  refine Bytes.compare_bigEndian_of_lt ?_ h.toUInt64.toNat_lt
  have hnat := toUInt64_toNat h
  have hzero : (0 : Height).toUInt64.toNat = 0 := rfl
  have hint : h.toInt ≠ 0 := fun he => hne (Int64.toInt_inj.mp he)
  have hlow := Int64.le_toInt h
  split at hnat <;> omega

end Height

theorem Codec.Exact.fromDisk_encode {α : Type} {c : Codec α} {fits : α → Prop} (hc : c.Exact fits)
    {v : α} (hv : fits v) : c.fromDisk (c.encode v) = .ok v := by
  rw [Codec.fromDisk, hc.read_encode hv]
  rfl

theorem Codec.Exact.recordAt_of_find? {α : Type} {c : Codec α} {fits : α → Prop} (hc : c.Exact fits)
    {t : Table} {h : Height} {v : α} (hv : fits v) (hf : t.find? h.toBytes = some (c.encode v)) :
    t.recordAt c h = .ok (some v) := by
  unfold Table.recordAt
  simp only [hf, hc.fromDisk_encode hv]
  rfl

/-- A record that was filed is read back. -/
theorem Tabulates.recordAt_eq {α : Type} {c : Codec α} {fits : α → Prop} {t : Table}
    {f : Height → Option α} (ht : Tabulates Height.toBytes c.encode t f) (hc : c.Exact fits)
    (hf : ∀ h v, f h = some v → fits v) (h : Height) : t.recordAt c h = .ok (f h) := by
  have hfind := ht h
  cases hv : f h with
  | none =>
    rw [hv] at hfind
    simp only [Table.recordAt, hfind, Option.map_none]
  | some v =>
    rw [hv] at hfind
    exact hc.recordAt_of_find? (hf h v hv) hfind

end ChainRollback
