import ChainRollback.Proofs.Store.Built
import ChainRollback.Proofs.Store.Entries

/-! # Appends on disk at any height

A store on disk finds its ends by the order of its keys. That is the order of the heights except
between the negative ones and the others: the key of zero is the least of all. So the rule that a
block extends the store by one height, and becomes its end, holds at every tip but two. Nothing can
be appended at the greatest height, where looking for the next one overflows, and above minus one
the block at zero is accepted at the wrong end.
-/
namespace ChainRollback
open Std

namespace DiskBlockStore

variable {d d' : DiskBlockStore} {b : BlockMeta} {tip : Height}

/-- Every block is filed under the key of some height. -/
def HasHeightKeys (d : DiskBlockStore) : Prop :=
  ∀ key record, d.metas.find? key = some record → ∃ h : Height, key = h.toBytes

theorem metas_put (d : DiskBlockStore) (b : BlockMeta) :
    (d.put b).metas = d.metas.insert b.height.toBytes (BlockMeta.codec.encode b) := by
  rw [metas, put, Environment.put, Environment.table_set_self]
  rfl

theorem HasHeightKeys.put (hd : d.HasHeightKeys) (b : BlockMeta) : (d.put b).HasHeightKeys := by
  intro key record hf
  by_cases hk : key = b.height.toBytes
  · exact ⟨b.height, hk⟩
  · rw [metas_put, OrderedMap.find?_insert_of_ne _ _ hk] at hf
    exact hd key record hf

theorem HasHeightKeys.deleteLatest (hd : d.HasHeightKeys) (h : d.deleteLatest = .ok d') :
    d'.HasHeightKeys := by
  obtain ⟨tip, -, hmetas⟩ := deleteLatest_eq_ok h
  intro key record hf
  rw [hmetas, OrderedMap.find?_erase] at hf
  split at hf
  · cases hf
  · exact hd key record hf

theorem HasHeightKeys.openIn {e : Environment} (hd : HasHeightKeys ⟨e⟩) (h : openIn e = .ok d) :
    d.HasHeightKeys := by
  have hmetas : d.metas = (⟨e⟩ : DiskBlockStore).metas := table_of_openIn h (by decide)
  intro key record hf
  rw [hmetas] at hf
  exact hd key record hf

/-- The store holds blocks, and `tip` is the height that it reports. -/
def HasTip (d : DiskBlockStore) (tip : Height) : Prop := d.metas ≠ ∅ ∧ d.height = .ok tip

theorem hasTip_iff : d.HasTip tip ↔ ∃ record, d.metas.last? = some (tip.toBytes, record) := by
  rw [HasTip, height_eq_ok, Ne, ← OrderedMap.last?_eq_none]
  constructor
  · rintro ⟨hne, ⟨hnone, -⟩ | hlast⟩
    · exact absurd hnone hne
    · exact hlast
  · rintro ⟨record, hlast⟩
    refine ⟨fun hnone => ?_, .inr ⟨record, hlast⟩⟩
    rw [hlast] at hnone
    cases hnone

theorem HasTip.unique {tip' : Height} (h : d.HasTip tip) (h' : d.HasTip tip') : tip = tip' :=
  Except.ok.inj (h.2.symm.trans h'.2)

theorem HasHeightKeys.exists_hasTip (hd : d.HasHeightKeys) (hne : d.metas ≠ ∅) :
    ∃ tip, d.HasTip tip := by
  cases hlast : d.metas.last? with
  | none => exact absurd (OrderedMap.last?_eq_none.mp hlast) hne
  | some binding =>
    obtain ⟨key, record⟩ := binding
    obtain ⟨tip, rfl⟩ := hd key record (OrderedMap.find?_of_last? hlast)
    exact ⟨tip, hasTip_iff.mpr ⟨record, hlast⟩⟩

theorem height_of_empty (hd : d.metas = ∅) : d.height = .ok 0 :=
  height_eq_ok.mpr (.inl ⟨OrderedMap.last?_eq_none.mpr hd, rfl⟩)

theorem append_of_empty (hd : d.metas = ∅) (b : BlockMeta) : d.append b = .ok (d.put b) := by
  unfold append
  rw [OrderedMap.last?_eq_none.mpr hd]

theorem append_of_succ (hd : d.HasTip tip) (hb : b.height.toInt = tip.toInt + 1) :
    d.append b = .ok (d.put b) := by
  obtain ⟨record, hlast⟩ := hasTip_iff.mp hd
  have hnext : tip.plus 1 = .ok b.height := Height.plus_eq_ok.mpr hb
  simp only [append, hlast, Height.ofKey_toBytes, hnext, mapError_ok, bind, Except.bind, if_true]
  rfl

theorem append_of_gap (hd : d.HasTip tip) (hmax : tip ≠ Int64.maxValue)
    (hb : b.height.toInt ≠ tip.toInt + 1) :
    d.append b = .error (.error (.nonContiguous tip b.height)) := by
  obtain ⟨record, hlast⟩ := hasTip_iff.mp hd
  have hlow := Int64.le_toInt tip
  have hhigh := Int64.toInt_lt tip
  have hne : tip.toInt ≠ 0x7fffffffffffffff := fun he => hmax (Int64.toInt_inj.mp he)
  obtain ⟨next, hnext⟩ := Height.exists_toInt_eq (i := tip.toInt + 1) (by omega) (by omega)
  have hplus : tip.plus 1 = .ok next := Height.plus_eq_ok.mpr hnext
  have hgap : b.height ≠ next := fun he => hb (he ▸ hnext)
  simp only [append, hlast, Height.ofKey_toBytes, hplus, mapError_ok, bind, Except.bind,
    if_neg hgap]
  rfl

/-- The greatest height has no next one, whatever block is offered. -/
theorem append_of_maxValue (hd : d.HasTip Int64.maxValue) (b : BlockMeta) :
    d.append b = .error (.overflow .add) := by
  obtain ⟨record, hlast⟩ := hasTip_iff.mp hd
  have hplus : Height.plus Int64.maxValue 1 = .error .add := rfl
  simp only [append, hlast, Height.ofKey_toBytes, hplus, mapError_ok, mapError_error, bind,
    Except.bind]

theorem loadMeta_put_self (d : DiskBlockStore) (hb : b.Fits) :
    BlockStore.loadMeta (d.put b) b.height = .ok (some b) := by
  refine BlockMeta.codec_exact.recordAt_of_find? hb ?_
  rw [metas_put, OrderedMap.find?_insert_self]

theorem loadMeta_put_of_ne {h : Height} (hne : h ≠ b.height) :
    BlockStore.loadMeta (d.put b) h = BlockStore.loadMeta d h := by
  have hkey : h.toBytes ≠ b.height.toBytes := fun he => hne (Height.toBytes_injective he)
  change Table.recordAt (d.put b).metas BlockMeta.codec h = Table.recordAt d.metas BlockMeta.codec h
  unfold Table.recordAt
  rw [metas_put, OrderedMap.find?_insert_of_ne _ _ hkey]

/-- The later store is the earlier one with a block at its end. -/
structure Extends (d : DiskBlockStore) (b : BlockMeta) (d' : DiskBlockStore) : Prop where
  height : d'.height = .ok b.height
  base : d'.base = if d.metas = ∅ then .ok b.height else d.base
  loads : BlockStore.loadMeta d' b.height = .ok (some b)
  earlier : ∀ h a, BlockStore.loadMeta d h = .ok (some a) →
    BlockStore.loadMeta d' h = .ok (some a)

theorem extends_put_of_empty (hd : d.metas = ∅) (hb : b.Fits) : d.Extends b (d.put b) := by
  have hentries : (d.put b).metas.entries =
      [(b.height.toBytes, BlockMeta.codec.encode b)] := by
    rw [metas_put, hd]
    rfl
  refine ⟨?_, ?_, loadMeta_put_self d hb, fun h a ha => ?_⟩
  · refine height_eq_ok.mpr (.inr ⟨BlockMeta.codec.encode b, ?_⟩)
    rw [OrderedMap.last?, hentries]
    rfl
  · rw [if_pos hd, base, OrderedMap.first?, hentries]
    exact Height.ofKey_toBytes b.height
  · obtain ⟨record, hrecord⟩ := exists_record_of_loadMeta ha
    rw [hd] at hrecord
    cases hrecord

/-- Unless the next height is zero, its block comes after all others. -/
theorem extends_put_of_succ (hd : d.HasTip tip) (hb : b.Fits)
    (hnext : b.height.toInt = tip.toInt + 1) (hne : b.height ≠ 0) : d.Extends b (d.put b) := by
  obtain ⟨record, hlast⟩ := hasTip_iff.mp hd
  have habove := Height.compare_toBytes_of_succ hnext hne
  have hentries : (d.put b).metas.entries =
      d.metas.entries ++ [(b.height.toBytes, BlockMeta.codec.encode b)] := by
    rw [metas_put]
    exact OrderedMap.entries_insert_of_last? _ hlast habove
  obtain ⟨first, rest, hfirst⟩ :=
    List.exists_cons_of_ne_nil (List.ne_nil_of_mem (List.mem_of_getLast? hlast))
  refine ⟨?_, ?_, loadMeta_put_self d hb, fun h a ha => ?_⟩
  · refine height_eq_ok.mpr (.inr ⟨BlockMeta.codec.encode b, ?_⟩)
    rw [OrderedMap.last?, hentries]
    exact List.getLast?_concat
  · rw [if_neg hd.1, base, base, OrderedMap.first?, OrderedMap.first?, hentries, hfirst]
    rfl
  · obtain ⟨old, hold⟩ := exists_record_of_loadMeta ha
    -- The keys held so far are at most that of the tip.
    have hother : h ≠ b.height := by
      rintro rfl
      have hkey : b.height.toBytes ≠ tip.toBytes := fun he => by
        have hself : compare tip.toBytes tip.toBytes = .eq := ReflCmp.compare_self
        rw [he, hself] at habove
        cases habove
      have hbelow := OrderedMap.compare_lt_of_last? hlast hold hkey
      rw [OrientedCmp.gt_of_lt habove] at hbelow
      cases hbelow
    rw [loadMeta_put_of_ne hother]
    exact ha

/-- Above minus one the block at zero comes before all others, so the height stays. -/
theorem put_zero_of_hasTip (hd : d.HasHeightKeys) (htip : d.HasTip (-1)) (hzero : b.height = 0) :
    (d.put b).height = .ok (-1) ∧ (d.put b).base = .ok 0 := by
  obtain ⟨record, hlast⟩ := hasTip_iff.mp htip
  constructor
  · refine height_eq_ok.mpr (.inr ⟨record, ?_⟩)
    rw [metas_put, hzero]
    exact OrderedMap.last?_insert_of_lt _ hlast (Height.compare_toBytes_zero (by decide))
  · have hheld : (d.put b).metas.find? (0 : Height).toBytes = some (BlockMeta.codec.encode b) := by
      rw [metas_put, hzero, OrderedMap.find?_insert_self]
    have hleast : ∀ key record, (d.put b).metas.find? key = some record →
        key ≠ (0 : Height).toBytes → compare (0 : Height).toBytes key = .lt := by
      intro key record hf hne
      obtain ⟨h, rfl⟩ := hd.put b key record hf
      exact Height.compare_toBytes_zero fun he => hne (congrArg Height.toBytes he)
    rw [base, OrderedMap.first?_of_least hheld hleast]
    exact Height.ofKey_toBytes 0

/-- An append follows the numbers: it is accepted by an empty store and at one above the height of
any other, and then extends the store. Otherwise it is refused and changes nothing. -/
def AppendsByNumber (d : DiskBlockStore) (b : BlockMeta) : Prop :=
  ∃ tip, d.height = .ok tip ∧
    if d.metas = ∅ ∨ b.height.toInt = tip.toInt + 1 then
      ∃ d', settle d (d.append b) = (.ok (), d') ∧ d.Extends b d'
    else settle d (d.append b) = (.error (.error (.nonContiguous tip b.height)), d)

theorem appendsByNumber_of_empty (hd : d.metas = ∅) (hb : b.Fits) : d.AppendsByNumber b := by
  refine ⟨0, height_of_empty hd, ?_⟩
  rw [if_pos (.inl hd), append_of_empty hd]
  exact ⟨_, rfl, extends_put_of_empty hd hb⟩

theorem appendsByNumber_of_hasTip (hd : d.HasTip tip) (hmax : tip ≠ Int64.maxValue) (hb : b.Fits)
    (hzero : ¬(tip = -1 ∧ b.height = 0)) : d.AppendsByNumber b := by
  refine ⟨tip, hd.2, ?_⟩
  by_cases hnext : b.height.toInt = tip.toInt + 1
  · have hne : b.height ≠ 0 := fun he => by
      rw [he] at hnext
      have hlow : tip.toInt = (-1 : Height).toInt := by
        change 0 = tip.toInt + 1 at hnext
        change tip.toInt = -1
        omega
      exact hzero ⟨Int64.toInt_inj.mp hlow, he⟩
    rw [if_pos (.inr hnext), append_of_succ hd hnext]
    exact ⟨_, rfl, extends_put_of_succ hd hb hnext hne⟩
  · have hcond : ¬(d.metas = ∅ ∨ b.height.toInt = tip.toInt + 1) := not_or.mpr ⟨hd.1, hnext⟩
    rw [if_neg hcond, append_of_gap hd hmax hnext]
    rfl

theorem not_appendsByNumber_of_maxValue (hd : d.HasTip Int64.maxValue) (b : BlockMeta) :
    ¬d.AppendsByNumber b := by
  rintro ⟨tip, htip, h⟩
  rw [append_of_maxValue hd] at h
  split at h
  · obtain ⟨d', hd', -⟩ := h
    cases hd'
  · cases h

theorem not_appendsByNumber_zero (hd : d.HasHeightKeys) (htip : d.HasTip (-1))
    (hzero : b.height = 0) : ¬d.AppendsByNumber b := by
  rintro ⟨tip, htip', h⟩
  have hsame : tip = -1 := HasTip.unique ⟨htip.1, htip'⟩ htip
  have hnext : b.height.toInt = (-1 : Height).toInt + 1 := by
    rw [hzero]
    rfl
  rw [hsame, if_pos (.inr hnext), append_of_succ htip hnext] at h
  obtain ⟨d', hd', hextends⟩ := h
  cases hd'
  have hheight := hextends.height
  rw [(put_zero_of_hasTip hd htip hzero).1, hzero, Except.ok.injEq] at hheight
  exact absurd hheight (by decide)

end DiskBlockStore

/-- Whatever heights its blocks have, a store on disk files them under keys of heights. -/
theorem BuiltBlocks.hasHeightKeys {allowed : Height → Prop} {d : DiskBlockStore}
    (h : BuiltBlocks allowed (.inr d)) : d.HasHeightKeys := by
  suffices hall : ∀ s, BuiltBlocks allowed s → ∀ d, s = .inr d → d.HasHeightKeys from
    hall _ h d rfl
  intro s hs
  induction hs with
  | memory => rintro _ ⟨⟩
  | disk ho =>
    rintro _ ⟨⟩
    have hempty : DiskBlockStore.HasHeightKeys ⟨.empty⟩ := fun _ _ hf => (by cases hf)
    exact hempty.openIn ho
  | @append s s' b _ _ _ ha ih =>
    rintro d' rfl
    cases s with
    | inl m =>
      obtain ⟨_, -, he⟩ := map_eq_ok.mp ha
      cases he
    | inr d =>
      obtain ⟨d₁, hd, he⟩ := map_eq_ok.mp ha
      cases he
      rw [DiskBlockStore.eq_put_of_append hd]
      exact (ih d rfl).put b
  | @deleteLatest s s' _ ha ih =>
    rintro d' rfl
    cases s with
    | inl m =>
      obtain ⟨_, -, he⟩ := map_eq_ok.mp ha
      cases he
    | inr d =>
      obtain ⟨d₁, hd, he⟩ := map_eq_ok.mp ha
      cases he
      exact (ih d rfl).deleteLatest hd
  | forget => rintro _ ⟨⟩
  | reopen _ ho ih =>
    rintro _ ⟨⟩
    exact (ih _ rfl).openIn ho

open DiskBlockStore

/-- A store on disk appends by number exactly if it does not end at the greatest height and does not
take the block at zero above minus one. At the greatest height every append overflows. Above minus
one the block at zero is accepted, and the height stays while the base becomes zero. -/
theorem appendsByNumber_iff {d : DiskBlockStore} (hd : BuiltBlocks (fun _ => True) (.inr d))
    {b : BlockMeta} (hb : b.Fits) :
    (d.AppendsByNumber b ↔ ¬d.HasTip Int64.maxValue ∧ ¬(d.HasTip (-1) ∧ b.height = 0)) ∧
    (d.HasTip Int64.maxValue → settle d (d.append b) = (.error (.overflow .add), d)) ∧
    (d.HasTip (-1) → b.height = 0 → ∃ d', settle d (d.append b) = (.ok (), d') ∧
      d'.height = .ok (-1) ∧ d'.base = .ok 0) := by
  have hkeys := hd.hasHeightKeys
  refine ⟨⟨fun h => ⟨fun hmax => ?_, fun hzero => ?_⟩, fun h => ?_⟩, fun hmax => ?_,
    fun htip hzero => ?_⟩
  · exact not_appendsByNumber_of_maxValue hmax b h
  · exact not_appendsByNumber_zero hkeys hzero.1 hzero.2 h
  · by_cases hempty : d.metas = ∅
    · exact appendsByNumber_of_empty hempty hb
    · obtain ⟨tip, htip⟩ := hkeys.exists_hasTip hempty
      refine appendsByNumber_of_hasTip htip (fun he => h.1 (he ▸ htip)) hb fun hzero => ?_
      exact h.2 ⟨hzero.1 ▸ htip, hzero.2⟩
  · rw [append_of_maxValue hmax]
    rfl
  · have hnext : b.height.toInt = (-1 : Height).toInt + 1 := by
      rw [hzero]
      rfl
    rw [append_of_succ htip hnext]
    exact ⟨_, rfl, put_zero_of_hasTip hkeys htip hzero⟩

/-- A new store on disk that has taken one block. -/
def oneBlock (h : Height) : DiskBlockStore :=
  put ⟨(Environment.empty.put .layout Environment.schemaKey Environment.schemaBytes).create
    .blockMetas⟩ (TwoBlocks.block h)

theorem built_oneBlock (h : Height) : BuiltBlocks (fun _ => True) (.inr (oneBlock h)) :=
  .append (b := TwoBlocks.block h) (.disk rfl) trivial (TwoBlocks.block_fits h) rfl

/-- The block at zero is not appended by number to a store that holds minus one. -/
theorem appendsByNumber_iff_of_minus_one : (oneBlock (-1)).HasTip (-1) ∧
    ((oneBlock (-1)).AppendsByNumber (TwoBlocks.block 0) ↔ ¬(oneBlock (-1)).HasTip Int64.maxValue ∧
      ¬((oneBlock (-1)).HasTip (-1) ∧ (TwoBlocks.block 0).height = 0)) ∧
    ∃ d', settle (oneBlock (-1)) ((oneBlock (-1)).append (TwoBlocks.block 0)) = (.ok (), d') ∧
      d'.height = .ok (-1) ∧ d'.base = .ok 0 := by
  have htip : (oneBlock (-1)).HasTip (-1) := hasTip_iff.mpr ⟨_, rfl⟩
  obtain ⟨hiff, -, hzero⟩ := appendsByNumber_iff (built_oneBlock (-1)) (TwoBlocks.block_fits 0)
  exact ⟨htip, hiff, hzero htip rfl⟩

/-- After minus one a block at zero is accepted without becoming the end of the store, and after the
greatest height any block overflows. -/
theorem not_appendsByNumber_at_ends :
    BuiltBlocks (fun _ => True) (.inr (oneBlock (-1))) ∧
    (∃ d', (oneBlock (-1)).append (TwoBlocks.block 0) = .ok d' ∧
      d'.height = .ok (-1) ∧ d'.base = .ok 0) ∧
    BuiltBlocks (fun _ => True) (.inr (oneBlock Int64.maxValue)) ∧
    (oneBlock Int64.maxValue).append (TwoBlocks.block 5) = .error (.overflow .add) :=
  ⟨built_oneBlock _, ⟨_, rfl, rfl, rfl⟩, built_oneBlock _, rfl⟩

end ChainRollback
