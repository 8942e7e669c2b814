import ChainRollback.Proofs.Record.PrefixCode
import ChainRollback.Proofs.Store.FiledBlocks
import ChainRollback.Proofs.Store.Saved

/-! # Entries on disk

What the writes of a node do to tables of which nothing is known. A save writes the entries of its
state and a deletion erases the greatest key, and all other entries of all tables stay as they are.
What is read from such tables fits its record, so a state made of it is read back once it is saved.
-/
namespace ChainRollback
open Std Codec

/-- The entries that saving a state writes. -/
inductive State.WritesEntry (s : State) : TableName → Bytes → Prop where
  | latest : WritesEntry s .state DiskStateStore.stateKey
  | params {h : Height} (hh : h.toInt = s.lastBlockHeight.toInt + 1) :
    WritesEntry s .consensusParams h.toBytes
  | nextValidators {h : Height} (hh : h.toInt = s.lastBlockHeight.toInt + 2) :
    WritesEntry s .validators h.toBytes
  | firstValidators {h : Height} (hh : h.toInt = s.lastBlockHeight.toInt + 1)
    (hi : h = s.initialHeight) : WritesEntry s .validators h.toBytes

/-- A table of records is as it was under every key that is not that of a new record. -/
theorem Refiled.find?_of_not_key {ι κ α γ : Type} [Ord κ] {key : ι → κ} {value : α → γ}
    {m m' : OrderedMap κ γ} {new : ι → Option α} (h : Refiled key value m new m') {k : κ}
    (hk : ∀ i, (new i).isSome → k ≠ key i) : m'.find? k = m.find? k :=
  h.find?_old k fun i _ hi => hk i (hi ▸ rfl)

theorem State.writesEntry_validators {s : State} {h : Height} (hs : (s.recordedSet h).isSome) :
    s.WritesEntry .validators h.toBytes := by
  unfold recordedSet at hs
  split at hs
  · rename_i hh
    exact .nextValidators hh
  · split at hs
    · rename_i hh
      exact .firstValidators hh.1 hh.2
    · cases hs

theorem State.writesEntry_params {s : State} {h : Height} (hs : (s.recordedParams h).isSome) :
    s.WritesEntry .consensusParams h.toBytes := by
  unfold recordedParams at hs
  split at hs
  · rename_i hh
    exact .params hh
  · cases hs

namespace DiskStateStore

variable {d d' : DiskStateStore} {s : State}

/-- The later store is the earlier one with a state and its records saved in it, and no other entry
of any table differs. -/
structure SavesOnly (d : DiskStateStore) (s : State) (d' : DiskStateStore) : Prop where
  recorded : d.Recorded s d'
  others : ∀ name key, ¬s.WritesEntry name key →
    (d'.env.table name).find? key = (d.env.table name).find? key

theorem Recorded.savesOnly (hr : d.Recorded s d') : d.SavesOnly s d' := by
  refine ⟨hr, fun name key hkey => ?_⟩
  cases name with
  | layout => rw [hr.layout]
  | blockMetas => rw [hr.blockMetas]
  | state => exact hr.state.find?_of_not_key fun _ _ he => hkey (he ▸ .latest)
  | validators =>
    exact hr.validators.find?_of_not_key fun _ hi he => hkey (he ▸ State.writesEntry_validators hi)
  | consensusParams =>
    exact hr.params.find?_of_not_key fun _ hi he => hkey (he ▸ State.writesEntry_params hi)

theorem Recorded.load_eq (hr : d.Recorded s d') (hs : s.Fits) :
    StateStore.load d' = .ok (some s) := by
  have hstate := hr.state.find?_new () s rfl
  change DiskStateStore.load d' = _
  unfold DiskStateStore.load
  simp only [hstate, State.codec_exact.fromDisk_encode hs]
  rfl

theorem fits_of_load (h : StateStore.load d = .ok (some s)) : s.Fits := by
  change DiskStateStore.load d = _ at h
  unfold DiskStateStore.load at h
  split at h
  · obtain ⟨t, ht, he⟩ := map_eq_ok.mp h
    exact Option.some.inj he ▸ (State.codec_exact.fromDisk_eq_ok.mp ht).1
  · cases h

theorem fits_of_loadValidators {h : Height} {set : ValidatorSet}
    (hl : StateStore.loadValidators d h = .ok set) : set.Fits := by
  obtain ⟨o, ho, hset⟩ := bind_eq_ok.mp hl
  cases o with
  | none => simp at hset
  | some v =>
    cases hset
    exact ValidatorSet.codec_exact.fits_of_recordAt ho

theorem fits_of_loadParams {h : Height} {p : ConsensusParams}
    (hl : StateStore.loadParams d h = .ok p) : p.Fits := by
  obtain ⟨o, ho, hp⟩ := bind_eq_ok.mp hl
  cases o with
  | none => simp at hp
  | some v =>
    cases hp
    exact ConsensusParams.codec_exact.fits_of_recordAt ho

end DiskStateStore

namespace DiskBlockStore

variable {d d' : DiskBlockStore} {tip : Height}

theorem fits_of_loadMeta {h : Height} {b : BlockMeta}
    (hl : BlockStore.loadMeta d h = .ok (some b)) : b.Fits :=
  BlockMeta.codec_exact.fits_of_recordAt hl

theorem exists_record_of_loadMeta {h : Height} {b : BlockMeta}
    (hl : BlockStore.loadMeta d h = .ok (some b)) : ∃ record, d.metas.find? h.toBytes = some record := by
  change Table.recordAt d.metas BlockMeta.codec h = _ at hl
  unfold Table.recordAt at hl
  split at hl
  · rename_i record hrecord
    exact ⟨record, hrecord⟩
  · cases hl

/-- The later store is the earlier one without the binding of its greatest key, which is the key of
its height, and no other entry of any table differs. -/
structure ErasesGreatest (d : DiskBlockStore) (tip : Height) (d' : DiskBlockStore) : Prop where
  height : BlockStore.height d = .ok tip
  held : ∃ record, d.metas.find? tip.toBytes = some record
  greatest : ∀ key record, d.metas.find? key = some record → key ≠ tip.toBytes →
    compare key tip.toBytes = .lt
  erased : d'.metas.find? tip.toBytes = none
  others : ∀ name key, ¬(name = .blockMetas ∧ key = tip.toBytes) →
    (d'.env.table name).find? key = (d.env.table name).find? key

theorem erasesGreatest_of_last? {record : Bytes}
    (h : d.metas.last? = some (tip.toBytes, record)) :
    d.ErasesGreatest tip ⟨d.env.remove .blockMetas tip.toBytes⟩ := by
  refine ⟨height_eq_ok.mpr (.inr ⟨record, h⟩), ⟨record, OrderedMap.find?_of_last? h⟩,
    fun key record' hf hne => OrderedMap.compare_lt_of_last? h hf hne, ?_, fun name key hne => ?_⟩
  · rw [metas, Environment.remove, Environment.table_set_self, OrderedMap.find?_erase,
      if_pos ReflCmp.compare_self]
  · rw [Environment.remove]
    by_cases hname : name = .blockMetas
    · subst hname
      have hkey : compare key tip.toBytes ≠ .eq := fun he =>
        hne ⟨rfl, LawfulEqCmp.eq_of_compare he⟩
      rw [Environment.table_set_self, OrderedMap.find?_erase, if_neg hkey]
    · rw [Environment.table_set_of_ne _ _ hname]

theorem ErasesGreatest.of_deleteLatest (h : BlockStore.deleteLatest d = .ok d') :
    ∃ tip, d.ErasesGreatest tip d' := by
  obtain ⟨tip, record, hlast, rfl⟩ := deleteLatest_eq_ok_iff.mp h
  exact ⟨tip, erasesGreatest_of_last? hlast⟩

/-- A store whose height can be read and that holds any record can delete its latest block. -/
theorem exists_deleteLatest (h : BlockStore.height d = .ok tip) {key record : Bytes}
    (hf : d.metas.find? key = some record) : ∃ d', BlockStore.deleteLatest d = .ok d' := by
  obtain ⟨last, value, hlast⟩ := OrderedMap.exists_last? hf
  rcases height_eq_ok.mp h with ⟨hnone, -⟩ | ⟨record', hlast'⟩
  · rw [hnone] at hlast
    cases hlast
  · exact ⟨_, deleteLatest_eq_ok_iff.mpr ⟨tip, record', hlast', rfl⟩⟩

end DiskBlockStore
end ChainRollback
