import ChainRollback.Proofs.Store.BlockContents
import ChainRollback.Proofs.Store.StateContents
import ChainRollback.Rollback.Run

/-! # Stores built by their own operations

A store that came about from an empty one by its own operations, in any order, keeps contents: a
state store the functions that its reads follow, a block store the blocks at their own heights
and, above height zero, two ends.
-/
namespace ChainRollback

/-- The state stores that saves, single records and, on disk, reopening lead to. -/
inductive BuiltStates : AnyStateStore → Prop where
  | memory : BuiltStates (.inl {})
  | disk {d : DiskStateStore} (h : DiskStateStore.openIn .empty = .ok d) : BuiltStates (.inr d)
  | save {a a' : AnyStateStore} {s : State} (ha : BuiltStates a) (hf : s.Fits)
    (h : StateStore.save a s = .ok a') : BuiltStates a'
  | putValidators {a : AnyStateStore} {set : ValidatorSet} (ha : BuiltStates a) (h : Height)
    (hf : set.Fits) : BuiltStates (StateHistory.putValidators a h set)
  | putParams {a : AnyStateStore} {p : ConsensusParams} (ha : BuiltStates a) (h : Height)
    (hf : p.Fits) : BuiltStates (StateHistory.putParams a h p)
  | putState {m : MemoryStateStore} {s : State} (hm : BuiltStates (.inl m)) (hf : s.Fits) :
    BuiltStates (.inl (m.putState s))
  | removeValidators {m : MemoryStateStore} (hm : BuiltStates (.inl m)) (h : Height) :
    BuiltStates (.inl (m.removeValidators h))
  | removeParams {m : MemoryStateStore} (hm : BuiltStates (.inl m)) (h : Height) :
    BuiltStates (.inl (m.removeParams h))
  | reopen {d d' : DiskStateStore} (hd : BuiltStates (.inr d))
    (h : DiskStateStore.openIn d.env = .ok d') : BuiltStates (.inr d')

/-- The block stores that appends of blocks at the allowed heights, deletions and, on disk,
reopening lead to. A store in memory can be made to forget a record. -/
inductive BuiltBlocks (allowed : Height → Prop) : AnyBlockStore → Prop where
  | memory : BuiltBlocks allowed (.inl {})
  | disk {d : DiskBlockStore} (h : DiskBlockStore.openIn .empty = .ok d) :
    BuiltBlocks allowed (.inr d)
  | append {s s' : AnyBlockStore} {b : BlockMeta} (hs : BuiltBlocks allowed s)
    (hb : allowed b.height) (hf : b.Fits) (h : BlockLog.append s b = .ok s') :
    BuiltBlocks allowed s'
  | deleteLatest {s s' : AnyBlockStore} (hs : BuiltBlocks allowed s)
    (h : BlockStore.deleteLatest s = .ok s') : BuiltBlocks allowed s'
  | forget {m : MemoryBlockStore} (hm : BuiltBlocks allowed (.inl m)) (h : Height) :
    BuiltBlocks allowed (.inl (m.forget h))
  | reopen {d d' : DiskBlockStore} (hd : BuiltBlocks allowed (.inr d))
    (h : DiskBlockStore.openIn d.env = .ok d') : BuiltBlocks allowed (.inr d')

/-- The heights of blocks of a chain. -/
def Height.IsPositive (h : Height) : Prop := 1 ≤ h.toInt

instance (h : Height) : Decidable h.IsPositive := inferInstanceAs (Decidable (1 ≤ h.toInt))

namespace Environment

variable {e e' : Environment}

/-- The check of the layout leaves all other tables as they are. -/
theorem table_of_checkSchema {name : TableName} (h : e.checkSchema = .ok e')
    (hne : name ≠ .layout) : e'.table name = e.table name := by
  unfold checkSchema at h
  split at h
  · cases h
    rw [put, table_set_of_ne _ _ hne]
  · split at h
    · cases h
    · dsimp only at h
      split at h
      · cases h
        rw [table_create]
      · cases h

end Environment

theorem DiskStateStore.table_of_openIn {e : Environment} {d : DiskStateStore} {name : TableName}
    (h : openIn e = .ok d) (hne : name ≠ .layout) : d.env.table name = e.table name := by
  obtain ⟨e', he, rfl⟩ := map_eq_ok.mp h
  simp only [Environment.table_create]
  exact Environment.table_of_checkSchema he hne

theorem DiskBlockStore.table_of_openIn {e : Environment} {d : DiskBlockStore} {name : TableName}
    (h : openIn e = .ok d) (hne : name ≠ .layout) : d.env.table name = e.table name := by
  obtain ⟨e', he, rfl⟩ := map_eq_ok.mp h
  simp only [Environment.table_create]
  exact Environment.table_of_checkSchema he hne

theorem DiskStateStore.Keeps.openIn {d d' : DiskStateStore} {c : StateContents} (k : d.Keeps c)
    (h : DiskStateStore.openIn d.env = .ok d') : d'.Keeps c := by
  constructor
  all_goals rw [table_of_openIn h (by decide)]
  exacts [k.state, k.validators, k.params]

namespace KeepsState

theorem memory : KeepsState (.inl {}) {} := ⟨StateContents.fits_empty, rfl, .empty, .empty, rfl⟩

theorem openIn {d d' : DiskStateStore} {c : StateContents} (k : KeepsState (.inr d) c)
    (h : DiskStateStore.openIn d.env = .ok d') : KeepsState (.inr d') c :=
  ⟨k.fits, DiskStateStore.Keeps.openIn k.keeps h⟩

theorem disk {d : DiskStateStore} (h : DiskStateStore.openIn .empty = .ok d) :
    KeepsState (.inr d) {} := by
  have hempty : (⟨.empty⟩ : DiskStateStore).Keeps {} := ⟨.empty, .empty, .empty⟩
  exact ⟨StateContents.fits_empty, hempty.openIn h⟩

end KeepsState

theorem BuiltStates.keeps {a : AnyStateStore} (h : BuiltStates a) : ∃ c, KeepsState a c := by
  induction h with
  | memory => exact ⟨{}, .memory⟩
  | disk h => exact ⟨{}, .disk h⟩
  | save _ hf h ih =>
    obtain ⟨c, hk⟩ := ih
    exact ⟨_, hk.recorded hf (.of_save h)⟩
  | putValidators _ h hf ih =>
    obtain ⟨c, hk⟩ := ih
    exact ⟨_, hk.putValidators h hf⟩
  | putParams _ h hf ih =>
    obtain ⟨c, hk⟩ := ih
    exact ⟨_, hk.putParams h hf⟩
  | @putState m s _ hf ih =>
    obtain ⟨c, hfits, hk⟩ := ih
    exact ⟨{ c with state := some s },
      { hfits with state := fun t ht => Option.some.inj ht ▸ hf }, { hk with state := rfl }⟩
  | @removeValidators m _ h ih =>
    obtain ⟨c, hfits, hk⟩ := ih
    exact ⟨_, hfits.update_validators h fun s hs => (by cases hs),
      { hk with validators := hk.validators.erase Function.injective_id h }⟩
  | @removeParams m _ h ih =>
    obtain ⟨c, hfits, hk⟩ := ih
    exact ⟨_, hfits.update_params h fun s hs => (by cases hs),
      { hk with params := hk.params.erase Function.injective_id h }⟩
  | reopen _ h ih =>
    obtain ⟨c, hk⟩ := ih
    exact ⟨c, hk.openIn h⟩

theorem HoldsRun.openIn {d d' : DiskBlockStore} {run : List BlockMeta} (h : HoldsRun (.inr d) run)
    (ho : DiskBlockStore.openIn d.env = .ok d') : HoldsRun (.inr d') run := by
  refine ⟨h.isRun, h.fits, ?_⟩
  have hfiled : Filed Height.toBytes BlockMeta.codec.encode d.metas run := h.holds
  have htable : d'.metas = d.metas := DiskBlockStore.table_of_openIn ho (by decide)
  change Filed Height.toBytes BlockMeta.codec.encode d'.metas run
  rw [htable]
  exact hfiled

theorem FilesBlocks.openIn {d d' : DiskBlockStore} {f : Height → Option BlockMeta}
    (k : FilesBlocks (.inr d) f) (h : DiskBlockStore.openIn d.env = .ok d') :
    FilesBlocks (.inr d') f := by
  have htable : Tabulates Height.toBytes BlockMeta.codec.encode d.metas f := k.table
  have hsame : d'.metas = d.metas := DiskBlockStore.table_of_openIn h (by decide)
  rw [← hsame] at htable
  exact { k with table := htable }

/-- A store whose blocks have any heights files them under these. -/
theorem BuiltBlocks.files {allowed : Height → Prop} {s : AnyBlockStore}
    (h : BuiltBlocks allowed s) : ∃ f, FilesBlocks s f := by
  induction h with
  | memory => exact ⟨_, .empty_memory⟩
  | disk h => exact ⟨_, FilesBlocks.empty_disk.openIn h⟩
  | append _ _ hf h ih =>
    obtain ⟨f, hk⟩ := ih
    exact ⟨_, hk.append hf h⟩
  | deleteLatest _ h ih =>
    obtain ⟨f, hk⟩ := ih
    obtain ⟨i, hk'⟩ := hk.deleteLatest h
    exact ⟨_, hk'⟩
  | forget _ h ih =>
    obtain ⟨f, hk⟩ := ih
    exact ⟨_, hk.forget h⟩
  | reopen _ h ih =>
    obtain ⟨f, hk⟩ := ih
    exact ⟨f, hk.openIn h⟩

/-- A store whose blocks have the heights of a chain keeps contents with two ends. -/
theorem BuiltBlocks.keeps {s : AnyBlockStore} (h : BuiltBlocks Height.IsPositive s) :
    ∃ c, KeepsBlocks s c := by
  induction h with
  | memory =>
    exact ⟨{}, .memory ⟨rfl, rfl, .empty, rfl, .inl ⟨rfl, rfl⟩, fun _ _ h => (by cases h)⟩⟩
  | disk h =>
    have hk : HoldsRun (.inr ⟨.empty⟩) [] := ⟨.empty, fun _ h => (by cases h), rfl⟩
    exact ⟨_, .disk (hk.openIn h)⟩
  | append _ hb hf h ih =>
    obtain ⟨c, hk⟩ := ih
    exact hk.append hb hf h
  | @deleteLatest s s' _ h ih =>
    obtain ⟨c, hk⟩ := ih
    by_cases hc : c.height = 0
    · rw [hk.deleteLatest_empty hc] at h
      cases h
    · obtain ⟨t, c', ht, hk', -⟩ := hk.deleteLatest hc
      rw [ht] at h
      cases h
      exact ⟨c', hk'⟩
  | forget _ h ih =>
    obtain ⟨c, hk⟩ := ih
    cases hk with
    | memory hk =>
      obtain ⟨c', hk'⟩ := hk.forget h
      exact ⟨c', .memory hk'⟩
  | reopen _ h ih =>
    obtain ⟨c, hk⟩ := ih
    cases hk with
    | disk hk => exact ⟨_, .disk (hk.openIn h)⟩

/-! An aligned node of two blocks, kept in memory. -/

namespace TwoBlocks

def set : ValidatorSet := .ofList [default]

def state : State where
  initialHeight := 1
  lastBlockHeight := 2
  nextValidators := set
  validators := set
  lastValidators := set

def block (h : Height) : BlockMeta := { header := { height := h } }

def states : MemoryStateStore :=
  ((({} : MemoryStateStore).putValidators 1 set).putParams 2 {}).putState state

def blocks : MemoryBlockStore where
  base := 1
  height := 2
  metas := ((∅ : OrderedMap Height BlockMeta).insert 1 (block 1)).insert 2 (block 2)

theorem set_fits : set.Fits := by
  have hfits : (default : Validator).Fits := Codec.bytesFit_nil
  exact ⟨by decide, List.forall_mem_singleton.mpr hfits, fun v hv => Option.some.inj hv ▸ hfits⟩

theorem params_fits : ({} : ConsensusParams).Fits :=
  ⟨by decide, List.forall_mem_singleton.mpr (by decide +kernel)⟩

theorem state_fits : state.Fits where
  software := by decide +kernel
  chainId := by decide +kernel
  lastBlockId := ⟨Codec.bytesFit_nil, Codec.bytesFit_nil⟩
  nextValidators := set_fits
  validators := set_fits
  lastValidators := set_fits
  consensusParams := params_fits
  lastResultsHash := Codec.bytesFit_nil
  appHash := Codec.bytesFit_nil

theorem block_fits (h : Height) : (block h).Fits := by
  have htext : Codec.TextFits "" := by decide +kernel
  simp [BlockMeta.fits_iff, BlockId.fits_iff, Header.fits_iff, block, Codec.bytesFit_nil, htext]

theorem built_states : BuiltStates (.inl states) :=
  .putState (.putParams (.putValidators .memory 1 set_fits) 2 params_fits) state_fits

theorem built_blocks {allowed : Height → Prop} (hone : allowed 1) (htwo : allowed 2) :
    BuiltBlocks allowed (.inl blocks) := by
  have hfirst : BuiltBlocks allowed _ :=
    BuiltBlocks.append (b := block 1) .memory hone (block_fits 1) rfl
  exact .append (b := block 2) hfirst htwo (block_fits 2) rfl

def node : Stores AnyStateStore AnyBlockStore MemoryCheckpoint := ⟨.inl states, .inl blocks, {}⟩

end TwoBlocks
end ChainRollback
