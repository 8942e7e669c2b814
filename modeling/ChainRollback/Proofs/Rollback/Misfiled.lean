import ChainRollback.Proofs.Rollback.OnDisk

/-! # Where a rollback goes

A rollback of aligned stores looks up the block one below the state by its key and then goes to the
height that the header of that block states. The two are never compared: if a record is filed under
a key that is not its own, the state is moved to whatever height the record states.
-/
namespace ChainRollback
open Std Codec

/-- A height is both that of the stored state and the one that was reported. -/
structure EndsAt {σ : Type} [StateStore σ] (h : Height) (out : Outcome) (states : σ) : Prop where
  stored : ∃ s, StateStore.load states = .ok (some s) ∧ s.lastBlockHeight = h
  reported : out.height = h

theorem EndsAt.unique {σ : Type} [StateStore σ] {h h' : Height} {out : Outcome} {states : σ}
    (ha : EndsAt h out states) (hb : EndsAt h' out states) : h = h' :=
  ha.reported.symm.trans hb.reported

/-- The table with the record of a block under a key of one's choice. -/
def DiskBlockStore.fileUnder (d : DiskBlockStore) (key : Height) (b : BlockMeta) :
    DiskBlockStore :=
  ⟨d.env.put .blockMetas key.toBytes (BlockMeta.codec.encode b)⟩

namespace DiskBlockStore

variable {d : DiskBlockStore} {b : BlockMeta} {key tip : Height}

theorem metas_fileUnder : (d.fileUnder key b).metas =
    d.metas.insert key.toBytes (BlockMeta.codec.encode b) := by
  rw [metas, fileUnder, Environment.put, Environment.table_set_self]
  rfl

theorem loadMeta_fileUnder_self (hb : b.Fits) :
    BlockStore.loadMeta (d.fileUnder key b) key = .ok (some b) := by
  refine BlockMeta.codec_exact.recordAt_of_find? hb ?_
  rw [metas_fileUnder, OrderedMap.find?_insert_self]

theorem loadMeta_fileUnder_of_ne {h : Height} (hne : h ≠ key) :
    BlockStore.loadMeta (d.fileUnder key b) h = BlockStore.loadMeta d h := by
  change Table.recordAt (d.fileUnder key b).metas BlockMeta.codec h =
    Table.recordAt d.metas BlockMeta.codec h
  have hkey : h.toBytes ≠ key.toBytes := fun he => hne (Height.toBytes_injective he)
  rw [metas_fileUnder]
  unfold Table.recordAt
  rw [OrderedMap.find?_insert_of_ne d.metas _ hkey]

/-- A record in the place of another below the tip does not change the height of the store. -/
theorem height_fileUnder {old : BlockMeta} (hheight : BlockStore.height d = .ok tip)
    (hold : BlockStore.loadMeta d key = .ok (some old)) (hne : key ≠ tip) :
    BlockStore.height (d.fileUnder key b) = .ok tip := by
  have hkey : key.toBytes ≠ tip.toBytes := fun he => hne (Height.toBytes_injective he)
  obtain ⟨record, hrecord⟩ := exists_record_of_loadMeta hold
  rcases height_eq_ok.mp hheight with ⟨hnone, -⟩ | ⟨top, hlast⟩
  · obtain ⟨last, value, hlast⟩ := OrderedMap.exists_last? hrecord
    cases hnone.symm.trans hlast
  · have hlt := OrderedMap.compare_lt_of_last? hlast hrecord hkey
    refine height_eq_ok.mpr (.inr ⟨top, ?_⟩)
    rw [metas_fileUnder]
    exact OrderedMap.last?_insert_of_lt _ hlast hlt

end DiskBlockStore

variable {κ : Type} [Checkpoint κ] {n : Stores DiskStateStore DiskBlockStore κ}
variable {i : RollbackInputs} {build : BuildVersion}

omit [Checkpoint κ] in
/-- Whatever the tables hold, what a rollback reads from them fits. -/
theorem AlignedAt.inputs_fit (h : AlignedAt n.states n.blocks i) : i.Fits := by
  obtain ⟨below, hg⟩ := h.gathered
  exact ⟨DiskStateStore.fits_of_load (loadState_eq_ok.mp h.loadState).1,
    DiskBlockStore.fits_of_loadMeta hg.rollbackBlock, DiskBlockStore.fits_of_loadMeta hg.latestBlock,
    DiskStateStore.fits_of_loadValidators hg.validators, DiskStateStore.fits_of_loadParams hg.params⟩

omit [Checkpoint κ] in
/-- The saved state is read back with the height that the block states. -/
theorem AlignedAt.endsAt (h : AlignedAt n.states n.blocks i) (hbuild : TextFits build.software)
    {states : DiskStateStore} (hs : StateStore.save n.states (reconstruct i build) = .ok states) :
    EndsAt i.rollbackBlock.height (Plan.aligned i build).outcome states := by
  have hr : n.states.Recorded (reconstruct i build) states := DiskStateStore.save_eq_ok hs
  exact ⟨⟨_, hr.load_eq (h.inputs_fit.reconstruct hbuild), rfl⟩, rfl⟩

/-- A successful rollback of aligned stores ends at the height that the block under the key of the
height below states, which is the height below exactly if the block stands at its own height. -/
theorem endsAt_iff_height_eq_key {removeBlock : Bool} {s : State} {out : Outcome}
    {left : Stores DiskStateStore DiskBlockStore κ} (hbuild : TextFits build.software)
    (hs : StateStore.load n.states = .ok (some s))
    (hh : BlockStore.height n.blocks = .ok s.lastBlockHeight)
    (h : n.rollback removeBlock build = (.ok out, left)) :
    ∃ (below : Height) (b : BlockMeta), below.toInt = s.lastBlockHeight.toInt - 1 ∧
      BlockStore.loadMeta n.blocks below = .ok (some b) ∧ EndsAt b.height out left.states ∧
      (EndsAt below out left.states ↔ b.height = below) := by
  obtain ⟨i, rfl, -, hi, rfl, hw⟩ := Stores.aligned_of_rollback hs hh h
  obtain ⟨states, hsave, hrest⟩ := Stores.performAll_aligned_eq_ok.mp hw
  have hleft : left.states = states := by
    split at hrest
    · obtain ⟨blocks, c, -, -, rfl⟩ := hrest
      rfl
    · rw [hrest]
  have hends := hi.endsAt hbuild hsave
  rw [← hleft] at hends
  obtain ⟨below, hg⟩ := hi.gathered
  refine ⟨below, i.rollbackBlock, hg.below_toInt, hg.rollbackBlock, hends, ?_⟩
  constructor
  · intro hbelow
    exact hends.unique hbelow
  · intro he
    rwa [← he]

/-- The node with the record of a block filed under a key of one's choice. -/
def Stores.fileUnder (n : Stores DiskStateStore DiskBlockStore κ) (key : Height) (b : BlockMeta) :
    Stores DiskStateStore DiskBlockStore κ :=
  { n with blocks := n.blocks.fileUnder key b }

omit [Checkpoint κ] in
/-- Whatever block is filed under the key of the height below, an aligned node stays one and takes
the block for that height. -/
theorem AlignedAt.fileUnder (h : AlignedAt n.states n.blocks i) {below : Height} {b : BlockMeta}
    (hbelow : below.toInt = i.invalid.lastBlockHeight.toInt - 1) (hb : b.Fits) :
    AlignedAt (n.fileUnder below b).states (n.fileUnder below b).blocks
      { i with rollbackBlock := b } := by
  obtain ⟨below', hg⟩ := h.gathered
  have hsame : below' = below := Int64.toInt_inj.mp (hg.below_toInt.trans hbelow.symm)
  subst hsame
  have hne : below' ≠ i.invalid.lastBlockHeight := fun he => by
    rw [he] at hbelow
    omega
  have hlatest : BlockStore.loadMeta (n.blocks.fileUnder below' b) i.invalid.lastBlockHeight =
      .ok (some i.latestBlock) := by
    rw [DiskBlockStore.loadMeta_fileUnder_of_ne hne.symm]
    exact hg.latestBlock
  exact ⟨h.loadState, DiskBlockStore.height_fileUnder h.height hg.rollbackBlock hne, below', hbelow,
    DiskBlockStore.loadMeta_fileUnder_self hb, hlatest, hg.validators, hg.params⟩

/-- A node that a rollback could bring one down is brought to any height by it, once a block that
states that height is filed under the key of the height below. -/
theorem AlignedAt.rollback_misfiled (h : AlignedAt n.states n.blocks i) {below : Height}
    {b : BlockMeta} (hbelow : below.toInt = i.invalid.lastBlockHeight.toInt - 1) (hb : b.Fits)
    (hroom : b.height.toInt + 2 < 0x8000000000000000) (hbuild : TextFits build.software)
    (hc : (Checkpoint.reset n.checkpoint).1 = .ok ()) :
    ∃ out left, (n.fileUnder below b).rollback i.removeBlock build = (.ok out, left) ∧
      EndsAt b.height out left.states := by
  have hi := h.fileUnder hbelow hb
  obtain ⟨states, hsave⟩ := (n.fileUnder below b).states.exists_save
    (s := reconstruct { i with rollbackBlock := b } build) hroom
  obtain ⟨blocks, hdelete⟩ := hi.exists_deleteLatest
  exact ⟨_, _, Stores.rollback_eq_ok.mpr ⟨_, .aligned hi rfl, rfl,
    Stores.performAll_aligned_of_ok hsave hdelete hc⟩, hi.endsAt hbuild hsave⟩

/-! The node of two blocks, kept on disk. -/

namespace TwoBlocks

def statesOnDisk : DiskStateStore :=
  (((⟨.empty⟩ : DiskStateStore).putValidators 1 set).putParams 2 {}).putState state

def blocksOnDisk : DiskBlockStore :=
  ((⟨.empty⟩ : DiskBlockStore).fileUnder 1 (block 1)).fileUnder 2 (block 2)

def nodeOnDisk : Stores DiskStateStore DiskBlockStore MemoryCheckpoint :=
  ⟨statesOnDisk, blocksOnDisk, {}⟩

theorem load_statesOnDisk : StateStore.load statesOnDisk = .ok (some state) := by
  have hfind : (statesOnDisk.env.table .state).find? DiskStateStore.stateKey =
      some (State.codec.encode state) := by
    rw [statesOnDisk, DiskStateStore.putState, Environment.put, Environment.table_set_self,
      OrderedMap.find?_insert_self]
  change DiskStateStore.load statesOnDisk = _
  unfold DiskStateStore.load
  simp only [hfind, State.codec_exact.fromDisk_encode state_fits]
  rfl

theorem height_blocksOnDisk : BlockStore.height blocksOnDisk = .ok 2 := by
  have hlast : blocksOnDisk.metas.last? =
      some ((2 : Height).toBytes, BlockMeta.codec.encode (block 2)) := rfl
  exact DiskBlockStore.height_eq_ok.mpr (.inr ⟨_, hlast⟩)

theorem loadValidators_statesOnDisk : StateStore.loadValidators statesOnDisk 1 = .ok set := by
  have hrecord : (statesOnDisk.env.table .validators).recordAt ValidatorSet.codec 1 =
      .ok (some set) := ValidatorSet.codec_exact.recordAt_of_find? set_fits rfl
  simp only [StateStore.loadValidators, hrecord]
  rfl

theorem loadParams_statesOnDisk : StateStore.loadParams statesOnDisk 2 = .ok {} := by
  have hrecord : (statesOnDisk.env.table .consensusParams).recordAt ConsensusParams.codec 2 =
      .ok (some {}) := ConsensusParams.codec_exact.recordAt_of_find? params_fits rfl
  simp only [StateStore.loadParams, hrecord]
  rfl

theorem loadMeta_blocksOnDisk :
    BlockStore.loadMeta blocksOnDisk 1 = .ok (some (block 1)) ∧
      BlockStore.loadMeta blocksOnDisk 2 = .ok (some (block 2)) := by
  have hne : (1 : Height) ≠ 2 := by decide
  constructor
  · rw [blocksOnDisk, DiskBlockStore.loadMeta_fileUnder_of_ne hne]
    exact DiskBlockStore.loadMeta_fileUnder_self (block_fits 1)
  · exact DiskBlockStore.loadMeta_fileUnder_self (block_fits 2)

theorem alignedOnDisk (removeBlock : Bool) : AlignedAt nodeOnDisk.states nodeOnDisk.blocks
    ⟨state, block 1, block 2, set, {}, removeBlock⟩ := by
  obtain ⟨hfirst, hsecond⟩ := loadMeta_blocksOnDisk
  have hstate : loadState statesOnDisk = .ok state := loadState_eq_ok.mpr ⟨load_statesOnDisk, rfl⟩
  exact ⟨hstate, height_blocksOnDisk, 1, rfl, hfirst, hsecond, loadValidators_statesOnDisk,
    loadParams_statesOnDisk⟩

/-- The node with the block of another height under the key of height 1. -/
def misfiled : Stores DiskStateStore DiskBlockStore MemoryCheckpoint :=
  nodeOnDisk.fileUnder 1 (block 50)

theorem aligned_misfiled (removeBlock : Bool) : AlignedAt misfiled.states misfiled.blocks
    ⟨state, block 50, block 2, set, {}, removeBlock⟩ :=
  (alignedOnDisk removeBlock).fileUnder rfl (block_fits 50)

theorem rollback_misfiled (removeBlock : Bool) : ∃ out left,
    misfiled.rollback removeBlock .current = (.ok out, left) ∧ EndsAt 50 out left.states := by
  have hroom : (block 50).height.toInt + 2 < 0x8000000000000000 := by decide
  have hbuild : TextFits BuildVersion.current.software := by decide +kernel
  exact (alignedOnDisk removeBlock).rollback_misfiled rfl (block_fits 50) hroom hbuild rfl

end TwoBlocks

theorem endsAt_iff_of_misfiled : ∃ out left,
    TwoBlocks.misfiled.rollback true .current = (.ok out, left) ∧
    ∃ (below : Height) (b : BlockMeta), below.toInt = TwoBlocks.state.lastBlockHeight.toInt - 1 ∧
      BlockStore.loadMeta TwoBlocks.misfiled.blocks below = .ok (some b) ∧
      EndsAt b.height out left.states ∧ (EndsAt below out left.states ↔ b.height = below) := by
  have hbuild : TextFits BuildVersion.current.software := by decide +kernel
  have hi := TwoBlocks.aligned_misfiled true
  obtain ⟨out, left, h, -⟩ := TwoBlocks.rollback_misfiled true
  exact ⟨out, left, h, endsAt_iff_height_eq_key hbuild TwoBlocks.load_statesOnDisk hi.height h⟩

/-- A node at height 2 is moved to height 50, since that is what the record under height 1 states. -/
theorem not_endsAt_below_of_misfiled : ∃ out left,
    StateStore.load TwoBlocks.misfiled.states = .ok (some TwoBlocks.state) ∧
    BlockStore.height TwoBlocks.misfiled.blocks = .ok TwoBlocks.state.lastBlockHeight ∧
    TwoBlocks.misfiled.rollback false .current = (.ok out, left) ∧
    EndsAt 50 out left.states ∧ ¬EndsAt 1 out left.states := by
  have hi := TwoBlocks.aligned_misfiled false
  obtain ⟨out, left, h, hends⟩ := TwoBlocks.rollback_misfiled false
  refine ⟨out, left, TwoBlocks.load_statesOnDisk, hi.height, h, hends, ?_⟩
  intro hbelow
  have hne : (50 : Height) ≠ 1 := by decide
  exact hne (hends.unique hbelow)

end ChainRollback
