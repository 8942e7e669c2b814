import ChainRollback.Proofs.Record.Chain
import ChainRollback.Proofs.Rollback.Steps
import ChainRollback.Proofs.Store.Built

/-! # The rebuilt state

Each field of the state that an aligned rollback saves comes from a record of the stores. The block
below the tip stands at its own height, so the rebuilt state is exactly one height lower, and it
can be saved whenever the state it replaces is below the greatest height.
-/
namespace ChainRollback
open Codec

/-- A change above `h` counts as one of the next height, and no other change moves. -/
theorem clampChange_toInt {changed h : Height} (hh : h.toInt + 1 < 0x8000000000000000) :
    (clampChange changed h).toInt = min changed.toInt (h.toInt + 1) := by
  have hlow := Int64.le_toInt h
  obtain ⟨next, hnext⟩ := Height.exists_toInt_eq (i := h.toInt + 1) (by omega) hh
  unfold clampChange
  split
  · rename_i hlt
    have hlt' := Int64.lt_iff_toInt_lt.mp hlt
    rw [Height.succSaturating, Height.succ?_eq_some.mpr hnext, Option.getD_some, hnext]
    omega
  · rename_i hle
    have hle' := mt Int64.lt_iff_toInt_lt.mpr hle
    omega

structure RebuiltFrom (i : RollbackInputs) (build : BuildVersion) (s : State) : Prop where
  version : s.version = ⟨⟨build.blockProtocol, i.prevParams.version.appVersion⟩, build.software⟩
  chainId : s.chainId = i.invalid.chainId
  initialHeight : s.initialHeight = i.invalid.initialHeight
  lastBlockHeight : s.lastBlockHeight.toInt = i.invalid.lastBlockHeight.toInt - 1
  lastBlockId : s.lastBlockId = i.rollbackBlock.blockId
  lastBlockTime : s.lastBlockTime = i.rollbackBlock.header.time
  nextValidators : s.nextValidators = i.invalid.validators
  validators : s.validators = i.invalid.lastValidators
  lastValidators : s.lastValidators = i.prevValidators
  lastHeightValidatorsChanged : s.lastHeightValidatorsChanged.toInt =
    min i.invalid.lastHeightValidatorsChanged.toInt i.invalid.lastBlockHeight.toInt
  consensusParams : s.consensusParams = i.prevParams
  lastHeightConsensusParamsChanged : s.lastHeightConsensusParamsChanged.toInt =
    min i.invalid.lastHeightConsensusParamsChanged.toInt i.invalid.lastBlockHeight.toInt
  appHash : s.appHash =
    if i.removeBlock then i.rollbackBlock.header.appHash else i.latestBlock.header.lastResultsHash
  lastResultsHash : s.lastResultsHash =
    if i.removeBlock then i.rollbackBlock.header.lastResultsHash else i.latestBlock.header.appHash

/-- Every record that a state is rebuilt from fits. -/
structure RollbackInputs.Fits (i : RollbackInputs) : Prop where
  invalid : i.invalid.Fits
  rollbackBlock : i.rollbackBlock.Fits
  latestBlock : i.latestBlock.Fits
  prevValidators : i.prevValidators.Fits
  prevParams : i.prevParams.Fits

theorem RollbackInputs.Fits.reconstruct {i : RollbackInputs} {build : BuildVersion} (h : i.Fits)
    (hbuild : TextFits build.software) : (reconstruct i build).Fits := by
  have hr := h.rollbackBlock.header
  have hl := h.latestBlock.header
  have hhashes : BytesFit i.hashes.1 ∧ BytesFit i.hashes.2 := by
    unfold RollbackInputs.hashes
    split
    · exact ⟨hr.appHash, hr.lastResultsHash⟩
    · exact ⟨hl.lastResultsHash, hl.appHash⟩
  exact ⟨hbuild, h.invalid.chainId, h.rollbackBlock.blockId, h.invalid.validators,
    h.invalid.lastValidators, h.prevValidators, h.prevParams, hhashes.2, hhashes.1⟩

/-- The block that an aligned node rolls back to stands one below its state. -/
theorem AlignedAt.rollbackBlock_height {σ β : Type} [StateStore σ] [BlockStore β] {states : σ}
    {blocks : β} {i : RollbackInputs} (h : AlignedAt states blocks i)
    (hb : ∀ h b, BlockStore.loadMeta blocks h = .ok (some b) → b.height = h) :
    i.rollbackBlock.header.height.toInt = i.invalid.lastBlockHeight.toInt - 1 := by
  obtain ⟨below, hg⟩ := h.gathered
  rw [← hg.below_toInt, ← hb below i.rollbackBlock hg.rollbackBlock]
  rfl

section
variable {a : AnyStateStore} {b : AnyBlockStore} {c : StateContents}
variable {f : Height → Option BlockMeta} {i : RollbackInputs} {build : BuildVersion}

/-- The state of an aligned node with all inputs is at least two blocks high. -/
theorem AlignedAt.two_le {k : BlockContents} (h : AlignedAt a b i) (hb : KeepsBlocks b k) :
    2 ≤ i.invalid.lastBlockHeight.toInt := by
  obtain ⟨below, hg⟩ := h.gathered
  have hblock := hg.rollbackBlock
  rw [hb.files.loadMeta_eq, Except.ok.injEq] at hblock
  have hone := (hb.sound.own below i.rollbackBlock hblock).one_le
  rw [hg.below_toInt] at hone
  omega

theorem AlignedAt.rebuiltFrom (h : AlignedAt a b i) (hb : FilesBlocks b f)
    (build : BuildVersion) : RebuiltFrom i build (reconstruct i build) := by
  have hheight := h.rollbackBlock_height hb.atOwnHeights.height_eq
  have hmax := Int64.toInt_lt i.invalid.lastBlockHeight
  have hlt : i.rollbackBlock.header.height.toInt + 1 < 0x8000000000000000 := by omega
  have hclamp : ∀ changed : Height, (clampChange changed i.rollbackBlock.header.height).toInt =
      min changed.toInt i.invalid.lastBlockHeight.toInt := fun changed => by
    rw [clampChange_toInt hlt, hheight, Int.sub_add_cancel]
  constructor
  case lastBlockHeight => exact hheight
  case lastHeightValidatorsChanged => exact hclamp i.invalid.lastHeightValidatorsChanged
  case lastHeightConsensusParamsChanged => exact hclamp i.invalid.lastHeightConsensusParamsChanged
  case appHash => simp only [reconstruct, RollbackInputs.hashes, apply_ite Prod.fst]
  case lastResultsHash => simp only [reconstruct, RollbackInputs.hashes, apply_ite Prod.snd]
  all_goals rfl

theorem AlignedAt.hasRoom (h : AlignedAt a b i) (hb : FilesBlocks b f) (build : BuildVersion)
    (hn : i.invalid.lastBlockHeight.toInt < 0x7fffffffffffffff) :
    (reconstruct i build).HasRoom := by
  have hheight := (h.rebuiltFrom hb build).lastBlockHeight
  unfold State.HasRoom
  omega

theorem AlignedAt.fits (h : AlignedAt a b i) (ha : KeepsState a c) (hb : FilesBlocks b f)
    (hbuild : TextFits build.software) : (reconstruct i build).Fits := by
  obtain ⟨below, hg⟩ := h.gathered
  have hload := (loadState_eq_ok.mp h.loadState).1
  have hrollback := hg.rollbackBlock
  have hlatest := hg.latestBlock
  rw [ha.load_eq, Except.ok.injEq] at hload
  rw [hb.loadMeta_eq, Except.ok.injEq] at hrollback hlatest
  have hi : i.Fits :=
    ⟨ha.fits.state _ hload, hb.fits _ _ hrollback, hb.fits _ _ hlatest,
      ha.fits.validators _ _ (ha.loadValidators_eq_ok.mp hg.validators),
      ha.fits.params _ _ (ha.loadParams_eq_ok.mp hg.params)⟩
  exact hi.reconstruct hbuild

end
end ChainRollback
