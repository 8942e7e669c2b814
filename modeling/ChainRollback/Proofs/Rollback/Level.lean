import ChainRollback.Proofs.Rollback.Rebuilt
import ChainRollback.Proofs.Store.BetweenEnds
import ChainRollback.Proofs.Store.Entries

/-! # Level stores

After a hard rollback the block store stands at the height of the stored state, so the next rollback
or report does not find the two at odds. The exception is a pending block that is all that a block
store holds: without it the store is empty and reports height zero, whatever the state is.
-/
namespace ChainRollback
open Codec

section
variable {σ β κ : Type} [StateStore σ] [BlockStore β] [Checkpoint κ] {n : Stores σ β κ}

def Stores.IsLevel (n : Stores σ β κ) : Prop :=
  ∃ s, StateStore.load n.states = .ok (some s) ∧
    BlockStore.height n.blocks = .ok s.lastBlockHeight

/-- Neither a report nor a rollback finds the heights of the stores at odds. -/
structure Stores.FindsNoViolation (n : Stores σ β κ) : Prop where
  status : ∀ e, (StoreStatus.read n.blocks n.states >>= StoreStatus.alignment) = .error e →
    e.kind ≠ .invariantViolation
  rollback : ∀ removeBlock build e left,
    n.rollback removeBlock build = (.error (.error e), left) → e.kind ≠ .invariantViolation

theorem status_eq_error {states : σ} {blocks : β} {e : RollbackError}
    (h : StoreStatus.read blocks states = .error e) :
    loadState states = .error e ∨ ∃ step cause, e = .read step cause := by
  unfold StoreStatus.read at h
  rcases bind_eq_error.mp h with h | ⟨s, -, h⟩
  · exact .inl h
  rcases bind_eq_error.mp h with h | ⟨base, -, h⟩
  · obtain ⟨cause, -, rfl⟩ := mapError_eq_error.mp h
    exact .inr ⟨_, cause, rfl⟩
  rcases bind_eq_error.mp h with h | ⟨height, -, h⟩
  · obtain ⟨cause, -, rfl⟩ := mapError_eq_error.mp h
    exact .inr ⟨_, cause, rfl⟩
  · cases h

theorem isReadFailure_of_status {states : σ} {blocks : β} {e : RollbackError}
    (h : StoreStatus.read blocks states = .error e) : e.kind.IsReadFailure := by
  rcases status_eq_error h with h | ⟨step, cause, rfl⟩
  · exact isReadFailure_of_loadState h
  · exact RollbackError.isReadFailure_read step cause

theorem status_eq_ok {states : σ} {blocks : β} {status : StoreStatus}
    (h : StoreStatus.read blocks states = .ok status) :
    ∃ s, loadState states = .ok s ∧ status.stateHeight = s.lastBlockHeight ∧
      BlockStore.base blocks = .ok status.blockBase ∧
      BlockStore.height blocks = .ok status.blockHeight := by
  simp only [StoreStatus.read, bind_eq_ok, mapError_eq_ok, pure_eq_ok] at h
  obtain ⟨s, hs, base, hbase, height, hheight, rfl⟩ := h
  exact ⟨s, hs, rfl, hbase, hheight⟩

namespace Stores

omit [Checkpoint κ] in
theorem IsLevel.classify_ne_error (hn : n.IsLevel) {s : State} {height : Height}
    {e : RollbackError} (hs : loadState n.states = .ok s)
    (hh : BlockStore.height n.blocks = .ok height) :
    classify s.lastBlockHeight height ≠ .error e := by
  obtain ⟨t, ht, hlevel⟩ := hn
  cases ht.symm.trans (loadState_eq_ok.mp hs).1
  cases hlevel.symm.trans hh
  rw [classify_eq_aligned.mpr rfl]
  intro h
  cases h

theorem StopsWith.planRollback_eq_error {removeBlock : Bool} {build : BuildVersion}
    {e : RollbackError} {left : Stores σ β κ} (h : n.StopsWith removeBlock build (.error e) left)
    (hk : e.kind = .invariantViolation) :
    planRollback n.states n.blocks removeBlock build = .error e := by
  have hwrite : ∀ {cause : Halt StoreError} {f : StoreError → RollbackError},
      (∀ c, (f c).kind = .storeWriteFailure) → Halt.error e ≠ cause.map f := by
    intro cause f hf he
    cases cause with
    | overflow o => cases he
    | error c =>
      cases he
      rw [hf c] at hk
      cases hk
  cases h with
  | refused hplan he =>
    cases he
    exact hplan
  | pendingDelete _ _ _ he => exact absurd he (hwrite fun _ => rfl)
  | save _ _ _ he => exact absurd he (hwrite fun _ => rfl)
  | delete _ _ _ _ _ he => exact absurd he (hwrite fun _ => rfl)
  | reset _ _ _ _ _ _ he =>
    cases he
    cases hk

theorem IsLevel.findsNoViolation (hn : n.IsLevel) : n.FindsNoViolation := by
  constructor
  · intro e h
    rcases bind_eq_error.mp h with h | ⟨status, hstatus, h⟩
    · exact (isReadFailure_of_status h).ne_invariantViolation
    · obtain ⟨s, hs, hstate, -, hheight⟩ := status_eq_ok hstatus
      rw [StoreStatus.alignment, hstate] at h
      exact absurd h (hn.classify_ne_error hs hheight)
  · intro removeBlock build e left h hk
    have hplan := (stopsWith_of_rollback h).planRollback_eq_error hk
    rcases cases_of_planRollback hplan with hread | ⟨s, height, hs, hh, hc⟩
    · exact hread.ne_invariantViolation hk
    · exact hn.classify_ne_error hs hh hc

end Stores
end

variable {κ : Type} [Checkpoint κ] {n left : Stores AnyStateStore AnyBlockStore κ}
variable {i : RollbackInputs} {build : BuildVersion}

/-- A pending block is all that the block store holds, above a state that is not at height zero. -/
def Stores.HoldsOnlyPending (n : Stores AnyStateStore AnyBlockStore κ) : Prop :=
  ∃ s tip, PendingAt n.states n.blocks s ∧ BlockStore.base n.blocks = .ok tip ∧
    BlockStore.height n.blocks = .ok tip ∧ s.lastBlockHeight ≠ 0

/-- The state store is as it was, and the block store is empty. -/
structure Stores.Emptied (n left : Stores AnyStateStore AnyBlockStore κ) : Prop where
  states : left.states = n.states
  base : BlockStore.base left.blocks = .ok 0
  height : BlockStore.height left.blocks = .ok 0

theorem AlignedAt.load_saved {a a' : AnyStateStore} {b : AnyBlockStore} (h : AlignedAt a b i)
    (hb : ∀ h blk, BlockStore.loadMeta b h = .ok (some blk) → blk.Fits)
    (hbuild : TextFits build.software) (hs : StateStore.save a (reconstruct i build) = .ok a') :
    StateStore.load a' = .ok (some (reconstruct i build)) := by
  cases a with
  | inl m =>
    obtain ⟨m', hm, rfl⟩ := map_eq_ok.mp hs
    exact congrArg Except.ok (MemoryStateStore.save_eq_ok hm).2.state
  | inr d =>
    obtain ⟨d', hd, rfl⟩ := map_eq_ok.mp hs
    obtain ⟨below, hg⟩ := h.gathered
    have hi : i.Fits := ⟨DiskStateStore.fits_of_load (loadState_eq_ok.mp h.loadState).1,
      hb _ _ hg.rollbackBlock, hb _ _ hg.latestBlock,
      DiskStateStore.fits_of_loadValidators hg.validators, DiskStateStore.fits_of_loadParams hg.params⟩
    exact (DiskStateStore.save_eq_ok hd).load_eq (hi.reconstruct hbuild)

omit [Checkpoint κ] in
theorem isLevel_of_aligned (hi : AlignedAt n.states n.blocks i)
    (hb : BuiltBlocks Height.IsPositive n.blocks) (hbuild : TextFits build.software)
    {states : AnyStateStore} {blocks : AnyBlockStore} {c : κ}
    (hs : StateStore.save n.states (reconstruct i build) = .ok states)
    (hd : BlockStore.deleteLatest n.blocks = .ok blocks) :
    (⟨states, blocks, c⟩ : Stores AnyStateStore AnyBlockStore κ).IsLevel := by
  obtain ⟨k, hk⟩ := hb.keeps
  obtain ⟨below, hg⟩ := hi.gathered
  have hlt : below.toInt < i.invalid.lastBlockHeight.toInt := by
    have hbelow := hg.below_toInt
    omega
  have hne := hb.base_ne_of_held hg.rollbackBlock hlt
  obtain ⟨-, hremoves⟩ := hk.removesTip hi.height hd
  obtain ⟨-, low, hlow, hlowInt⟩ := hremoves.lowered hne
  have hheight : (reconstruct i build).lastBlockHeight = low := by
    have hblock := hi.rollbackBlock_height hk.files.atOwnHeights.height_eq
    exact Int64.toInt_inj.mp (hblock.trans hlowInt.symm)
  refine ⟨_, hi.load_saved hk.files.atOwnHeights.fits hbuild hs, ?_⟩
  rw [hheight]
  exact hlow

omit [Checkpoint κ] in
theorem isLevel_of_pending {s : State} {blocks : AnyBlockStore} (hp : PendingAt n.states n.blocks s)
    (hb : BuiltBlocks Height.IsPositive n.blocks)
    (hd : BlockStore.deleteLatest n.blocks = .ok blocks) :
    ({ n with blocks := blocks }.IsLevel ↔ ¬n.HoldsOnlyPending) ∧
      (n.HoldsOnlyPending → n.Emptied { n with blocks := blocks }) := by
  obtain ⟨k, hk⟩ := hb.keeps
  obtain ⟨hs, tip, htip, htipInt⟩ := id hp
  obtain ⟨-, hremoves⟩ := hk.removesTip htip hd
  have hload := (loadState_eq_ok.mp hs).1
  have hlevel : { n with blocks := blocks }.IsLevel ↔
      BlockStore.height blocks = .ok s.lastBlockHeight := by
    constructor
    · rintro ⟨t, ht, hheight⟩
      cases hload.symm.trans ht
      exact hheight
    · intro hheight
      exact ⟨s, hload, hheight⟩
  have honly : n.HoldsOnlyPending ↔
      BlockStore.base n.blocks = .ok tip ∧ s.lastBlockHeight ≠ 0 := by
    constructor
    · rintro ⟨t, top, ht, hbase, htop, hzero⟩
      cases hs.symm.trans ht.loadState
      cases htip.symm.trans htop
      exact ⟨hbase, hzero⟩
    · rintro ⟨hbase, hzero⟩
      exact ⟨s, tip, hp, hbase, htip, hzero⟩
  rw [hlevel, honly]
  by_cases hbase : BlockStore.base n.blocks = .ok tip
  · obtain ⟨hbase', hheight'⟩ := hremoves.emptied hbase
    rw [hheight', Except.ok.injEq]
    refine ⟨?_, fun _ => ⟨rfl, hbase', hheight'⟩⟩
    constructor
    · intro hzero hne
      exact hne.2 hzero.symm
    · intro hne
      by_contra hzero
      exact hne ⟨hbase, fun h => hzero h.symm⟩
  · obtain ⟨-, low, hlow, hlowInt⟩ := hremoves.lowered hbase
    have hsame : low = s.lastBlockHeight := Int64.toInt_inj.mp (by omega)
    rw [hlow, hsame]
    exact ⟨⟨fun _ hne => hbase hne.1, fun _ => rfl⟩, fun hne => absurd hne.1 hbase⟩

/-- A hard rollback that succeeds leaves the stores level, and so without a violation to be found,
unless it deletes a pending block that is all that the block store holds. -/
theorem isLevel_iff_of_hard_rollback (n : Stores AnyStateStore AnyBlockStore κ)
    (build : BuildVersion) (hbuild : TextFits build.software)
    (hb : BuiltBlocks Height.IsPositive n.blocks) {out : Outcome}
    {left : Stores AnyStateStore AnyBlockStore κ} (h : n.rollback true build = (.ok out, left)) :
    (left.IsLevel ↔ ¬n.HoldsOnlyPending) ∧ (left.IsLevel → left.FindsNoViolation) ∧
      (n.HoldsOnlyPending → n.Emptied left) := by
  obtain ⟨plan, hplan, -, hw⟩ := Stores.rollback_eq_ok.mp h
  cases hplan with
  | pending hp =>
    obtain ⟨blocks, hd, rfl⟩ := Stores.performAll_pending_eq_ok.mp hw
    obtain ⟨hlevel, hemptied⟩ := isLevel_of_pending hp hb hd
    exact ⟨hlevel, Stores.IsLevel.findsNoViolation, hemptied⟩
  | aligned hi hr =>
    obtain ⟨states, hs, hdone⟩ := Stores.performAll_aligned_eq_ok.mp hw
    rw [if_pos hr] at hdone
    obtain ⟨blocks, c, hd, -, rfl⟩ := hdone
    have hlevel := isLevel_of_aligned (c := c) hi hb hbuild hs hd
    have hnot : ¬n.HoldsOnlyPending := fun ⟨s, _, hp, _⟩ => hi.not_pendingAt hp
    exact ⟨⟨fun _ => hnot, fun _ => hlevel⟩, Stores.IsLevel.findsNoViolation,
      fun honly => absurd honly hnot⟩

theorem isLevel_iff_of_two_blocks : ∃ out left,
    TwoBlocks.node.rollback true .current = (.ok out, left) ∧
    (left.IsLevel ↔ ¬TwoBlocks.node.HoldsOnlyPending) ∧ (left.IsLevel → left.FindsNoViolation) ∧
      (TwoBlocks.node.HoldsOnlyPending → TwoBlocks.node.Emptied left) := by
  have hbuild : TextFits BuildVersion.current.software := by decide +kernel
  have hb : BuiltBlocks Height.IsPositive TwoBlocks.node.blocks :=
    TwoBlocks.built_blocks (by decide) (by decide)
  have hok : TwoBlocks.node.rollback true .current = (.ok ⟨1, []⟩, _) := Prod.ext rfl rfl
  exact ⟨_, _, hok, isLevel_iff_of_hard_rollback TwoBlocks.node .current hbuild hb hok⟩

/-- A state at height 5 and block 6 alone, as after a start from a snapshot. -/
def onlyPending : Stores AnyStateStore AnyBlockStore MemoryCheckpoint where
  states := .inl { state := some { TwoBlocks.state with lastBlockHeight := 5 } }
  blocks := .inl { base := 6, height := 6, metas := (∅ : OrderedMap _ _).insert 6 (TwoBlocks.block 6) }
  checkpoint := {}

/-- Without the only block the heights are 5 and 0, and the next report finds them at odds. -/
theorem not_isLevel_of_only_pending : ∃ out left,
    BuiltBlocks Height.IsPositive onlyPending.blocks ∧
    onlyPending.rollback true .current = (.ok out, left) ∧ ¬left.IsLevel ∧
    (StoreStatus.read left.blocks left.states >>= StoreStatus.alignment) =
      .error (.misaligned 5 0) := by
  have hb : BuiltBlocks Height.IsPositive onlyPending.blocks :=
    .append (b := TwoBlocks.block 6) .memory (by decide) (TwoBlocks.block_fits 6) rfl
  have hok : onlyPending.rollback true .current = (.ok ⟨5, []⟩, _) := Prod.ext rfl rfl
  refine ⟨_, _, hb, hok, ?_, rfl⟩
  rintro ⟨s, hs, hh⟩
  cases hs
  have hzero : (0 : Height) = 5 := Except.ok.inj hh
  exact absurd hzero (by decide)

end ChainRollback
