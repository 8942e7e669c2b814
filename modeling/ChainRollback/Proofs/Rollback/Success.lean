import ChainRollback.Proofs.Rollback.Rebuilt

/-! # What a successful rollback has done

On stores built by their own operations, a rollback without faults succeeds exactly if the records
it needs are there. It then leaves a pending state as it is, or replaces an aligned one by the state
below it, and the blocks and the checkpoint change only on request.
-/
namespace ChainRollback
open Codec

variable {κ : Type} [Checkpoint κ]

/-- A state worth the name is stored, and either one more block is, or the stores are aligned and
the two blocks, the validator set and the parameters for the state below are all present. -/
def Stores.CanRollBack (n : Stores AnyStateStore AnyBlockStore κ) : Prop :=
  ∃ s, StateStore.load n.states = .ok (some s) ∧ s.validators.validators ≠ [] ∧
    ((∃ h : Height, BlockStore.height n.blocks = .ok h ∧ h.toInt = s.lastBlockHeight.toInt + 1) ∨
      BlockStore.height n.blocks = .ok s.lastBlockHeight ∧
      ∃ below : Height, below.toInt = s.lastBlockHeight.toInt - 1 ∧
        (∃ b, BlockStore.loadMeta n.blocks below = .ok (some b)) ∧
        (∃ b, BlockStore.loadMeta n.blocks s.lastBlockHeight = .ok (some b)) ∧
        (∃ set, StateStore.loadValidators n.states below = .ok set) ∧
        ∃ p, StateStore.loadParams n.states s.lastBlockHeight = .ok p)

/-- The block at a tip is gone on request, and otherwise nothing is. -/
def BlocksAfter (removeBlock : Bool) (s : AnyBlockStore) (tip : Height) (s' : AnyBlockStore) :
    Prop :=
  if removeBlock then RemovesTip s tip s' else s' = s

structure ReportsPending (n : Stores AnyStateStore AnyBlockStore κ) (removeBlock : Bool) (s : State)
    (out : Outcome) (left : Stores AnyStateStore AnyBlockStore κ) : Prop where
  outcome : out = ⟨s.lastBlockHeight, s.appHash⟩
  states : left.states = n.states
  checkpoint : left.checkpoint = n.checkpoint
  blocks : ∃ tip : Height, tip.toInt = s.lastBlockHeight.toInt + 1 ∧
    BlocksAfter removeBlock n.blocks tip left.blocks

structure RollsBack (n : Stores AnyStateStore AnyBlockStore κ) (i : RollbackInputs)
    (build : BuildVersion) (saved : State) (out : Outcome)
    (left : Stores AnyStateStore AnyBlockStore κ) : Prop where
  rebuilt : RebuiltFrom i build saved
  outcome : out = ⟨saved.lastBlockHeight, saved.appHash⟩
  states : SavedIn n.states saved left.states
  blocks : BlocksAfter i.removeBlock n.blocks i.invalid.lastBlockHeight left.blocks
  checkpoint : left.checkpoint =
    if i.removeBlock then (Checkpoint.reset n.checkpoint).2 else n.checkpoint

theorem State.isEmpty_eq_false {s : State} : s.isEmpty = false ↔ s.validators.validators ≠ [] := by
  simp [State.isEmpty, ValidatorSet.isEmpty]

omit [Checkpoint κ] in
theorem Stores.canRollBack_iff {n : Stores AnyStateStore AnyBlockStore κ} (removeBlock : Bool) :
    n.CanRollBack ↔ (∃ s, PendingAt n.states n.blocks s) ∨
      ∃ i, AlignedAt n.states n.blocks i ∧ i.removeBlock = removeBlock := by
  constructor
  · rintro ⟨s, hload, hne, hp | ⟨hh, below, hbelow, ⟨b, hb⟩, ⟨l, hl⟩, ⟨set, hset⟩, p, hparams⟩⟩
    · exact .inl ⟨s, loadState_eq_ok.mpr ⟨hload, State.isEmpty_eq_false.mpr hne⟩, hp⟩
    · exact .inr ⟨⟨s, b, l, set, p, removeBlock⟩,
        ⟨loadState_eq_ok.mpr ⟨hload, State.isEmpty_eq_false.mpr hne⟩, hh,
          below, hbelow, hb, hl, hset, hparams⟩, rfl⟩
  · rintro (⟨s, hs, hp⟩ | ⟨i, ⟨hs, hh, below, hg⟩, -⟩)
    · obtain ⟨hload, hempty⟩ := loadState_eq_ok.mp hs
      exact ⟨s, hload, State.isEmpty_eq_false.mp hempty, .inl hp⟩
    · obtain ⟨hload, hempty⟩ := loadState_eq_ok.mp hs
      exact ⟨i.invalid, hload, State.isEmpty_eq_false.mp hempty, .inr ⟨hh, below, hg.below_toInt,
        ⟨_, hg.rollbackBlock⟩, ⟨_, hg.latestBlock⟩, ⟨_, hg.validators⟩, _, hg.params⟩⟩

namespace Stores

variable {n : Stores AnyStateStore AnyBlockStore κ} {c : StateContents} {k : BlockContents}
variable {build : BuildVersion}

theorem exists_reportsPending (removeBlock : Bool) {s : State}
    (h : PendingAt n.states n.blocks s) (hb : KeepsBlocks n.blocks k)
    (hn : 1 ≤ s.lastBlockHeight.toInt) :
    ∃ left, n.performAll (Plan.pending removeBlock s).writes = (.ok (), left) ∧
      ReportsPending n removeBlock s (Plan.pending removeBlock s).outcome left := by
  obtain ⟨tip, htip, hp⟩ := h.height
  cases removeBlock with
  | false => exact ⟨n, performAll_pending_eq_ok.mpr rfl, rfl, rfl, rfl, tip, hp, rfl⟩
  | true =>
    obtain ⟨blocks, -, hdelete, -, hremoves⟩ := hb.exists_deleteLatest htip (by omega)
    exact ⟨_, performAll_pending_eq_ok.mpr ⟨blocks, hdelete, rfl⟩, rfl, rfl, rfl, tip, hp, hremoves⟩

theorem exists_rollsBack {i : RollbackInputs} (h : AlignedAt n.states n.blocks i)
    (ha : KeepsState n.states c) (hb : KeepsBlocks n.blocks k)
    (hc : (Checkpoint.reset n.checkpoint).1 = .ok ()) (hbuild : TextFits build.software)
    (hhigh : i.invalid.lastBlockHeight.toInt < 0x7fffffffffffffff) :
    ∃ left, n.performAll (Plan.aligned i build).writes = (.ok (), left) ∧
      RollsBack n i build (reconstruct i build) (Plan.aligned i build).outcome left := by
  have hlow : 1 ≤ i.invalid.lastBlockHeight.toInt := by
    have htwo := h.two_le hb
    omega
  obtain ⟨states, hsave⟩ := ha.exists_save (h.hasRoom hb.files build hhigh)
  obtain ⟨blocks, -, hdelete, -, hremoves⟩ := hb.exists_deleteLatest h.height hlow
  refine ⟨_, performAll_aligned_of_ok hsave hdelete hc, h.rebuiltFrom hb.files build, rfl,
    ha.savedIn (h.fits ha hb.files hbuild) hsave, ?_, rfl⟩
  cases i.removeBlock with
  | false => rfl
  | true => exact hremoves

end Stores

/-- When a rollback succeeds, and all that it has done when it does. -/
theorem rollback_spec (n : Stores AnyStateStore AnyBlockStore κ) (removeBlock : Bool)
    (build : BuildVersion) (hbuild : TextFits build.software) (hs : BuiltStates n.states)
    (hb : BuiltBlocks Height.IsPositive n.blocks) (hc : (Checkpoint.reset n.checkpoint).1 = .ok ())
    (hn : ∀ s, StateStore.load n.states = .ok (some s) →
      1 ≤ s.lastBlockHeight.toInt ∧ s.lastBlockHeight.toInt < 0x7fffffffffffffff) :
    ((∃ out left, n.rollback removeBlock build = (.ok out, left)) ↔ n.CanRollBack) ∧
    ∀ out left, n.rollback removeBlock build = (.ok out, left) →
      (∃ s, PendingAt n.states n.blocks s ∧ ReportsPending n removeBlock s out left) ∨
      ∃ i saved, AlignedAt n.states n.blocks i ∧ i.removeBlock = removeBlock ∧
        RollsBack n i build saved out left := by
  obtain ⟨c, ha⟩ := hs.keeps
  obtain ⟨k, hk⟩ := hb.keeps
  have hheight : ∀ {s}, loadState n.states = .ok s →
      1 ≤ s.lastBlockHeight.toInt ∧ s.lastBlockHeight.toInt < 0x7fffffffffffffff := fun {s} h =>
    hn s (loadState_eq_ok.mp h).1
  constructor
  · rw [Stores.canRollBack_iff removeBlock]
    constructor
    · rintro ⟨out, left, h⟩
      obtain ⟨plan, hplan, -, -⟩ := Stores.rollback_eq_ok.mp h
      cases hplan with
      | pending hp => exact .inl ⟨_, hp⟩
      | aligned hi hr => exact .inr ⟨_, hi, hr⟩
    · rintro (⟨s, hp⟩ | ⟨i, hi, hr⟩)
      · obtain ⟨left, hw, -⟩ := Stores.exists_reportsPending removeBlock hp hk
          (hheight hp.loadState).1
        exact ⟨_, left, Stores.rollback_eq_ok.mpr ⟨_, .pending hp, rfl, hw⟩⟩
      · obtain ⟨left, hw, -⟩ := Stores.exists_rollsBack hi ha hk hc hbuild (hheight hi.loadState).2
        exact ⟨_, left, Stores.rollback_eq_ok.mpr ⟨_, .aligned hi hr, rfl, hw⟩⟩
  · intro out left h
    obtain ⟨plan, hplan, rfl, hw⟩ := Stores.rollback_eq_ok.mp h
    cases hplan with
    | pending hp =>
      obtain ⟨left', hw', hspec⟩ := Stores.exists_reportsPending removeBlock hp hk
        (hheight hp.loadState).1
      cases hw.symm.trans hw'
      exact .inl ⟨_, hp, hspec⟩
    | aligned hi hr =>
      obtain ⟨left', hw', hspec⟩ := Stores.exists_rollsBack hi ha hk hc hbuild
        (hheight hi.loadState).2
      cases hw.symm.trans hw'
      exact .inr ⟨_, _, hi, hr, hspec⟩

theorem rollback_spec_of_two_blocks :
    (∃ out left, TwoBlocks.node.rollback true .current = (.ok out, left)) ∧
    ∀ out left, TwoBlocks.node.rollback true .current = (.ok out, left) →
      (∃ s, PendingAt TwoBlocks.node.states TwoBlocks.node.blocks s ∧
        ReportsPending TwoBlocks.node true s out left) ∨
      ∃ i saved, AlignedAt TwoBlocks.node.states TwoBlocks.node.blocks i ∧ i.removeBlock = true ∧
        RollsBack TwoBlocks.node i .current saved out left := by
  have hspec := rollback_spec TwoBlocks.node true .current (by decide +kernel)
    TwoBlocks.built_states (TwoBlocks.built_blocks (by decide) (by decide)) rfl
    fun s h => (by cases h; decide)
  refine ⟨hspec.1.mpr ?_, hspec.2⟩
  exact ⟨TwoBlocks.state, rfl, by decide, .inr ⟨rfl, 1, rfl, ⟨_, rfl⟩, ⟨_, rfl⟩, ⟨_, rfl⟩, _, rfl⟩⟩

end ChainRollback
