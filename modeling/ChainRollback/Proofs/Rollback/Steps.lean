import ChainRollback.Proofs.Outcome
import ChainRollback.Rollback.Run

/-! # The steps of a rollback

What a rollback read is what its plan says it read: a plan is for a pending block or for an aligned
state, with every record that it was made from. What it wrote is a beginning of its plan, and the
kind of its error tells reads from writes.
-/
namespace ChainRollback

variable {σ β κ : Type} [StateStore σ] [BlockStore β] [Checkpoint κ]
variable {states : σ} {blocks : β} {removeBlock : Bool} {build : BuildVersion}

/-- The kinds of the errors that end a rollback before its first write. -/
def ErrorKind.IsRefusal (k : ErrorKind) : Prop :=
  k = .notFound ∨ k = .invariantViolation ∨ k = .storeRead

/-- The kinds of the errors of a read and of what it did not find. -/
def ErrorKind.IsReadFailure (k : ErrorKind) : Prop := k = .notFound ∨ k = .storeRead

theorem ErrorKind.IsReadFailure.isRefusal {k : ErrorKind} (h : k.IsReadFailure) : k.IsRefusal := by
  rcases h with h | h
  · exact .inl h
  · exact .inr (.inr h)

theorem ErrorKind.IsReadFailure.ne_invariantViolation {k : ErrorKind} (h : k.IsReadFailure) :
    k ≠ .invariantViolation := by
  intro hk
  subst hk
  simp [IsReadFailure] at h

theorem RollbackError.isReadFailure_read (step : ReadStep) (cause : StoreError) :
    (RollbackError.read step cause).kind.IsReadFailure := by
  cases h : cause.isNotFound <;> simp [RollbackError.kind, ErrorKind.IsReadFailure, h]

theorem loadState_eq_ok {s : State} : loadState states = .ok s ↔
    StateStore.load states = .ok (some s) ∧ s.isEmpty = false := by
  simp only [loadState, bind_eq_ok, mapError_eq_ok]
  constructor
  · rintro ⟨o, ho, h⟩
    cases o with
    | none => simp at h
    | some t =>
      dsimp only at h
      split at h
      · simp at h
      · rename_i hempty
        cases h
        exact ⟨ho, by simpa using hempty⟩
  · rintro ⟨ho, hempty⟩
    exact ⟨some s, ho, by simp [hempty]⟩

theorem loadState_of_isEmpty {s : State} (h : StateStore.load states = .ok (some s))
    (hempty : s.isEmpty = true) : loadState states = .error .noState := by
  simp only [loadState, h, mapError_ok, bind, Except.bind, hempty, if_true]
  rfl

theorem loadBlock_eq_ok {h : Height} {b : BlockMeta} :
    loadBlock blocks h = .ok b ↔ BlockStore.loadMeta blocks h = .ok (some b) := by
  simp only [loadBlock, bind_eq_ok, mapError_eq_ok]
  constructor
  · rintro ⟨o, ho, h⟩
    cases o with
    | none => simp at h
    | some a =>
      cases h
      exact ho
  · intro ho
    exact ⟨some b, ho, rfl⟩

/-- The inputs are the records that the stores hold for the height of the invalid state and for the
one below it. -/
structure Gathered (states : σ) (blocks : β) (i : RollbackInputs) (below : Height) : Prop where
  below_toInt : below.toInt = i.invalid.lastBlockHeight.toInt - 1
  rollbackBlock : BlockStore.loadMeta blocks below = .ok (some i.rollbackBlock)
  latestBlock : BlockStore.loadMeta blocks i.invalid.lastBlockHeight = .ok (some i.latestBlock)
  validators : StateStore.loadValidators states below = .ok i.prevValidators
  params : StateStore.loadParams states i.invalid.lastBlockHeight = .ok i.prevParams

theorem gatherInputs_eq_ok {invalid : State} {i : RollbackInputs} :
    gatherInputs states blocks removeBlock invalid = .ok i ↔
      i.invalid = invalid ∧ i.removeBlock = removeBlock ∧
        ∃ below, Gathered states blocks i below := by
  unfold gatherInputs
  dsimp only
  cases hp : invalid.lastBlockHeight.pred? with
  | none =>
    simp only [throw_ne_ok, false_iff, not_and, not_exists]
    rintro rfl - below hg
    rw [Height.pred?_eq_some.mpr hg.below_toInt] at hp
    cases hp
  | some below =>
    simp only [bind_eq_ok, mapError_eq_ok, loadBlock_eq_ok, pure_eq_ok]
    constructor
    · rintro ⟨b, hb, l, hl, v, hv, p, hparams, rfl⟩
      exact ⟨rfl, rfl, below, Height.pred?_eq_some.mp hp, hb, hl, hv, hparams⟩
    · rintro ⟨rfl, rfl, below', hg⟩
      have hbelow : below' = below := by
        rw [Height.pred?_eq_some.mpr hg.below_toInt] at hp
        exact Option.some.inj hp
      subst hbelow
      exact ⟨_, hg.rollbackBlock, _, hg.latestBlock, _, hg.validators, _, hg.params, rfl⟩

def Plan.pending (removeBlock : Bool) (s : State) : Plan :=
  ⟨if removeBlock then [.deleteBlock] else [], ⟨s.lastBlockHeight, s.appHash⟩⟩

def Plan.aligned (i : RollbackInputs) (build : BuildVersion) : Plan :=
  ⟨.saveState (reconstruct i build) ::
      if i.removeBlock then [.deleteBlock, .resetCheckpoint] else [],
    ⟨(reconstruct i build).lastBlockHeight, (reconstruct i build).appHash⟩⟩

/-- The block store is one block ahead of a state. -/
structure PendingAt (states : σ) (blocks : β) (s : State) : Prop where
  loadState : loadState states = .ok s
  height : ∃ h : Height, BlockStore.height blocks = .ok h ∧ h.toInt = s.lastBlockHeight.toInt + 1

/-- The stores are aligned and hold the inputs of a rollback. -/
structure AlignedAt (states : σ) (blocks : β) (i : RollbackInputs) : Prop where
  loadState : loadState states = .ok i.invalid
  height : BlockStore.height blocks = .ok i.invalid.lastBlockHeight
  gathered : ∃ below, Gathered states blocks i below

theorem AlignedAt.not_pendingAt {i : RollbackInputs} {s : State} (h : AlignedAt states blocks i) :
    ¬PendingAt states blocks s := by
  rintro ⟨hs, height, hh, hp⟩
  rw [h.loadState] at hs
  rw [h.height] at hh
  cases hs
  cases hh
  omega

/-- Whether the block is to be removed makes no difference to the inputs. -/
theorem AlignedAt.setRemoveBlock {i : RollbackInputs} (h : AlignedAt states blocks i)
    (removeBlock : Bool) : AlignedAt states blocks { i with removeBlock := removeBlock } := by
  obtain ⟨below, hg⟩ := h.gathered
  exact ⟨h.loadState, h.height, below, hg.below_toInt, hg.rollbackBlock, hg.latestBlock,
    hg.validators, hg.params⟩

/-- What a rollback found when it settled on a plan. -/
inductive Planned (states : σ) (blocks : β) (removeBlock : Bool) (build : BuildVersion) :
    Plan → Prop where
  | pending {s : State} (h : PendingAt states blocks s) :
    Planned states blocks removeBlock build (.pending removeBlock s)
  | aligned {i : RollbackInputs} (h : AlignedAt states blocks i)
    (hr : i.removeBlock = removeBlock) :
    Planned states blocks removeBlock build (.aligned i build)

theorem planRollback_eq_ok {plan : Plan} :
    planRollback states blocks removeBlock build = .ok plan ↔
      Planned states blocks removeBlock build plan := by
  simp only [planRollback, bind_eq_ok, mapError_eq_ok]
  constructor
  · rintro ⟨s, hs, height, hh, alignment, ha, h⟩
    cases alignment with
    | pendingBlock =>
      cases h
      exact .pending ⟨hs, height, hh, classify_eq_pendingBlock.mp ha⟩
    | aligned =>
      simp only [bind_eq_ok, pure_eq_ok] at h
      obtain ⟨i, hi, rfl⟩ := h
      obtain ⟨rfl, hr, hg⟩ := gatherInputs_eq_ok.mp hi
      cases classify_eq_aligned.mp ha
      subst hr
      exact .aligned ⟨hs, hh, hg⟩ rfl
  · intro h
    cases h with
    | pending h =>
      obtain ⟨hs, height, hh, hp⟩ := h
      exact ⟨_, hs, height, hh, _, classify_eq_pendingBlock.mpr hp, rfl⟩
    | aligned h hr =>
      refine ⟨_, h.loadState, _, h.height, _, classify_eq_aligned.mpr rfl, ?_⟩
      rw [gatherInputs_eq_ok.mpr ⟨rfl, hr, h.gathered⟩, ← hr]
      rfl

theorem planRollback_of_noBlock {s : State} {below : Height} (hs : loadState states = .ok s)
    (hh : BlockStore.height blocks = .ok s.lastBlockHeight)
    (hbelow : below.toInt = s.lastBlockHeight.toInt - 1)
    (hnone : BlockStore.loadMeta blocks below = .ok none) :
    planRollback states blocks removeBlock build = .error (.noBlock below) := by
  have hblock : loadBlock blocks below = .error (.noBlock below) := by
    rw [loadBlock, hnone]
    rfl
  have hgather : gatherInputs states blocks removeBlock s = .error (.noBlock below) := by
    simp only [gatherInputs, Height.pred?_eq_some.mpr hbelow, hblock]
    rfl
  simp only [planRollback, hs, hh, mapError_ok, classify_eq_aligned.mpr rfl, hgather, bind,
    Except.bind]

theorem isReadFailure_of_loadState {e : RollbackError} (h : loadState states = .error e) :
    e.kind.IsReadFailure := by
  unfold loadState at h
  rcases bind_eq_error.mp h with h | ⟨o, -, h⟩
  · obtain ⟨cause, -, rfl⟩ := mapError_eq_error.mp h
    exact RollbackError.isReadFailure_read _ cause
  · cases o with
    | none =>
      cases h
      exact .inl rfl
    | some s =>
      dsimp only at h
      split at h
      · cases h
        exact .inl rfl
      · cases h

theorem loadBlock_eq_error {h : Height} {e : RollbackError} (he : loadBlock blocks h = .error e) :
    e = .noBlock h ∨ ∃ step cause, e = .read step cause := by
  unfold loadBlock at he
  rcases bind_eq_error.mp he with he | ⟨o, -, he⟩
  · obtain ⟨cause, -, rfl⟩ := mapError_eq_error.mp he
    exact .inr ⟨_, cause, rfl⟩
  · cases o with
    | none =>
      cases he
      exact .inl rfl
    | some b => cases he

/-- Where it cannot read all that a state is rebuilt from, a rollback answers that something is
missing or that a read failed. -/
theorem gatherInputs_eq_error {invalid : State} {e : RollbackError}
    (h : gatherInputs states blocks removeBlock invalid = .error e) :
    e = .noHeightBelow invalid.lastBlockHeight ∨ (∃ height, e = .noBlock height) ∨
      ∃ step cause, e = .read step cause := by
  have hblock : ∀ {height : Height}, loadBlock blocks height = .error e →
      (∃ height, e = .noBlock height) ∨ ∃ step cause, e = .read step cause :=
    fun he => (loadBlock_eq_error he).imp_left fun heq => ⟨_, heq⟩
  unfold gatherInputs at h
  dsimp only at h
  split at h
  · cases h
    exact .inl rfl
  · right
    rcases bind_eq_error.mp h with h | ⟨_, -, h⟩
    · exact hblock h
    rcases bind_eq_error.mp h with h | ⟨_, -, h⟩
    · exact hblock h
    rcases bind_eq_error.mp h with h | ⟨_, -, h⟩
    · obtain ⟨cause, -, rfl⟩ := mapError_eq_error.mp h
      exact .inr ⟨_, cause, rfl⟩
    rcases bind_eq_error.mp h with h | ⟨_, -, h⟩
    · obtain ⟨cause, -, rfl⟩ := mapError_eq_error.mp h
      exact .inr ⟨_, cause, rfl⟩
    cases h

theorem isReadFailure_of_gatherInputs {invalid : State} {e : RollbackError}
    (h : gatherInputs states blocks removeBlock invalid = .error e) : e.kind.IsReadFailure := by
  rcases gatherInputs_eq_error h with rfl | ⟨height, rfl⟩ | ⟨step, cause, rfl⟩
  · exact .inl rfl
  · exact .inl rfl
  · exact RollbackError.isReadFailure_read step cause

/-- A rollback finds no plan where it finds no state, cannot read the height of the blocks, finds the
heights of the stores at odds or cannot read what the state is rebuilt from. -/
theorem planRollback_eq_error {e : RollbackError}
    (h : planRollback states blocks removeBlock build = .error e) :
    loadState states = .error e ∨ (∃ cause, e = .read .blockHeight cause) ∨
      (∃ s height, loadState states = .ok s ∧ BlockStore.height blocks = .ok height ∧
        classify s.lastBlockHeight height = .error e) ∨
      ∃ s, gatherInputs states blocks removeBlock s = .error e := by
  unfold planRollback at h
  rcases bind_eq_error.mp h with h | ⟨s, hs, h⟩
  · exact .inl h
  rcases bind_eq_error.mp h with h | ⟨height, hh, h⟩
  · obtain ⟨cause, -, rfl⟩ := mapError_eq_error.mp h
    exact .inr (.inl ⟨cause, rfl⟩)
  rcases bind_eq_error.mp h with h | ⟨alignment, -, h⟩
  · exact .inr (.inr (.inl ⟨s, height, hs, mapError_eq_ok.mp hh, h⟩))
  cases alignment with
  | pendingBlock => cases h
  | aligned =>
    rcases bind_eq_error.mp h with h | ⟨_, -, h⟩
    · exact .inr (.inr (.inr ⟨s, h⟩))
    · cases h

/-- A rollback that finds no plan has failed at a read, or found the heights of the stores at
odds. -/
theorem cases_of_planRollback {e : RollbackError}
    (h : planRollback states blocks removeBlock build = .error e) : e.kind.IsReadFailure ∨
      ∃ s height, loadState states = .ok s ∧ BlockStore.height blocks = .ok height ∧
        classify s.lastBlockHeight height = .error e := by
  rcases planRollback_eq_error h with h | ⟨cause, rfl⟩ | h | ⟨s, h⟩
  · exact .inl (isReadFailure_of_loadState h)
  · exact .inl (RollbackError.isReadFailure_read _ cause)
  · exact .inr h
  · exact .inl (isReadFailure_of_gatherInputs h)

theorem isRefusal_of_planRollback {e : RollbackError}
    (h : planRollback states blocks removeBlock build = .error e) : e.kind.IsRefusal := by
  rcases cases_of_planRollback h with h | ⟨s, height, -, -, h⟩
  · exact h.isRefusal
  · rw [classify_eq_error h]
    exact .inr (.inl rfl)

namespace Stores

variable {n m left : Stores σ β κ} {s : State} {writes : List Write} {e : Halt RollbackError}

theorem perform_saveState_eq_ok : n.perform (.saveState s) = (.ok (), m) ↔
    ∃ states, StateStore.save n.states s = .ok states ∧ m = { n with states := states } := by
  simp only [perform]
  cases StateStore.save n.states s <;> simp [eq_comm]

theorem perform_saveState_eq_error : n.perform (.saveState s) = (.error e, m) ↔
    ∃ cause, StateStore.save n.states s = .error cause ∧ e = cause.map .save ∧ m = n := by
  simp only [perform]
  cases StateStore.save n.states s <;> simp [eq_comm]

theorem perform_deleteBlock_eq_ok : n.perform .deleteBlock = (.ok (), m) ↔
    ∃ blocks, BlockStore.deleteLatest n.blocks = .ok blocks ∧ m = { n with blocks := blocks } := by
  unfold perform
  cases BlockStore.deleteLatest n.blocks <;> simp [eq_comm]

theorem perform_deleteBlock_eq_error : n.perform .deleteBlock = (.error e, m) ↔
    ∃ cause, BlockStore.deleteLatest n.blocks = .error cause ∧ e = cause.map .delete ∧ m = n := by
  unfold perform
  cases BlockStore.deleteLatest n.blocks <;> simp [eq_comm]

theorem perform_resetCheckpoint_eq_ok : n.perform .resetCheckpoint = (.ok (), m) ↔
    ∃ c, Checkpoint.reset n.checkpoint = (.ok (), c) ∧ m = { n with checkpoint := c } := by
  unfold perform
  rcases Checkpoint.reset n.checkpoint with ⟨result, c⟩
  cases result <;> simp [eq_comm]

theorem perform_resetCheckpoint_eq_error : n.perform .resetCheckpoint = (.error e, m) ↔
    ∃ cause c, Checkpoint.reset n.checkpoint = (.error cause, c) ∧ e = .error (.reset cause) ∧
      m = { n with checkpoint := c } := by
  unfold perform
  rcases Checkpoint.reset n.checkpoint with ⟨result, c⟩
  cases result with
  | error cause =>
    simp only [mapError_error, Prod.mk.injEq, Except.error.injEq]
    constructor
    · rintro ⟨rfl, rfl⟩
      exact ⟨cause, c, ⟨rfl, rfl⟩, rfl, rfl⟩
    · rintro ⟨_, _, ⟨rfl, rfl⟩, rfl, rfl⟩
      exact ⟨rfl, rfl⟩
  | ok => simp

theorem performAll_cons_eq_ok {w : Write} : n.performAll (w :: writes) = (.ok (), left) ↔
    ∃ m, n.perform w = (.ok (), m) ∧ m.performAll writes = (.ok (), left) := by
  rw [performAll]
  rcases n.perform w with ⟨_ | _, m⟩ <;> simp

theorem performAll_cons_eq_error {w : Write} : n.performAll (w :: writes) = (.error e, left) ↔
    n.perform w = (.error e, left) ∨
      ∃ m, n.perform w = (.ok (), m) ∧ m.performAll writes = (.error e, left) := by
  rw [performAll]
  rcases n.perform w with ⟨_ | _, m⟩ <;> simp

theorem performAll_pending_eq_ok :
    n.performAll (Plan.pending removeBlock s).writes = (.ok (), left) ↔
      if removeBlock then ∃ blocks, BlockStore.deleteLatest n.blocks = .ok blocks ∧
        left = { n with blocks := blocks }
      else left = n := by
  cases removeBlock with
  | false => simp [Plan.pending, performAll, eq_comm]
  | true =>
    simp only [Plan.pending, if_true, performAll_cons_eq_ok, perform_deleteBlock_eq_ok]
    constructor
    · rintro ⟨m, ⟨blocks, hb, rfl⟩, h⟩
      cases h
      exact ⟨blocks, hb, rfl⟩
    · rintro ⟨blocks, hb, rfl⟩
      exact ⟨_, ⟨blocks, hb, rfl⟩, rfl⟩

theorem performAll_aligned_eq_ok {i : RollbackInputs} :
    n.performAll (Plan.aligned i build).writes = (.ok (), left) ↔
      ∃ states, StateStore.save n.states (reconstruct i build) = .ok states ∧
        if i.removeBlock then ∃ blocks c, BlockStore.deleteLatest n.blocks = .ok blocks ∧
          Checkpoint.reset n.checkpoint = (.ok (), c) ∧ left = ⟨states, blocks, c⟩
        else left = { n with states := states } := by
  simp only [Plan.aligned, performAll_cons_eq_ok, perform_saveState_eq_ok]
  cases i.removeBlock with
  | false =>
    constructor
    · rintro ⟨m, ⟨states, hs, rfl⟩, h⟩
      cases h
      exact ⟨states, hs, rfl⟩
    · rintro ⟨states, hs, rfl⟩
      exact ⟨_, ⟨states, hs, rfl⟩, rfl⟩
  | true =>
    simp only [if_true, performAll_cons_eq_ok, perform_deleteBlock_eq_ok,
      perform_resetCheckpoint_eq_ok]
    constructor
    · rintro ⟨m, ⟨states, hs, rfl⟩, m, ⟨blocks, hb, rfl⟩, m, ⟨c, hc, rfl⟩, h⟩
      cases h
      exact ⟨states, hs, blocks, c, hb, hc, rfl⟩
    · rintro ⟨states, hs, blocks, c, hb, hc, rfl⟩
      exact ⟨_, ⟨states, hs, rfl⟩, _, ⟨blocks, hb, rfl⟩, _, ⟨c, hc, rfl⟩, rfl⟩

/-- The plan for an aligned state is carried out if each of its writes is accepted. -/
theorem performAll_aligned_of_ok {i : RollbackInputs} {states : σ} {blocks : β}
    (hs : StateStore.save n.states (reconstruct i build) = .ok states)
    (hb : BlockStore.deleteLatest n.blocks = .ok blocks)
    (hc : (Checkpoint.reset n.checkpoint).1 = .ok ()) :
    n.performAll (Plan.aligned i build).writes = (.ok (),
      ⟨states, if i.removeBlock then blocks else n.blocks,
        if i.removeBlock then (Checkpoint.reset n.checkpoint).2 else n.checkpoint⟩) := by
  refine performAll_aligned_eq_ok.mpr ⟨states, hs, ?_⟩
  cases i.removeBlock with
  | false => rfl
  | true => exact ⟨blocks, _, hb, Prod.ext hc rfl, rfl⟩

/-- Whether or not all of its writes are made, the plan for a pending block removes that block or
nothing. -/
theorem performAll_pending_cases {r : Except (Halt RollbackError) Unit}
    (h : n.performAll (Plan.pending removeBlock s).writes = (r, left)) :
    left = n ∨ ∃ blocks, BlockStore.deleteLatest n.blocks = .ok blocks ∧
      left = { n with blocks := blocks } := by
  cases removeBlock with
  | false =>
    cases h
    exact .inl rfl
  | true =>
    cases hd : BlockStore.deleteLatest n.blocks with
    | error e =>
      simp only [Plan.pending, if_true, performAll, perform, hd] at h
      cases h
      exact .inl rfl
    | ok blocks =>
      simp only [Plan.pending, if_true, performAll, perform, hd] at h
      cases h
      exact .inr ⟨blocks, rfl, rfl⟩

/-- A rollback of an aligned node whose stores accept the writes saves the rebuilt state, and
deletes a block on request, also if the checkpoint is not reset after that. -/
theorem rollback_of_aligned {i : RollbackInputs} {states : σ} {blocks : β}
    (ha : AlignedAt n.states n.blocks i)
    (hs : StateStore.save n.states (reconstruct i build) = .ok states)
    (hb : BlockStore.deleteLatest n.blocks = .ok blocks) :
    (n.rollback i.removeBlock build).2.states = states ∧
      (n.rollback i.removeBlock build).2.blocks = if i.removeBlock then blocks else n.blocks := by
  have hplan : planRollback n.states n.blocks i.removeBlock build = .ok (.aligned i build) :=
    planRollback_eq_ok.mpr (.aligned ha rfl)
  simp only [rollback, hplan, Plan.aligned, performAll, perform, hs]
  cases i.removeBlock with
  | false => exact ⟨rfl, rfl⟩
  | true =>
    simp only [if_true, performAll, perform, hb]
    rcases Checkpoint.reset n.checkpoint with ⟨_ | _, c⟩
    · exact ⟨rfl, rfl⟩
    · exact ⟨rfl, rfl⟩

theorem rollback_eq_ok {out : Outcome} : n.rollback removeBlock build = (.ok out, left) ↔
    ∃ plan, Planned n.states n.blocks removeBlock build plan ∧ plan.outcome = out ∧
      n.performAll plan.writes = (.ok (), left) := by
  unfold rollback
  simp only [← planRollback_eq_ok]
  cases planRollback n.states n.blocks removeBlock build with
  | error e => simp
  | ok plan => rcases hall : n.performAll plan.writes with ⟨_ | _, m⟩ <;> simp [hall, Except.map]

/-- A rollback of stores at one height that succeeds has carried out the plan for that height. -/
theorem aligned_of_rollback {out : Outcome} (hs : StateStore.load n.states = .ok (some s))
    (hh : BlockStore.height n.blocks = .ok s.lastBlockHeight)
    (h : n.rollback removeBlock build = (.ok out, left)) :
    ∃ i, i.invalid = s ∧ i.removeBlock = removeBlock ∧ AlignedAt n.states n.blocks i ∧
      (Plan.aligned i build).outcome = out ∧
      n.performAll (Plan.aligned i build).writes = (.ok (), left) := by
  obtain ⟨plan, hplan, hout, hw⟩ := rollback_eq_ok.mp h
  cases hplan with
  | pending hp =>
    obtain ⟨hs', height, hh', hp⟩ := hp
    cases hs.symm.trans (loadState_eq_ok.mp hs').1
    cases hh.symm.trans hh'
    omega
  | @aligned i hi hr =>
    cases hs.symm.trans (loadState_eq_ok.mp hi.loadState).1
    exact ⟨i, rfl, hr, hi, hout, hw⟩

theorem rollback_eq_error : n.rollback removeBlock build = (.error e, left) ↔
    (∃ refusal, planRollback n.states n.blocks removeBlock build = .error refusal ∧
      e = .error refusal ∧ left = n) ∨
    ∃ plan, Planned n.states n.blocks removeBlock build plan ∧
      n.performAll plan.writes = (.error e, left) := by
  unfold rollback
  simp only [← planRollback_eq_ok]
  cases planRollback n.states n.blocks removeBlock build with
  | error e' => simp [eq_comm]
  | ok plan => rcases hall : n.performAll plan.writes with ⟨_ | _, m⟩ <;> simp [hall, Except.map]

/-- How a rollback can fail, by the step that failed, and what it leaves. -/
inductive StopsWith (n : Stores σ β κ) (removeBlock : Bool) (build : BuildVersion)
    (e : Halt RollbackError) (left : Stores σ β κ) : Prop where
  | refused {refusal : RollbackError}
    (hplan : planRollback n.states n.blocks removeBlock build = .error refusal)
    (he : e = .error refusal) (hl : left = n)
  | pendingDelete {s : State} {cause : Halt StoreError} (hp : PendingAt n.states n.blocks s)
    (hremove : removeBlock = true) (hb : BlockStore.deleteLatest n.blocks = .error cause)
    (he : e = cause.map .delete) (hl : left = n)
  | save {i : RollbackInputs} {cause : Halt StoreError} (hi : AlignedAt n.states n.blocks i)
    (hr : i.removeBlock = removeBlock)
    (hs : StateStore.save n.states (reconstruct i build) = .error cause)
    (he : e = cause.map .save) (hl : left = n)
  | delete {i : RollbackInputs} {states : σ} {cause : Halt StoreError}
    (hi : AlignedAt n.states n.blocks i) (hr : i.removeBlock = removeBlock)
    (hremove : removeBlock = true)
    (hs : StateStore.save n.states (reconstruct i build) = .ok states)
    (hb : BlockStore.deleteLatest n.blocks = .error cause)
    (he : e = cause.map .delete) (hl : left = { n with states := states })
  | reset {i : RollbackInputs} {states : σ} {blocks : β} {c : κ} {cause : CheckpointError}
    (hi : AlignedAt n.states n.blocks i) (hr : i.removeBlock = removeBlock)
    (hremove : removeBlock = true)
    (hs : StateStore.save n.states (reconstruct i build) = .ok states)
    (hb : BlockStore.deleteLatest n.blocks = .ok blocks)
    (hc : Checkpoint.reset n.checkpoint = (.error cause, c))
    (he : e = .error (.reset cause)) (hl : left = ⟨states, blocks, c⟩)

theorem stopsWith_of_pending (hp : PendingAt n.states n.blocks s)
    (h : n.performAll (Plan.pending removeBlock s).writes = (.error e, left)) :
    n.StopsWith removeBlock build e left := by
  cases removeBlock with
  | false => simp [Plan.pending, performAll] at h
  | true =>
    rcases performAll_cons_eq_error.mp h with h | ⟨m, -, h⟩
    · obtain ⟨cause, hb, he, hl⟩ := perform_deleteBlock_eq_error.mp h
      exact .pendingDelete hp rfl hb he hl
    · simp [performAll] at h

theorem stopsWith_of_aligned {i : RollbackInputs} (hi : AlignedAt n.states n.blocks i)
    (hr : i.removeBlock = removeBlock)
    (h : n.performAll (Plan.aligned i build).writes = (.error e, left)) :
    n.StopsWith removeBlock build e left := by
  unfold Plan.aligned at h
  rcases performAll_cons_eq_error.mp h with h | ⟨m, hs, h⟩
  · obtain ⟨cause, hs, he, hl⟩ := perform_saveState_eq_error.mp h
    exact .save hi hr hs he hl
  obtain ⟨states, hsave, rfl⟩ := perform_saveState_eq_ok.mp hs
  cases removeBlock with
  | false => simp [hr, performAll] at h
  | true =>
    rw [hr, if_pos rfl] at h
    rcases performAll_cons_eq_error.mp h with h | ⟨m, hb, h⟩
    · obtain ⟨cause, hfails, he, hl⟩ := perform_deleteBlock_eq_error.mp h
      exact .delete hi hr rfl hsave hfails he hl
    obtain ⟨blocks, hdelete, rfl⟩ := perform_deleteBlock_eq_ok.mp hb
    rcases performAll_cons_eq_error.mp h with h | ⟨m, -, h⟩
    · obtain ⟨cause, c, hc, he, hl⟩ := perform_resetCheckpoint_eq_error.mp h
      exact .reset hi hr rfl hsave hdelete hc he hl
    · simp [performAll] at h

/-- Whatever the stores do, a rollback that fails does so in one of these ways. -/
theorem stopsWith_of_rollback (h : n.rollback removeBlock build = (.error e, left)) :
    n.StopsWith removeBlock build e left := by
  rcases rollback_eq_error.mp h with ⟨refusal, hplan, he, hl⟩ | ⟨plan, hplan, hw⟩
  · exact .refused hplan he hl
  · cases hplan with
    | pending hp => exact stopsWith_of_pending hp hw
    | aligned hi hr => exact stopsWith_of_aligned hi hr hw

/-- A rollback of a node that is not aligned, or lacks an input, removes a pending block or nothing. -/
theorem rollback_of_not_aligned {r : Except (Halt RollbackError) Outcome}
    (hi : ∀ i, ¬AlignedAt n.states n.blocks i) (h : n.rollback removeBlock build = (r, left)) :
    left = n ∨ ∃ s blocks, PendingAt n.states n.blocks s ∧
      BlockStore.deleteLatest n.blocks = .ok blocks ∧ left = { n with blocks := blocks } := by
  cases hplan : planRollback n.states n.blocks removeBlock build with
  | error e =>
    simp only [rollback, hplan] at h
    cases h
    exact .inl rfl
  | ok plan =>
    cases planRollback_eq_ok.mp hplan with
    | aligned ha _ => exact absurd ha (hi _)
    | @pending s hp =>
      rcases hall : n.performAll (Plan.pending removeBlock s).writes with ⟨result, m⟩
      simp only [rollback, hplan, hall] at h
      cases h
      rcases performAll_pending_cases hall with rfl | ⟨blocks, hd, rfl⟩
      · exact .inl rfl
      · exact .inr ⟨s, blocks, hp, hd, rfl⟩

/-- Rollbacks in turn, with the outcome of each, up to the first that fails. -/
def rollbackEach (n : Stores σ β κ) (removeBlock : Bool) :
    List BuildVersion → Except (Halt RollbackError) (List Outcome) × Stores σ β κ
  | [] => (.ok [], n)
  | build :: rest =>
    match n.rollback removeBlock build with
    | (.ok out, n) =>
      let (result, n) := n.rollbackEach removeBlock rest
      (result.map (out :: ·), n)
    | (.error e, n) => (.error e, n)

theorem rollbackEach_cons_of_ok {builds : List BuildVersion} {out : Outcome}
    {outcomes : List Outcome} (h : n.rollback removeBlock build = (.ok out, m))
    (hrest : m.rollbackEach removeBlock builds = (.ok outcomes, left)) :
    n.rollbackEach removeBlock (build :: builds) = (.ok (out :: outcomes), left) := by
  rw [rollbackEach, h]
  simp only [hrest, Except.map]

end Stores
end ChainRollback
