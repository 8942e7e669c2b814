import ChainRollback.Proofs.Rollback.Level

/-! # Whether a state is found after a rollback

A state without validators counts as none. A rollback does not start from such a state, but it looks
no further than the validators of the height that it starts from, and those of the state that it
saves are the ones of the height below. Where these are missing, the rollback succeeds and neither
a report nor another rollback finds a state after it.
-/
namespace ChainRollback
open Codec

section
variable {σ β κ : Type} [StateStore σ] [BlockStore β] [Checkpoint κ] {n : Stores σ β κ}

theorem planRollback_eq_noState {states : σ} {blocks : β} {removeBlock : Bool}
    {build : BuildVersion} : planRollback states blocks removeBlock build = .error .noState ↔
      loadState states = .error .noState := by
  constructor
  · intro h
    rcases planRollback_eq_error h with h | ⟨cause, he⟩ | ⟨s, height, -, -, h⟩ | ⟨s, h⟩
    · exact h
    · cases he
    · cases classify_eq_error h
    · rcases gatherInputs_eq_error h with he | ⟨height, he⟩ | ⟨step, cause, he⟩ <;> cases he
  · intro h
    unfold planRollback
    rw [h]
    rfl

theorem status_eq_noState {states : σ} {blocks : β} :
    StoreStatus.read blocks states = .error .noState ↔ loadState states = .error .noState := by
  constructor
  · intro h
    rcases status_eq_error h with h | ⟨step, cause, he⟩
    · exact h
    · cases he
  · intro h
    unfold StoreStatus.read
    rw [h]
    rfl

namespace Stores

/-- A report and every rollback answer that there is no state, and nothing changes. -/
structure FindsNoState (n : Stores σ β κ) : Prop where
  status : StoreStatus.read n.blocks n.states = .error .noState
  rollback : ∀ removeBlock build, n.rollback removeBlock build = (.error (.error .noState), n)

/-- Neither a report nor any rollback answers that there is no state. -/
structure FindsState (n : Stores σ β κ) : Prop where
  status : StoreStatus.read n.blocks n.states ≠ .error .noState
  rollback : ∀ removeBlock build, (n.rollback removeBlock build).1 ≠ .error (.error .noState)

theorem FindsState.not_findsNoState (h : n.FindsState) : ¬n.FindsNoState :=
  fun hnone => h.status hnone.status

theorem rollback_ne_noState (h : loadState n.states ≠ .error .noState) (removeBlock : Bool)
    (build : BuildVersion) : (n.rollback removeBlock build).1 ≠ .error (.error .noState) := by
  have hcause : ∀ {cause : Halt StoreError} {f : StoreError → RollbackError},
      (∀ c, f c ≠ .noState) → Halt.error .noState ≠ cause.map f := by
    intro cause f hf he
    cases cause with
    | overflow o => cases he
    | error c => exact hf c (Halt.error.inj he).symm
  intro he
  cases stopsWith_of_rollback (Prod.ext he rfl) with
  | refused hplan hrefusal =>
    cases hrefusal
    exact h (planRollback_eq_noState.mp hplan)
  | pendingDelete _ _ _ he => exact hcause (fun _ => by simp) he
  | save _ _ _ he => exact hcause (fun _ => by simp) he
  | delete _ _ _ _ _ he => exact hcause (fun _ => by simp) he
  | reset _ _ _ _ _ _ he => cases he

theorem findsNoState_of_isEmpty {s : State} (hs : StateStore.load n.states = .ok (some s))
    (hempty : s.isEmpty = true) : n.FindsNoState := by
  have hnone := loadState_of_isEmpty hs hempty
  refine ⟨status_eq_noState.mpr hnone, fun removeBlock build => ?_⟩
  exact rollback_eq_error.mpr (.inl ⟨_, planRollback_eq_noState.mpr hnone, rfl, rfl⟩)

theorem findsState_of_not_isEmpty {s : State} (hs : StateStore.load n.states = .ok (some s))
    (hempty : s.isEmpty = false) : n.FindsState := by
  have hne : loadState n.states ≠ .error .noState := by
    rw [loadState_eq_ok.mpr ⟨hs, hempty⟩]
    intro h
    cases h
  exact ⟨mt status_eq_noState.mp hne, rollback_ne_noState hne⟩

/-- Whether a state is found is whether the stored one has validators. -/
theorem findsState_iff {s : State} (hs : StateStore.load n.states = .ok (some s)) :
    (n.FindsState ↔ s.isEmpty = false) ∧ (n.FindsNoState ↔ s.isEmpty = true) := by
  cases hempty : s.isEmpty with
  | false =>
    have hfinds := findsState_of_not_isEmpty hs hempty
    exact ⟨iff_of_true hfinds rfl, iff_of_false hfinds.not_findsNoState (by decide)⟩
  | true =>
    have hnone := findsNoState_of_isEmpty hs hempty
    exact ⟨iff_of_false (fun h => h.not_findsNoState hnone) (by decide), iff_of_true hnone rfl⟩

end Stores
end

variable {κ : Type} [Checkpoint κ]

/-- After a rollback of an aligned node a state is found exactly if the state before it had last
validators, since those are the validators of the state that it saves. -/
theorem findsState_iff_of_rollback (n : Stores AnyStateStore AnyBlockStore κ) (removeBlock : Bool)
    (build : BuildVersion) (hbuild : TextFits build.software)
    (hb : ∀ h b, BlockStore.loadMeta n.blocks h = .ok (some b) → b.Fits) {s : State}
    (hs : StateStore.load n.states = .ok (some s))
    (hh : BlockStore.height n.blocks = .ok s.lastBlockHeight) {out : Outcome}
    {left : Stores AnyStateStore AnyBlockStore κ}
    (h : n.rollback removeBlock build = (.ok out, left)) :
    (∃ saved, StateStore.load left.states = .ok (some saved) ∧
      saved.validators = s.lastValidators) ∧
    (left.FindsState ↔ s.lastValidators.isEmpty = false) ∧
    (left.FindsNoState ↔ s.lastValidators.isEmpty = true) := by
  obtain ⟨i, rfl, -, hi, -, hw⟩ := Stores.aligned_of_rollback hs hh h
  obtain ⟨states, hsave, hdone⟩ := Stores.performAll_aligned_eq_ok.mp hw
  have hleft : left.states = states := by
    split at hdone
    · obtain ⟨blocks, c, -, -, rfl⟩ := hdone
      rfl
    · rw [hdone]
  have hload := hi.load_saved hb hbuild hsave
  rw [← hleft] at hload
  exact ⟨⟨_, hload, rfl⟩, Stores.findsState_iff hload⟩

theorem findsState_iff_of_two_blocks : ∃ out left,
    TwoBlocks.node.rollback false .current = (.ok out, left) ∧
    (∃ saved, StateStore.load left.states = .ok (some saved) ∧
      saved.validators = TwoBlocks.state.lastValidators) ∧
    (left.FindsState ↔ TwoBlocks.state.lastValidators.isEmpty = false) ∧
    (left.FindsNoState ↔ TwoBlocks.state.lastValidators.isEmpty = true) := by
  have hb : BuiltBlocks Height.IsPositive TwoBlocks.node.blocks :=
    TwoBlocks.built_blocks (by decide) (by decide)
  obtain ⟨f, hf⟩ := hb.files
  have hok : TwoBlocks.node.rollback false .current = (.ok ⟨1, []⟩, _) := Prod.ext rfl rfl
  exact ⟨_, _, hok, findsState_iff_of_rollback TwoBlocks.node false .current (by decide +kernel)
    hf.atOwnHeights.fits rfl rfl hok⟩

def withoutLastValidators : Stores AnyStateStore AnyBlockStore MemoryCheckpoint :=
  { TwoBlocks.node with states := .inl (TwoBlocks.states.putState
      { TwoBlocks.state with lastValidators := .empty }) }

/-- A report and a rollback accept the state. What either mode leaves is none to the next. -/
theorem findsNoState_without_lastValidators : ∃ out kept removed,
    StoreStatus.read withoutLastValidators.blocks withoutLastValidators.states = .ok ⟨2, 1, 2⟩ ∧
    withoutLastValidators.rollback false .current = (.ok out, kept) ∧ kept.FindsNoState ∧
    withoutLastValidators.rollback true .current = (.ok out, removed) ∧ removed.FindsNoState := by
  have hkept : withoutLastValidators.rollback false .current = (.ok ⟨1, []⟩, _) := Prod.ext rfl rfl
  have hremoved : withoutLastValidators.rollback true .current = (.ok ⟨1, []⟩, _) :=
    Prod.ext rfl rfl
  exact ⟨_, _, _, rfl, hkept, Stores.findsNoState_of_isEmpty rfl rfl, hremoved,
    Stores.findsNoState_of_isEmpty rfl rfl⟩

end ChainRollback
