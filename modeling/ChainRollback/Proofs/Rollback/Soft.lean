import ChainRollback.Proofs.Rollback.Level

/-! # Soft rollbacks can be repeated

A soft rollback keeps the block of the state that it replaces. The next one finds that block ahead
of the state, reports the state and changes nothing, and so does every one after it: however many
soft rollbacks are run, and whichever versions run them, they lower the state by one height at most.
-/
namespace ChainRollback
open Codec

section
variable {σ β κ : Type} [StateStore σ] [BlockStore β] [Checkpoint κ] {n : Stores σ β κ} {s : State}

theorem PendingAt.soft_rollback (h : PendingAt n.states n.blocks s) (build : BuildVersion) :
    n.rollback false build = (.ok ⟨s.lastBlockHeight, s.appHash⟩, n) :=
  Stores.rollback_eq_ok.mpr ⟨_, .pending h, rfl, Stores.performAll_pending_eq_ok.mpr rfl⟩

theorem PendingAt.soft_rollbackEach (h : PendingAt n.states n.blocks s)
    (builds : List BuildVersion) : n.rollbackEach false builds =
      (.ok (List.replicate builds.length ⟨s.lastBlockHeight, s.appHash⟩), n) := by
  induction builds with
  | nil => rfl
  | cons build builds ih => exact Stores.rollbackEach_cons_of_ok (h.soft_rollback build) ih

end

section
variable {κ : Type} [Checkpoint κ] {n left : Stores AnyStateStore AnyBlockStore κ}
variable {build : BuildVersion} {out : Outcome}

omit [Checkpoint κ] in
theorem AlignedAt.pendingAt_saved {i : RollbackInputs} {states : AnyStateStore}
    (h : AlignedAt n.states n.blocks i) (hb : BlocksAtOwnHeights n.blocks)
    (hbuild : TextFits build.software)
    (hs : StateStore.save n.states (reconstruct i build) = .ok states)
    (hne : i.invalid.lastValidators.isEmpty = false) :
    PendingAt states n.blocks (reconstruct i build) := by
  have hempty : (reconstruct i build).isEmpty = false := hne
  have hheight : (reconstruct i build).lastBlockHeight.toInt = _ :=
    h.rollbackBlock_height hb.height_eq
  exact ⟨loadState_eq_ok.mpr ⟨h.load_saved hb.fits hbuild hs, hempty⟩, _, h.height, by omega⟩

/-- After a soft rollback a block is pending above the state that it has reported, which is the one
before or one height lower. -/
theorem pendingAt_of_soft_rollback (hbuild : TextFits build.software)
    (hb : BlocksAtOwnHeights n.blocks)
    (hne : ∀ s, StateStore.load n.states = .ok (some s) →
      BlockStore.height n.blocks = .ok s.lastBlockHeight → s.lastValidators.isEmpty = false)
    (h : n.rollback false build = (.ok out, left)) :
    ∃ s s', loadState n.states = .ok s ∧ PendingAt left.states left.blocks s' ∧
      out = ⟨s'.lastBlockHeight, s'.appHash⟩ ∧
      (s' = s ∨ s'.lastBlockHeight.toInt = s.lastBlockHeight.toInt - 1) := by
  obtain ⟨plan, hplan, rfl, hw⟩ := Stores.rollback_eq_ok.mp h
  cases hplan with
  | @pending s hp =>
    have hleft : left = n := Stores.performAll_pending_eq_ok.mp hw
    subst hleft
    exact ⟨s, s, hp.loadState, hp, rfl, .inl rfl⟩
  | @aligned i hi hr =>
    obtain ⟨states, hs, hleft⟩ := Stores.performAll_aligned_eq_ok.mp hw
    simp only [hr, Bool.false_eq_true, if_false] at hleft
    subst hleft
    have hvalidators := hne i.invalid (loadState_eq_ok.mp hi.loadState).1 hi.height
    have hpending := hi.pendingAt_saved hb hbuild hs hvalidators
    exact ⟨i.invalid, reconstruct i build, hi.loadState, hpending, rfl,
      .inr (hi.rollbackBlock_height hb.height_eq)⟩

/-- After a soft rollback that succeeds, every further one has the same outcome and leaves the
stores and the checkpoint as they are, so all of them together lower the state by one height at
most. -/
theorem soft_rollbacks_repeat (n : Stores AnyStateStore AnyBlockStore κ) (build : BuildVersion)
    (hbuild : TextFits build.software) (hb : BlocksAtOwnHeights n.blocks)
    (hne : ∀ s, StateStore.load n.states = .ok (some s) →
      BlockStore.height n.blocks = .ok s.lastBlockHeight → s.lastValidators.isEmpty = false)
    {out : Outcome} {left : Stores AnyStateStore AnyBlockStore κ}
    (h : n.rollback false build = (.ok out, left)) (builds : List BuildVersion) :
    left.rollbackEach false builds = (.ok (List.replicate builds.length out), left) ∧
    n.rollbackEach false (build :: builds) =
      (.ok (List.replicate (builds.length + 1) out), left) ∧
    ∃ s s', StateStore.load n.states = .ok (some s) ∧ StateStore.load left.states = .ok (some s') ∧
      s'.lastBlockHeight = out.height ∧
      s.lastBlockHeight.toInt - 1 ≤ s'.lastBlockHeight.toInt ∧
      s'.lastBlockHeight.toInt ≤ s.lastBlockHeight.toInt := by
  obtain ⟨s, s', hs, hp, rfl, hlower⟩ := pendingAt_of_soft_rollback hbuild hb hne h
  have hrest := hp.soft_rollbackEach builds
  refine ⟨hrest, Stores.rollbackEach_cons_of_ok h hrest, s, s', (loadState_eq_ok.mp hs).1,
    (loadState_eq_ok.mp hp.loadState).1, rfl, ?_⟩
  rcases hlower with rfl | hlower
  · omega
  · omega

theorem soft_rollbacks_repeat_of_two_blocks : ∃ out left,
    TwoBlocks.node.rollback false .current = (.ok out, left) ∧
    ∀ builds, left.rollbackEach false builds = (.ok (List.replicate builds.length out), left) ∧
      TwoBlocks.node.rollbackEach false (.current :: builds) =
        (.ok (List.replicate (builds.length + 1) out), left) ∧
      ∃ s s', StateStore.load TwoBlocks.node.states = .ok (some s) ∧
        StateStore.load left.states = .ok (some s') ∧ s'.lastBlockHeight = out.height ∧
        s.lastBlockHeight.toInt - 1 ≤ s'.lastBlockHeight.toInt ∧
        s'.lastBlockHeight.toInt ≤ s.lastBlockHeight.toInt := by
  have hbuild : TextFits BuildVersion.current.software := by decide +kernel
  have hbuilt : BuiltBlocks (fun _ => True) (.inl TwoBlocks.blocks) :=
    TwoBlocks.built_blocks trivial trivial
  obtain ⟨f, hf⟩ := hbuilt.files
  have hne : ∀ s, StateStore.load TwoBlocks.node.states = .ok (some s) →
      BlockStore.height TwoBlocks.node.blocks = .ok s.lastBlockHeight →
      s.lastValidators.isEmpty = false := by
    intro s hs _
    cases hs
    rfl
  have hok : TwoBlocks.node.rollback false .current = (.ok ⟨1, []⟩, _) := Prod.ext rfl rfl
  exact ⟨_, _, hok,
    soft_rollbacks_repeat TwoBlocks.node .current hbuild hf.atOwnHeights hne hok⟩

end
end ChainRollback
