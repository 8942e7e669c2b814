import ChainRollback.Proofs.Rollback.Descent
import ChainRollback.Proofs.Rollback.Failure

/-! # Repeating a hard rollback

A hard rollback of an aligned node makes three writes, and an attempt that stops early has made
none, one or two of them. Repeating it starts from the heights that are left. After no write it is
the rollback itself. After one it finds a pending block, which it removes without a reset of the
checkpoint. After two it finds a node that is aligned one height lower, so it never ends where the
uninterrupted rollback does.
-/
namespace ChainRollback
open Codec

section
variable {σ β κ : Type} [StateStore σ] [BlockStore β] [Checkpoint κ]
variable {n m left final done : Stores σ β κ} {build : BuildVersion} {i : RollbackInputs}

/-- Where an attempt at a hard rollback can leave the stores without being done: it returned an
error because some calls failed, or it was killed before the last of its writes. -/
inductive Interrupted (n : Stores σ β κ) (build : BuildVersion) : Stores σ β κ → Prop where
  | failed {f : Faults} {e : Halt RollbackError}
    {left : Stores (FaultyStateStore σ) (FaultyBlockStore β) (FaultyCheckpoint κ)}
    (h : (n.behind f).rollback true build = (.error e, left)) : Interrupted n build left.bare
  | killed {plan : Plan} {k : Nat} {m : Stores σ β κ}
    (hp : planRollback n.states n.blocks true build = .ok plan) (hk : k < plan.writes.length)
    (h : n.performAll (plan.writes.take k) = (.ok (), m)) : Interrupted n build m

/-- Hard rollbacks without faults, one after another until one succeeds. -/
inductive RetriedUntilOk (build : BuildVersion) : Stores σ β κ → Stores σ β κ → Prop where
  | ok {m left : Stores σ β κ} {out : Outcome} (h : m.rollback true build = (.ok out, left)) :
    RetriedUntilOk build m left
  | again {m left final : Stores σ β κ} {e : Halt RollbackError}
    (h : m.rollback true build = (.error e, left)) (rest : RetriedUntilOk build left final) :
    RetriedUntilOk build m final

theorem retriedUntilOk_iff_of_ok {out : Outcome} (h : m.rollback true build = (.ok out, left)) :
    RetriedUntilOk build m final ↔ final = left := by
  constructor
  · intro hr
    cases hr with
    | ok h' =>
      rw [h] at h'
      cases h'
      rfl
    | again h' _ =>
      rw [h] at h'
      cases h'
  · rintro rfl
    exact .ok h

theorem not_retriedUntilOk_of_refused {e : RollbackError}
    (h : planRollback m.states m.blocks true build = .error e) : ¬RetriedUntilOk build m final := by
  have hrollback : m.rollback true build = (.error (.error e), m) :=
    Stores.rollback_eq_error.mpr (.inl ⟨e, h, rfl, rfl⟩)
  intro hr
  induction hr with
  | ok h' =>
    rw [hrollback] at h'
    cases h'
  | again h' _ ih =>
    rw [hrollback] at h'
    cases h'
    exact ih h hrollback

structure HardRollback (n : Stores σ β κ) (build : BuildVersion) (i : RollbackInputs)
    (done : Stores σ β κ) : Prop where
  aligned : AlignedAt n.states n.blocks i
  removeBlock : i.removeBlock = true
  save : StateStore.save n.states (reconstruct i build) = .ok done.states
  delete : BlockStore.deleteLatest n.blocks = .ok done.blocks
  reset : Checkpoint.reset n.checkpoint = (.ok (), done.checkpoint)

omit [Checkpoint κ] in
theorem AlignedAt.unique {j : RollbackInputs} (h : AlignedAt n.states n.blocks i)
    (h' : AlignedAt n.states n.blocks j) (hr : i.removeBlock = j.removeBlock) : i = j := by
  obtain ⟨s, b, l, v, p, r⟩ := i
  obtain ⟨s', b', l', v', p', r'⟩ := j
  obtain ⟨hs, -, below, hg⟩ := h
  obtain ⟨hs', -, below', hg'⟩ := h'
  rw [hs] at hs'
  cases hs'
  have hbelow : below = below' := Int64.toInt_inj.mp (hg.below_toInt.trans hg'.below_toInt.symm)
  subst hbelow
  cases hr
  cases hg.rollbackBlock.symm.trans hg'.rollbackBlock
  cases hg.latestBlock.symm.trans hg'.latestBlock
  cases hg.validators.symm.trans hg'.validators
  cases hg.params.symm.trans hg'.params
  rfl

theorem exists_hardRollback {s : State} {out : Outcome}
    (hs : StateStore.load n.states = .ok (some s))
    (hh : BlockStore.height n.blocks = .ok s.lastBlockHeight)
    (h : n.rollback true build = (.ok out, done)) :
    ∃ i, i.invalid = s ∧ HardRollback n build i done := by
  obtain ⟨i, rfl, hr, hi, -, hw⟩ := Stores.aligned_of_rollback hs hh h
  obtain ⟨states, hsave, hrest⟩ := Stores.performAll_aligned_eq_ok.mp hw
  rw [if_pos hr] at hrest
  obtain ⟨blocks, c, hdelete, hreset, rfl⟩ := hrest
  exact ⟨i, rfl, hi, hr, hsave, hdelete, hreset⟩

/-- What the stores are with the first none, one or two writes of a hard rollback made. -/
inductive Partway (n done : Stores σ β κ) : Stores σ β κ → Prop where
  | untouched : Partway n done n
  | saved : Partway n done { n with states := done.states }
  | deleted : Partway n done { done with checkpoint := n.checkpoint }

theorem partway_of_failed (h : HardRollback n build i done) {e : Halt RollbackError}
    (hf : n.FailsWith true build e left) : Partway n done left := by
  cases hf with
  | refused _ _ hl =>
    rw [hl]
    exact .untouched
  | pendingDelete hp => exact absurd hp h.aligned.not_pendingAt
  | save _ _ _ hl =>
    rw [hl]
    exact .untouched
  | @delete j states _ hj hr _ hs _ hl =>
    cases hj.unique h.aligned (hr.trans h.removeBlock.symm)
    cases hs.symm.trans h.save
    rw [hl]
    exact .saved
  | @reset j states blocks c _ hj hr _ hs hb hc _ hl =>
    cases hj.unique h.aligned (hr.trans h.removeBlock.symm)
    cases hs.symm.trans h.save
    cases hb.symm.trans h.delete
    rcases hc with rfl | hc
    · rw [hl]
      exact .deleted
    · cases hc.symm.trans h.reset

theorem partway_of_killed (h : HardRollback n build i done) {k : Nat}
    (hk : k < (Plan.aligned i build).writes.length)
    (hw : n.performAll ((Plan.aligned i build).writes.take k) = (.ok (), m)) :
    Partway n done m := by
  simp only [Plan.aligned, h.removeBlock, if_true, List.length_cons, List.length_nil] at hk hw
  rcases (by omega : k = 0 ∨ k = 1 ∨ k = 2) with rfl | rfl | rfl
  · cases hw
    exact .untouched
  · obtain ⟨_, hs, hw⟩ := Stores.performAll_cons_eq_ok.mp hw
    obtain ⟨states, hsave, rfl⟩ := Stores.perform_saveState_eq_ok.mp hs
    cases hsave.symm.trans h.save
    cases hw
    exact .saved
  · obtain ⟨_, hs, hw⟩ := Stores.performAll_cons_eq_ok.mp hw
    obtain ⟨states, hsave, rfl⟩ := Stores.perform_saveState_eq_ok.mp hs
    cases hsave.symm.trans h.save
    obtain ⟨_, hd, hw⟩ := Stores.performAll_cons_eq_ok.mp hw
    obtain ⟨blocks, hb, rfl⟩ := Stores.perform_deleteBlock_eq_ok.mp hd
    cases hb.symm.trans h.delete
    cases hw
    exact .deleted

theorem Interrupted.partway (h : HardRollback n build i done) (hm : Interrupted n build m) :
    Partway n done m := by
  cases hm with
  | failed hf => exact partway_of_failed h (Stores.failsWith_of_rollback hf)
  | @killed plan k m hp hk hw =>
    cases planRollback_eq_ok.mp hp with
    | pending hpending => exact absurd hpending h.aligned.not_pendingAt
    | @aligned j hj hr =>
      cases hj.unique h.aligned (hr.trans h.removeBlock.symm)
      exact partway_of_killed h hk hw

end

section
variable {κ : Type} [Checkpoint κ] {n m done final : Stores AnyStateStore AnyBlockStore κ}
variable {build : BuildVersion} {i : RollbackInputs} {c : StateContents}
variable {f : Height → Option BlockMeta}

/-- With only the state saved, the repetition removes the block and leaves the checkpoint. -/
theorem retriedUntilOk_saved (h : HardRollback n build i done) (ha : KeepsState n.states c)
    (hb : FilesBlocks n.blocks f) (hbuild : TextFits build.software) :
    RetriedUntilOk build { n with states := done.states } final ↔
      i.invalid.lastValidators.isEmpty = false ∧ final = { done with checkpoint := n.checkpoint } := by
  have hsaved := ha.savedIn (h.aligned.fits ha hb hbuild) h.save
  have hheight := (h.aligned.rebuiltFrom hb build).lastBlockHeight
  cases hempty : (reconstruct i build).isEmpty with
  | true =>
    have hload : loadState done.states = .error .noState := loadState_of_isEmpty hsaved.load hempty
    have hplan : planRollback done.states n.blocks true build = .error .noState :=
      bind_eq_error.mpr (.inl hload)
    have hvalidators : i.invalid.lastValidators.isEmpty = true := hempty
    rw [hvalidators]
    simp only [Bool.true_eq_false, false_and, iff_false]
    exact not_retriedUntilOk_of_refused hplan
  | false =>
    have hvalidators : i.invalid.lastValidators.isEmpty = false := hempty
    have hpending : PendingAt done.states n.blocks (reconstruct i build) :=
      ⟨loadState_eq_ok.mpr ⟨hsaved.load, hempty⟩, _, h.aligned.height, by omega⟩
    have hw : Stores.performAll { n with states := done.states }
        (Plan.pending true (reconstruct i build)).writes =
        (.ok (), { done with checkpoint := n.checkpoint }) :=
      Stores.performAll_pending_eq_ok.mpr ⟨done.blocks, h.delete, rfl⟩
    have hok : Stores.rollback { n with states := done.states } true build = (.ok _, _) :=
      Stores.rollback_eq_ok.mpr ⟨_, .pending hpending, rfl, hw⟩
    rw [retriedUntilOk_iff_of_ok hok, hvalidators]
    simp only [true_and]

theorem NotAbove.retriedUntilOk {top : Int} (h : NotAbove m top) (hbuild : TextFits build.software)
    (hr : RetriedUntilOk build m final) : NotAbove final top := by
  induction hr with
  | ok hok => exact h.rollback hbuild hok
  | again herror _ ih => exact ih (h.rollback hbuild herror)

/-- With the block deleted as well, the repetition lowers the state once more or never succeeds. -/
theorem not_retriedUntilOk_deleted (h : HardRollback n build i done) (ha : KeepsState n.states c)
    (hb : FilesBlocks n.blocks f) (hbuild : TextFits build.software) :
    ¬RetriedUntilOk build { done with checkpoint := n.checkpoint } done := by
  have hfits := h.aligned.fits ha hb hbuild
  have hsaved := ha.savedIn hfits h.save
  have hheight := (h.aligned.rebuiltFrom hb build).lastBlockHeight
  obtain ⟨tip, hb'⟩ := hb.deleteLatest h.delete
  have htop : NotAbove { done with checkpoint := n.checkpoint }
      (reconstruct i build).lastBlockHeight.toInt :=
    .of_recorded ha hb' hfits (Int.le_refl _) hsaved.recorded
  intro hr
  cases hplan : planRollback done.states done.blocks true build with
  | error e =>
    exact not_retriedUntilOk_of_refused (m := { done with checkpoint := n.checkpoint }) hplan hr
  | ok plan =>
    cases planRollback_eq_ok.mp hplan with
    | @pending s hp =>
      -- The tip would have to be where it was before the deletion.
      obtain ⟨hs, tip, htip, hp⟩ := hp
      cases hsaved.load.symm.trans (loadState_eq_ok.mp hs).1
      obtain ⟨below, hg⟩ := h.aligned.gathered
      have hbelow := hg.below_toInt
      have hne : below ≠ i.invalid.lastBlockHeight := fun he => by
        rw [he] at hbelow
        omega
      have hsame : tip = i.invalid.lastBlockHeight := Int64.toInt_inj.mp (by omega)
      rw [hsame] at htip
      exact height_ne_of_deleteLatest h.aligned.height h.delete hg.rollbackBlock hne htip
    | @aligned j hj hremove =>
      have hstate : j.invalid = reconstruct i build :=
        Option.some.inj (Except.ok.inj ((loadState_eq_ok.mp hj.loadState).1.symm.trans hsaved.load))
      have hmax := Int64.toInt_lt i.invalid.lastBlockHeight
      have hhigh : j.invalid.lastBlockHeight.toInt < 0x7fffffffffffffff := by
        rw [hstate]
        omega
      have hlower : NotAbove done ((reconstruct i build).lastBlockHeight.toInt - 1) := by
        cases hr with
        | ok hok => exact htop.rollback_of_aligned hj hremove hbuild hhigh hok
        | again herror rest =>
          exact (htop.rollback_of_aligned hj hremove hbuild hhigh herror).retriedUntilOk hbuild rest
      have hle := hlower.le_of_loadState hj.loadState
      rw [hstate] at hle
      omega

/-- Repeating a hard rollback of an aligned node that stopped early ends where it would have ended
uninterrupted exactly if nothing was written, or if only the state was, that state is not empty and
a reset would not have changed the checkpoint. -/
theorem retriedUntilOk_iff (n : Stores AnyStateStore AnyBlockStore κ) (build : BuildVersion)
    (hbuild : TextFits build.software) (hs : BuiltStates n.states)
    (hb : BuiltBlocks (fun _ => True) n.blocks) {s : State} {out : Outcome}
    {done m : Stores AnyStateStore AnyBlockStore κ}
    (hload : StateStore.load n.states = .ok (some s))
    (haligned : BlockStore.height n.blocks = .ok s.lastBlockHeight)
    (hok : n.rollback true build = (.ok out, done)) (hm : Interrupted n build m) :
    RetriedUntilOk build m done ↔ m = n ∨ m = { n with states := done.states } ∧
      s.lastValidators.isEmpty = false ∧ done.checkpoint = n.checkpoint := by
  obtain ⟨c, ha⟩ := hs.keeps
  obtain ⟨f, hf⟩ := hb.files
  obtain ⟨i, rfl, h⟩ := exists_hardRollback hload haligned hok
  have hdone : done = { done with checkpoint := n.checkpoint } ↔ done.checkpoint = n.checkpoint := by
    constructor
    · intro he
      rw [he]
    · intro he
      rw [← he]
  constructor
  · intro hr
    cases hm.partway h with
    | untouched => exact .inl rfl
    | saved =>
      obtain ⟨hvalidators, he⟩ := (retriedUntilOk_saved h ha hf hbuild).mp hr
      exact .inr ⟨rfl, hvalidators, hdone.mp he⟩
    | deleted => exact absurd hr (not_retriedUntilOk_deleted h ha hf hbuild)
  · rintro (rfl | ⟨rfl, hvalidators, hcheckpoint⟩)
    · exact .ok hok
    · exact (retriedUntilOk_saved h ha hf hbuild).mpr ⟨hvalidators, hdone.mpr hcheckpoint⟩

theorem retriedUntilOk_iff_of_two_blocks :
    RetriedUntilOk .current
      ((TwoBlocks.node.behind { blocks := { deleteLatest := some (.backend "disk full") } }).rollback
        true .current).2.bare (TwoBlocks.node.rollback true .current).2 ↔
    ((TwoBlocks.node.behind { blocks := { deleteLatest := some (.backend "disk full") } }).rollback
        true .current).2.bare = TwoBlocks.node ∨
      ((TwoBlocks.node.behind { blocks := { deleteLatest := some (.backend "disk full") } }).rollback
        true .current).2.bare =
        { TwoBlocks.node with states := (TwoBlocks.node.rollback true .current).2.states } ∧
      TwoBlocks.set.isEmpty = false ∧
      (TwoBlocks.node.rollback true .current).2.checkpoint = TwoBlocks.node.checkpoint :=
  retriedUntilOk_iff TwoBlocks.node .current (by decide +kernel) TwoBlocks.built_states
    (TwoBlocks.built_blocks trivial trivial) (s := TwoBlocks.state) rfl rfl (Prod.ext rfl rfl)
    (.failed (Prod.ext rfl rfl))

/-- A hard rollback that a full disk stops before the deletion of the block, and one more that
succeeds, leave the checkpoint without the reset of the uninterrupted rollback. -/
theorem checkpoint_kept_by_retry : ∃ e left out done out' final,
    (TwoBlocks.node.behind { blocks := { deleteLatest := some (.backend "disk full") } }).rollback
      true .current = (.error e, left) ∧
    TwoBlocks.node.rollback true .current = (.ok out, done) ∧
    left.bare.rollback true .current = (.ok out', final) ∧
    done.checkpoint.resets = 1 ∧ final.checkpoint.resets = 0 := by
  refine ⟨.error (.delete (.backend "disk full")), _, ⟨1, []⟩, _, ⟨1, []⟩, _, Prod.ext rfl rfl,
    Prod.ext rfl rfl, Prod.ext rfl rfl, ?_, ?_⟩
  · rfl
  · rfl

end
end ChainRollback
