import ChainRollback.Proofs.Rollback.Rebuilt

/-! # No rollback raises the state

Whatever becomes of a rollback, the stores that it leaves hold no higher state than before, since no
write of its plan saves one. An aligned node has a lower state as soon as the first write is made,
also if a later one fails.
-/
namespace ChainRollback
open Codec

variable {κ : Type} [Checkpoint κ] {n m left : Stores AnyStateStore AnyBlockStore κ}
variable {top : Int} {removeBlock : Bool} {build : BuildVersion}

/-- The stores hold what was filed in them, and no state above a height. -/
structure NotAbove (n : Stores AnyStateStore AnyBlockStore κ) (top : Int) : Prop where
  states : ∃ c, KeepsState n.states c ∧ ∀ s, c.state = some s → s.lastBlockHeight.toInt ≤ top
  blocks : ∃ f, FilesBlocks n.blocks f

/-- The write saves no state above a height, and none that does not fit its record. -/
def Write.SavesAtMost (top : Int) : Write → Prop
  | .saveState s => s.Fits ∧ s.lastBlockHeight.toInt ≤ top
  | .deleteBlock | .resetCheckpoint => True

omit [Checkpoint κ] in
theorem NotAbove.le_of_loadState {s : State} (h : NotAbove n top)
    (hs : loadState n.states = .ok s) : s.lastBlockHeight.toInt ≤ top := by
  obtain ⟨c, hk, hle⟩ := h.states
  have hload := (loadState_eq_ok.mp hs).1
  rw [hk.load_eq, Except.ok.injEq] at hload
  exact hle s hload

omit [Checkpoint κ] in
theorem NotAbove.of_recorded {c : StateContents} {s : State} {f : Height → Option BlockMeta}
    {states : AnyStateStore} (hk : KeepsState states c) (hf : FilesBlocks n.blocks f)
    (hs : s.Fits) (hle : s.lastBlockHeight.toInt ≤ top) (hr : RecordedIn states s n.states) :
    NotAbove n top :=
  ⟨⟨c.save s, hk.recorded hs hr, fun _ ht => Option.some.inj ht ▸ hle⟩, f, hf⟩

theorem NotAbove.perform {w : Write} {r : Except (Halt RollbackError) Unit} (h : NotAbove n top)
    (hw : w.SavesAtMost top) (hp : n.perform w = (r, m)) : NotAbove m top := by
  obtain ⟨f, hf⟩ := h.blocks
  cases w with
  | saveState s =>
    obtain ⟨c, hk, -⟩ := h.states
    cases r with
    | error e =>
      obtain ⟨_, -, -, rfl⟩ := Stores.perform_saveState_eq_error.mp hp
      exact h
    | ok =>
      obtain ⟨states, hs, rfl⟩ := Stores.perform_saveState_eq_ok.mp hp
      exact .of_recorded hk hf hw.1 hw.2 (.of_save hs)
  | deleteBlock =>
    cases r with
    | error e =>
      obtain ⟨_, -, -, rfl⟩ := Stores.perform_deleteBlock_eq_error.mp hp
      exact h
    | ok =>
      obtain ⟨blocks, hb, rfl⟩ := Stores.perform_deleteBlock_eq_ok.mp hp
      obtain ⟨i, hf'⟩ := hf.deleteLatest hb
      exact ⟨h.states, _, hf'⟩
  | resetCheckpoint =>
    cases r with
    | error e =>
      obtain ⟨_, c, -, -, rfl⟩ := Stores.perform_resetCheckpoint_eq_error.mp hp
      exact ⟨h.states, h.blocks⟩
    | ok =>
      obtain ⟨c, -, rfl⟩ := Stores.perform_resetCheckpoint_eq_ok.mp hp
      exact ⟨h.states, h.blocks⟩

theorem NotAbove.performAll {writes : List Write} {r : Except (Halt RollbackError) Unit}
    (h : NotAbove n top) (hw : ∀ w ∈ writes, w.SavesAtMost top)
    (hp : n.performAll writes = (r, left)) : NotAbove left top := by
  induction writes generalizing n with
  | nil =>
    cases hp
    exact h
  | cons w writes ih =>
    obtain ⟨hfirst, hrest⟩ := List.forall_mem_cons.mp hw
    cases r with
    | error e =>
      rcases Stores.performAll_cons_eq_error.mp hp with hp | ⟨m, hm, hp⟩
      · exact h.perform hfirst hp
      · exact ih (h.perform hfirst hm) hrest hp
    | ok =>
      obtain ⟨m, hm, hp⟩ := Stores.performAll_cons_eq_ok.mp hp
      exact ih (h.perform hfirst hm) hrest hp

omit [Checkpoint κ] in
/-- The state that replaces an aligned one is lower. -/
theorem NotAbove.savesAtMost_aligned {i : RollbackInputs} (h : NotAbove n top)
    (hi : AlignedAt n.states n.blocks i) (hbuild : TextFits build.software) :
    ∀ w ∈ (Plan.aligned i build).writes, w.SavesAtMost (top - 1) := by
  obtain ⟨c, hk, -⟩ := h.states
  obtain ⟨f, hf⟩ := h.blocks
  have hle := h.le_of_loadState hi.loadState
  have hheight := (hi.rebuiltFrom hf build).lastBlockHeight
  refine List.forall_mem_cons.mpr ⟨⟨hi.fits hk hf hbuild, by omega⟩, ?_⟩
  cases i.removeBlock with
  | false => simp
  | true => simp [Write.SavesAtMost]

theorem Write.SavesAtMost.mono {w : Write} {lower : Int} (h : w.SavesAtMost lower)
    (hle : lower ≤ top) : w.SavesAtMost top := by
  cases w with
  | saveState s => exact ⟨h.1, Int.le_trans h.2 hle⟩
  | deleteBlock => trivial
  | resetCheckpoint => trivial

omit [Checkpoint κ] in
theorem NotAbove.savesAtMost {plan : Plan} (h : NotAbove n top)
    (hp : Planned n.states n.blocks removeBlock build plan) (hbuild : TextFits build.software) :
    ∀ w ∈ plan.writes, w.SavesAtMost top := by
  cases hp with
  | pending _ =>
    cases removeBlock with
    | false => simp [Plan.pending]
    | true => simp [Plan.pending, Write.SavesAtMost]
  | aligned hi _ =>
    intro w hw
    exact (h.savesAtMost_aligned hi hbuild w hw).mono (by omega)

/-- A rollback leaves no higher state, whether it succeeds or not. -/
theorem NotAbove.rollback {r : Except (Halt RollbackError) Outcome} (h : NotAbove n top)
    (hbuild : TextFits build.software) (hr : n.rollback removeBlock build = (r, left)) :
    NotAbove left top := by
  cases r with
  | ok out =>
    obtain ⟨plan, hplan, -, hw⟩ := Stores.rollback_eq_ok.mp hr
    exact h.performAll (h.savesAtMost hplan hbuild) hw
  | error e =>
    rcases Stores.rollback_eq_error.mp hr with ⟨_, -, -, rfl⟩ | ⟨plan, hplan, hw⟩
    · exact h
    · exact h.performAll (h.savesAtMost hplan hbuild) hw

/-- A rollback of an aligned node below the greatest height leaves a lower state, also if it fails
after the state is saved. -/
theorem NotAbove.rollback_of_aligned {i : RollbackInputs}
    {r : Except (Halt RollbackError) Outcome} (h : NotAbove n top)
    (hi : AlignedAt n.states n.blocks i) (hremove : i.removeBlock = removeBlock)
    (hbuild : TextFits build.software)
    (hhigh : i.invalid.lastBlockHeight.toInt < 0x7fffffffffffffff)
    (hr : n.rollback removeBlock build = (r, left)) : NotAbove left (top - 1) := by
  obtain ⟨c, hk, -⟩ := h.states
  obtain ⟨f, hf⟩ := h.blocks
  obtain ⟨states, hsave⟩ := hk.exists_save (hi.hasRoom hf build hhigh)
  obtain ⟨hfirst, hrest⟩ := List.forall_mem_cons.mp (h.savesAtMost_aligned hi hbuild)
  have hsaved : NotAbove { n with states := states } (top - 1) :=
    .of_recorded hk hf hfirst.1 hfirst.2 (.of_save hsave)
  have hplan : planRollback n.states n.blocks removeBlock build = .ok (.aligned i build) :=
    planRollback_eq_ok.mpr (.aligned hi hremove)
  simp only [Stores.rollback, hplan, Plan.aligned, Stores.performAll, Stores.perform, hsave] at hr
  obtain ⟨-, rfl⟩ := Prod.mk.inj hr
  exact hsaved.performAll hrest rfl

end ChainRollback
