import ChainRollback.Proofs.Rollback.Steps
import ChainRollback.Proofs.Store.Built
import ChainRollback.Rollback.Faults

/-! # What a failed rollback has changed

A call behind a fault that succeeds is a call of the store itself. So whichever calls of a rollback
fail, the kind of its error determines which of its writes the bare stores have seen: none after an
error of a read or of the save, the save after an error of the deletion of an aligned state's
block, and all but the reset after an error of the reset.
-/
namespace ChainRollback

variable {σ β κ : Type} [StateStore σ] [BlockStore β] [Checkpoint κ]

theorem orFault_eq_ok {ε α : Type} {fault : Option ε} {answer : Except ε α} {a : α} :
    orFault fault answer = .ok a ↔ fault = none ∧ answer = .ok a := by
  cases fault with
  | none => simp [orFault]
  | some e => simp [orFault]

section
variable {states : FaultyStateStore σ} {blocks : FaultyBlockStore β}

theorem load_of_faulty {o : Option State} (h : StateStore.load states = .ok o) :
    StateStore.load states.store = .ok o := (orFault_eq_ok.mp h).2

theorem height_of_faulty {h : Height} (hh : BlockStore.height blocks = .ok h) :
    BlockStore.height blocks.store = .ok h := (orFault_eq_ok.mp hh).2

theorem loadMeta_of_faulty {h : Height} {o : Option BlockMeta}
    (hm : BlockStore.loadMeta blocks h = .ok o) : BlockStore.loadMeta blocks.store h = .ok o :=
  (orFault_eq_ok.mp hm).2

theorem loadState_of_faulty {s : State} (h : loadState states = .ok s) :
    loadState states.store = .ok s := by
  obtain ⟨hload, hempty⟩ := loadState_eq_ok.mp h
  exact loadState_eq_ok.mpr ⟨load_of_faulty hload, hempty⟩

theorem PendingAt.of_faulty {s : State} (h : PendingAt states blocks s) :
    PendingAt states.store blocks.store s := by
  obtain ⟨hs, height, hh, hp⟩ := h
  exact ⟨loadState_of_faulty hs, height, height_of_faulty hh, hp⟩

theorem AlignedAt.of_faulty {i : RollbackInputs} (h : AlignedAt states blocks i) :
    AlignedAt states.store blocks.store i := by
  obtain ⟨hs, hh, below, hg⟩ := h
  refine ⟨loadState_of_faulty hs, height_of_faulty hh, below, hg.below_toInt, ?_, ?_, ?_, ?_⟩
  · exact loadMeta_of_faulty hg.rollbackBlock
  · exact loadMeta_of_faulty hg.latestBlock
  · exact (orFault_eq_ok.mp hg.validators).2
  · exact (orFault_eq_ok.mp hg.params).2

theorem save_of_faulty {s : State} {states' : FaultyStateStore σ}
    (h : StateStore.save states s = .ok states') :
    StateStore.save states.store s = .ok states'.store := by
  obtain ⟨store, hs, rfl⟩ := map_eq_ok.mp (orFault_eq_ok.mp h).2
  exact hs

theorem deleteLatest_of_faulty {blocks' : FaultyBlockStore β}
    (h : BlockStore.deleteLatest blocks = .ok blocks') :
    BlockStore.deleteLatest blocks.store = .ok blocks'.store := by
  obtain ⟨store, hs, rfl⟩ := map_eq_ok.mp (orFault_eq_ok.mp h).2
  exact hs

end

/-- A refusal by a fault leaves a checkpoint as it is. -/
theorem reset_of_faulty {c c' : FaultyCheckpoint κ} {cause : CheckpointError}
    (h : Checkpoint.reset c = (.error cause, c')) :
    c' = c ∨ Checkpoint.reset c.checkpoint = (.error cause, c'.checkpoint) := by
  obtain ⟨checkpoint, fault⟩ := c
  cases fault with
  | none =>
    obtain ⟨hr, rfl⟩ := Prod.mk.inj h
    exact .inr (Prod.ext hr rfl)
  | some e =>
    cases h
    exact .inl rfl

namespace Stores

variable {n left : Stores σ β κ} {s : State} {i : RollbackInputs} {removeBlock : Bool}
variable {build : BuildVersion} {e : Halt RollbackError}

/-- How a rollback can fail, by the write that failed, and what the bare stores have seen of it. -/
inductive FailsWith (n : Stores σ β κ) (removeBlock : Bool) (build : BuildVersion)
    (e : Halt RollbackError) (left : Stores σ β κ) : Prop where
  | refused {refusal : RollbackError} (he : e = .error refusal) (h : refusal.kind.IsRefusal)
    (hl : left = n)
  | pendingDelete {s : State} {cause : Halt StoreError} (hp : PendingAt n.states n.blocks s)
    (hremove : removeBlock = true) (he : e = cause.map .delete) (hl : left = n)
  | save {i : RollbackInputs} {cause : Halt StoreError} (hi : AlignedAt n.states n.blocks i)
    (hr : i.removeBlock = removeBlock) (he : e = cause.map .save) (hl : left = n)
  | delete {i : RollbackInputs} {states : σ} {cause : Halt StoreError}
    (hi : AlignedAt n.states n.blocks i) (hr : i.removeBlock = removeBlock)
    (hremove : removeBlock = true)
    (hs : StateStore.save n.states (reconstruct i build) = .ok states)
    (he : e = cause.map .delete) (hl : left = { n with states := states })
  | reset {i : RollbackInputs} {states : σ} {blocks : β} {c : κ} {cause : CheckpointError}
    (hi : AlignedAt n.states n.blocks i) (hr : i.removeBlock = removeBlock)
    (hremove : removeBlock = true)
    (hs : StateStore.save n.states (reconstruct i build) = .ok states)
    (hb : BlockStore.deleteLatest n.blocks = .ok blocks)
    (hc : c = n.checkpoint ∨ Checkpoint.reset n.checkpoint = (.error cause, c))
    (he : e = .error (.reset cause)) (hl : left = ⟨states, blocks, c⟩)

section
variable {f : Faults}
variable {left : Stores (FaultyStateStore σ) (FaultyBlockStore β) (FaultyCheckpoint κ)}

/-- Whatever calls of a rollback fail, it fails in one of these ways. -/
theorem failsWith_of_rollback (h : (n.behind f).rollback removeBlock build = (.error e, left)) :
    n.FailsWith removeBlock build e left.bare := by
  cases stopsWith_of_rollback h with
  | refused hplan he hl => exact .refused he (isRefusal_of_planRollback hplan) (hl ▸ rfl)
  | pendingDelete hp hremove _ he hl => exact .pendingDelete hp.of_faulty hremove he (hl ▸ rfl)
  | save hi hr _ he hl => exact .save hi.of_faulty hr he (hl ▸ rfl)
  | delete hi hr hremove hs _ he hl =>
    exact .delete hi.of_faulty hr hremove (save_of_faulty hs) he (hl ▸ rfl)
  | @reset i states blocks c cause hi hr hremove hs hb hc he hl =>
    have hc' : c.checkpoint = n.checkpoint ∨
        Checkpoint.reset n.checkpoint = (.error cause, c.checkpoint) :=
      (reset_of_faulty hc).imp_left (congrArg FaultyCheckpoint.checkpoint)
    exact .reset hi.of_faulty hr hremove (save_of_faulty hs) (deleteLatest_of_faulty hb) hc' he
      (hl ▸ rfl)

end

end Stores

/-- What the bare stores have seen of a rollback that failed with an error. -/
def ChangedBy (n : Stores AnyStateStore β κ) (removeBlock : Bool) (build : BuildVersion)
    (e : RollbackError) (left : Stores AnyStateStore β κ) : Prop :=
  match e.kind with
  | .notFound | .invariantViolation | .storeRead => left = n
  | .storeWriteFailure =>
    (∃ cause, e = .save cause) ∧ left = n ∨
    (∃ cause, e = .delete cause) ∧ removeBlock = true ∧
      left.blocks = n.blocks ∧ left.checkpoint = n.checkpoint ∧
      ((∃ s, PendingAt n.states n.blocks s) ∧ left.states = n.states ∨
        ∃ i, AlignedAt n.states n.blocks i ∧ i.removeBlock = removeBlock ∧
          RecordedIn n.states (reconstruct i build) left.states)
  | .checkpointResetFailure =>
    removeBlock = true ∧ left.checkpoint = n.checkpoint ∧
      BlockStore.deleteLatest n.blocks = .ok left.blocks ∧
      ∃ i, AlignedAt n.states n.blocks i ∧ i.removeBlock = removeBlock ∧
        RecordedIn n.states (reconstruct i build) left.states

omit [Checkpoint κ] in
theorem changedBy_of_isRefusal {n left : Stores AnyStateStore β κ} {removeBlock : Bool}
    {build : BuildVersion} {e : RollbackError} (h : e.kind.IsRefusal) (hl : left = n) :
    ChangedBy n removeBlock build e left := by
  unfold ChangedBy
  rcases h with h | h | h
  · rw [h]
    exact hl
  · rw [h]
    exact hl
  · rw [h]
    exact hl

/-- Whatever calls of a rollback fail, its error tells which of its writes were made. -/
theorem changedBy_of_failed_rollback (n : Stores AnyStateStore β κ) (f : Faults)
    (removeBlock : Bool) (build : BuildVersion) {e : RollbackError}
    {left : Stores (FaultyStateStore AnyStateStore) (FaultyBlockStore β) (FaultyCheckpoint κ)}
    (unchanged : ∀ cause c, Checkpoint.reset n.checkpoint = (.error cause, c) → c = n.checkpoint)
    (h : (n.behind f).rollback removeBlock build = (.error (.error e), left)) :
    ChangedBy n removeBlock build e left.bare := by
  cases Stores.failsWith_of_rollback h with
  | refused he h hl =>
    cases he
    exact changedBy_of_isRefusal h hl
  | @pendingDelete s cause hp hremove he hl =>
    cases cause with
    | overflow o => cases he
    | error cause =>
      cases he
      rw [hl]
      exact .inr ⟨⟨cause, rfl⟩, hremove, rfl, rfl, .inl ⟨⟨s, hp⟩, rfl⟩⟩
  | @save i cause hi hr he hl =>
    cases cause with
    | overflow o => cases he
    | error cause =>
      cases he
      exact .inl ⟨⟨cause, rfl⟩, hl⟩
  | @delete i states cause hi hr hremove hs he hl =>
    cases cause with
    | overflow o => cases he
    | error cause =>
      cases he
      rw [hl]
      exact .inr ⟨⟨cause, rfl⟩, hremove, rfl, rfl, .inr ⟨i, hi, hr, .of_save hs⟩⟩
  | @reset i states blocks c cause hi hr hremove hs hb hc he hl =>
    cases he
    rw [hl]
    have hc' : c = n.checkpoint := hc.elim id (unchanged cause c)
    exact ⟨hremove, hc', hb, i, hi, hr, .of_save hs⟩

/-- A full disk keeps the block of a node whose state has been lowered. -/
theorem changedBy_of_full_disk :
    ChangedBy TwoBlocks.node true .current (.delete (.backend "disk full"))
      ((TwoBlocks.node.behind { blocks := { deleteLatest := some (.backend "disk full") } }).rollback
        true .current).2.bare :=
  changedBy_of_failed_rollback TwoBlocks.node _ true .current (fun _ _ h => (by cases h))
    (Prod.ext rfl rfl)

end ChainRollback
