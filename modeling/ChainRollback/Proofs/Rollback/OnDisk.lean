import ChainRollback.Proofs.Rollback.Rebuilt
import ChainRollback.Proofs.Store.Entries

/-! # What a rollback changes on disk

On tables of which nothing is known, a rollback either leaves all of them as they were, to the byte,
or makes every write of its plan. The deletion comes after the save and cannot fail any more then:
the height that the plan was made for was read from the key that the deletion removes.
-/
namespace ChainRollback
open Std Codec

variable {κ : Type} [Checkpoint κ] {n left : Stores DiskStateStore DiskBlockStore κ}
variable {removeBlock : Bool} {build : BuildVersion} {i : RollbackInputs} {s : State}

def ErasedOnRequest (removeBlock : Bool) (d d' : DiskBlockStore) : Prop :=
  if removeBlock then ∃ tip, d.ErasesGreatest tip d' else d' = d

/-- All writes that a plan makes to the tables of a node, and nothing else. -/
inductive WritesPlan (n : Stores DiskStateStore DiskBlockStore κ) (removeBlock : Bool)
    (build : BuildVersion) (left : Stores DiskStateStore DiskBlockStore κ) : Prop where
  | pending {s : State} (h : PendingAt n.states n.blocks s) (states : left.states = n.states)
    (blocks : ErasedOnRequest removeBlock n.blocks left.blocks)
  | aligned {i : RollbackInputs} (h : AlignedAt n.states n.blocks i)
    (remove : i.removeBlock = removeBlock)
    (states : n.states.SavesOnly (reconstruct i build) left.states)
    (blocks : ErasedOnRequest removeBlock n.blocks left.blocks)

/-- What a rollback has changed in the tables of a node, by its result: nothing if it stopped, or
everything that it set out to do if it succeeded or only the checkpoint was not reset. -/
def AllOrNothing (n : Stores DiskStateStore DiskBlockStore κ) (removeBlock : Bool)
    (build : BuildVersion) (r : Except (Halt RollbackError) Outcome)
    (left : Stores DiskStateStore DiskBlockStore κ) : Prop :=
  match r with
  | .ok _ => WritesPlan n removeBlock build left
  | .error (.error e) =>
    if e.kind = .checkpointResetFailure then WritesPlan n removeBlock build left else left = n
  | .error (.overflow _) => left = n

theorem RollbackError.kind_ne_of_isRefusal {e : RollbackError} (h : e.kind.IsRefusal) :
    e.kind ≠ .checkpointResetFailure := by
  intro hk
  rw [hk] at h
  simp [ErrorKind.IsRefusal] at h

omit [Checkpoint κ] in
theorem allOrNothing_unchanged {e : RollbackError} (h : e.kind ≠ .checkpointResetFailure) :
    AllOrNothing n removeBlock build (.error (.error e)) n := by
  simp only [AllOrNothing, if_neg h]

omit [Checkpoint κ] in
theorem allOrNothing_of_reset {cause : CheckpointError} (h : WritesPlan n removeBlock build left) :
    AllOrNothing n removeBlock build (.error (.error (.reset cause))) left := by
  have hkind : (RollbackError.reset cause).kind = .checkpointResetFailure := rfl
  simpa only [AllOrNothing, if_pos hkind] using h

omit [Checkpoint κ] in
theorem allOrNothing_of_write {cause : Halt StoreError} {f : StoreError → RollbackError}
    (hf : ∀ c, (f c).kind = .storeWriteFailure) :
    AllOrNothing n removeBlock build (.error (cause.map f)) n := by
  cases cause with
  | error c =>
    have hkind : (f c).kind ≠ .checkpointResetFailure := by simp [hf c]
    exact allOrNothing_unchanged hkind
  | overflow o => rfl

omit [Checkpoint κ] in
theorem ErasedOnRequest.of_deleteLatest {blocks : DiskBlockStore}
    (h : BlockStore.deleteLatest n.blocks = .ok blocks) : ErasedOnRequest true n.blocks blocks :=
  DiskBlockStore.ErasesGreatest.of_deleteLatest h

omit [Checkpoint κ] in
/-- The block at the height of an aligned node can be deleted, since it was just read. -/
theorem AlignedAt.exists_deleteLatest (h : AlignedAt n.states n.blocks i) :
    ∃ blocks, BlockStore.deleteLatest n.blocks = .ok blocks := by
  obtain ⟨below, hg⟩ := h.gathered
  obtain ⟨record, hrecord⟩ := DiskBlockStore.exists_record_of_loadMeta hg.latestBlock
  exact DiskBlockStore.exists_deleteLatest h.height hrecord

theorem writesPlan_of_rollback {out : Outcome}
    (h : n.rollback removeBlock build = (.ok out, left)) : WritesPlan n removeBlock build left := by
  obtain ⟨plan, hplan, -, hw⟩ := Stores.rollback_eq_ok.mp h
  cases hplan with
  | pending hp =>
    have hdone := Stores.performAll_pending_eq_ok.mp hw
    cases removeBlock with
    | false =>
      have hleft : left = n := hdone
      subst hleft
      exact .pending hp rfl rfl
    | true =>
      obtain ⟨blocks, hdelete, rfl⟩ := hdone
      exact .pending hp rfl (.of_deleteLatest hdelete)
  | @aligned i hi hr =>
    obtain ⟨states, hs, hdone⟩ := Stores.performAll_aligned_eq_ok.mp hw
    have hsaves : n.states.SavesOnly (reconstruct i build) states :=
      (DiskStateStore.save_eq_ok hs).savesOnly
    rw [hr] at hdone
    cases removeBlock with
    | false =>
      have hleft : left = { n with states := states } := hdone
      subst hleft
      exact .aligned hi hr hsaves rfl
    | true =>
      obtain ⟨blocks, c, hdelete, -, rfl⟩ := hdone
      exact .aligned hi hr hsaves (.of_deleteLatest hdelete)

theorem allOrNothing_of_error {e : Halt RollbackError}
    (h : n.rollback removeBlock build = (.error e, left)) :
    AllOrNothing n removeBlock build (.error e) left := by
  cases Stores.stopsWith_of_rollback h with
  | @refused refusal hplan he hl =>
    subst he hl
    exact allOrNothing_unchanged (refusal.kind_ne_of_isRefusal (isRefusal_of_planRollback hplan))
  | pendingDelete _ _ _ he hl =>
    subst he hl
    exact allOrNothing_of_write fun _ => rfl
  | save _ _ _ he hl =>
    subst he hl
    exact allOrNothing_of_write fun _ => rfl
  | delete hi _ _ _ hb =>
    -- The state is saved, so this is where a failure would leave the node half-way.
    obtain ⟨blocks, hdelete⟩ := hi.exists_deleteLatest
    cases hdelete.symm.trans hb
  | reset hi hr hremove hs hb _ he hl =>
    subst he hl hremove
    have hsaves := (DiskStateStore.save_eq_ok hs).savesOnly
    exact allOrNothing_of_reset (.aligned hi hr hsaves (.of_deleteLatest hb))

/-- Whatever the tables of a node hold, a rollback of it changes all that it set out to change or
nothing at all. -/
theorem allOrNothing_of_rollback (n : Stores DiskStateStore DiskBlockStore κ) (removeBlock : Bool)
    (build : BuildVersion) :
    AllOrNothing n removeBlock build (n.rollback removeBlock build).1
      (n.rollback removeBlock build).2 := by
  rcases h : n.rollback removeBlock build with ⟨r, left⟩
  cases r with
  | ok out => exact writesPlan_of_rollback h
  | error e => exact allOrNothing_of_error h

end ChainRollback
