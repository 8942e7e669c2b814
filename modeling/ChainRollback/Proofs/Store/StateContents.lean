import ChainRollback.Proofs.Record.Chain
import ChainRollback.Proofs.Store.Saved

/-! # What a state store keeps

The contents of a state store are the latest state and two finite functions of heights. A store of
either kind keeps its contents: every read answers from them, and every write changes them as it
would change the functions.
-/
namespace ChainRollback
open Std

structure StateContents where
  state : Option State := none
  validators : Height → Option ValidatorSet := fun _ => none
  params : Height → Option ConsensusParams := fun _ => none

namespace StateContents

structure Fits (c : StateContents) : Prop where
  state : ∀ s, c.state = some s → s.Fits
  validators : ∀ h set, c.validators h = some set → set.Fits
  params : ∀ h p, c.params h = some p → p.Fits

/-- The contents with a state and its records saved in them. -/
def save (c : StateContents) (s : State) : StateContents where
  state := some s
  validators h := (s.recordedSet h).or (c.validators h)
  params h := (s.recordedParams h).or (c.params h)

variable {c : StateContents} {s : State}

theorem fits_empty : ({} : StateContents).Fits :=
  ⟨fun _ h => (by cases h), fun _ _ h => (by cases h), fun _ _ h => (by cases h)⟩

theorem Fits.save (hc : c.Fits) (hs : s.Fits) : (c.save s).Fits := by
  refine ⟨fun t ht => Option.some.inj ht ▸ hs, fun h set hset => ?_, fun h p hp => ?_⟩
  · rcases Option.or_eq_some_iff.mp hset with hr | ⟨-, hold⟩
    · unfold State.recordedSet at hr
      split at hr
      · exact Option.some.inj hr ▸ hs.nextValidators
      · split at hr
        · exact Option.some.inj hr ▸ hs.validators
        · cases hr
    · exact hc.validators h set hold
  · rcases Option.or_eq_some_iff.mp hp with hr | ⟨-, hold⟩
    · unfold State.recordedParams at hr
      split at hr
      · exact Option.some.inj hr ▸ hs.consensusParams
      · cases hr
    · exact hc.params h p hold

theorem Fits.update_validators (hc : c.Fits) (h : Height) {set : Option ValidatorSet}
    (hset : ∀ s, set = some s → s.Fits) :
    ({ c with validators := Function.update c.validators h set } : StateContents).Fits :=
  ⟨hc.state, (Function.forall_update_iff c.validators fun _ o => ∀ s, o = some s → s.Fits).mpr
    ⟨hset, fun i _ => hc.validators i⟩, hc.params⟩

theorem Fits.update_params (hc : c.Fits) (h : Height) {p : Option ConsensusParams}
    (hp : ∀ q, p = some q → q.Fits) :
    ({ c with params := Function.update c.params h p } : StateContents).Fits :=
  ⟨hc.state, hc.validators,
    (Function.forall_update_iff c.params fun _ o => ∀ q, o = some q → q.Fits).mpr
      ⟨hp, fun i _ => hc.params i⟩⟩

end StateContents

structure MemoryStateStore.Keeps (m : MemoryStateStore) (c : StateContents) : Prop where
  state : m.state = c.state
  validators : Tabulates id id m.validators c.validators
  params : Tabulates id id m.params c.params
  accepts : m.refusesSaves = false

namespace MemoryStateStore

variable {m m' : MemoryStateStore} {c : StateContents} {s : State}

theorem Keeps.loadValidators_eq (k : m.Keeps c) (h : Height) : StateStore.loadValidators m h =
    (c.validators h).elim (.error (.noValidators h)) .ok := by
  simp only [StateStore.loadValidators, k.validators.find?_id]
  cases c.validators h <;> rfl

theorem Keeps.loadParams_eq (k : m.Keeps c) (h : Height) : StateStore.loadParams m h =
    (c.params h).elim (.error (.noParams h)) .ok := by
  simp only [StateStore.loadParams, k.params.find?_id]
  cases c.params h <;> rfl

theorem Keeps.recorded (k : m.Keeps c) (hr : m.Recorded s m') : m'.Keeps (c.save s) :=
  ⟨hr.state, k.validators.refiled hr.validators Function.injective_id,
    k.params.refiled hr.params Function.injective_id, hr.refusesSaves.trans k.accepts⟩

end MemoryStateStore

structure DiskStateStore.Keeps (d : DiskStateStore) (c : StateContents) : Prop where
  state : Tabulates (fun _ : Unit => stateKey) State.codec.encode (d.env.table .state)
    fun _ => c.state
  validators : Tabulates Height.toBytes ValidatorSet.codec.encode (d.env.table .validators)
    c.validators
  params : Tabulates Height.toBytes ConsensusParams.codec.encode (d.env.table .consensusParams)
    c.params

namespace DiskStateStore

variable {d : DiskStateStore} {c : StateContents}

theorem Keeps.putValidators (k : d.Keeps c) (h : Height) (set : ValidatorSet) :
    (d.putValidators h set).Keeps
      { c with validators := Function.update c.validators h (some set) } := by
  have hput := k.validators.insert Height.toBytes_injective h set
  constructor
  all_goals simp only [DiskStateStore.putValidators, Environment.put, Environment.table_set_self,
    Environment.table_set_of_ne, ne_eq, reduceCtorEq, not_false_eq_true]
  exacts [k.state, hput, k.params]

theorem Keeps.putParams (k : d.Keeps c) (h : Height) (p : ConsensusParams) :
    (d.putParams h p).Keeps { c with params := Function.update c.params h (some p) } := by
  have hput := k.params.insert Height.toBytes_injective h p
  constructor
  all_goals simp only [DiskStateStore.putParams, Environment.put, Environment.table_set_self,
    Environment.table_set_of_ne, ne_eq, reduceCtorEq, not_false_eq_true]
  exacts [k.state, k.validators, hput]

end DiskStateStore

/-- A state store of either kind and what it keeps. -/
structure KeepsState (a : AnyStateStore) (c : StateContents) : Prop where
  fits : c.Fits
  keeps : a.elim (·.Keeps c) (·.Keeps c)

/-- The later store is the earlier one with a state and its records saved in it, and answers every
read accordingly. -/
structure SavedIn (a : AnyStateStore) (s : State) (a' : AnyStateStore) : Prop where
  recorded : RecordedIn a s a'
  load : StateStore.load a' = .ok (some s)
  loadValidators : ∀ h, StateStore.loadValidators a' h =
    (s.recordedSet h).elim (StateStore.loadValidators a h) .ok
  loadParams : ∀ h, StateStore.loadParams a' h =
    (s.recordedParams h).elim (StateStore.loadParams a h) .ok

namespace KeepsState

variable {a a' : AnyStateStore} {c : StateContents} {s : State}

theorem load_eq (k : KeepsState a c) : StateStore.load a = .ok c.state := by
  obtain ⟨hfits, hk⟩ := k
  cases a with
  | inl m => exact congrArg Except.ok hk.state
  | inr d =>
    have hstate := hk.state ()
    change DiskStateStore.load d = _
    unfold DiskStateStore.load
    rw [hstate]
    cases hs : c.state with
    | none => rfl
    | some s =>
      rw [Option.map_some]
      simp only [State.codec_exact.fromDisk_encode (hfits.state s hs)]
      rfl

theorem loadValidators_eq (k : KeepsState a c) (h : Height) : StateStore.loadValidators a h =
    (c.validators h).elim (.error (.noValidators h)) .ok := by
  obtain ⟨hfits, hk⟩ := k
  cases a with
  | inl m => exact MemoryStateStore.Keeps.loadValidators_eq hk h
  | inr d =>
    have hrecord := hk.validators.recordAt_eq ValidatorSet.codec_exact hfits.validators h
    simp only [StateStore.loadValidators]
    rw [hrecord]
    cases c.validators h <;> rfl

theorem loadParams_eq (k : KeepsState a c) (h : Height) : StateStore.loadParams a h =
    (c.params h).elim (.error (.noParams h)) .ok := by
  obtain ⟨hfits, hk⟩ := k
  cases a with
  | inl m => exact MemoryStateStore.Keeps.loadParams_eq hk h
  | inr d =>
    have hrecord := hk.params.recordAt_eq ConsensusParams.codec_exact hfits.params h
    simp only [StateStore.loadParams]
    rw [hrecord]
    cases c.params h <;> rfl

theorem loadValidators_eq_ok (k : KeepsState a c) {h : Height} {set : ValidatorSet} :
    StateStore.loadValidators a h = .ok set ↔ c.validators h = some set := by
  rw [k.loadValidators_eq]
  cases c.validators h <;> simp

theorem loadParams_eq_ok (k : KeepsState a c) {h : Height} {p : ConsensusParams} :
    StateStore.loadParams a h = .ok p ↔ c.params h = some p := by
  rw [k.loadParams_eq]
  cases c.params h <;> simp

theorem exists_save (k : KeepsState a c) (hroom : s.HasRoom) :
    ∃ a', StateStore.save a s = .ok a' := by
  obtain ⟨-, hk⟩ := k
  cases a with
  | inl m =>
    obtain ⟨m', hm⟩ := MemoryStateStore.exists_save hk.accepts hroom
    exact ⟨.inl m', map_eq_ok.mpr ⟨m', hm, rfl⟩⟩
  | inr d =>
    obtain ⟨d', hd⟩ := d.exists_save hroom
    exact ⟨.inr d', map_eq_ok.mpr ⟨d', hd, rfl⟩⟩

theorem recorded (k : KeepsState a c) (hs : s.Fits) (hr : RecordedIn a s a') :
    KeepsState a' (c.save s) := by
  obtain ⟨hfits, hk⟩ := k
  refine ⟨hfits.save hs, ?_⟩
  cases hr with
  | memory h => exact MemoryStateStore.Keeps.recorded hk h
  | disk h =>
    exact ⟨fun _ => h.state.find?_new () s rfl,
      hk.validators.refiled h.validators Height.toBytes_injective,
      hk.params.refiled h.params Height.toBytes_injective⟩

/-- A saved state and its records are read back, and all other reads are the same. -/
theorem savedIn (k : KeepsState a c) (hs : s.Fits) (hsave : StateStore.save a s = .ok a') :
    SavedIn a s a' := by
  have hr := RecordedIn.of_save hsave
  have k' := k.recorded hs hr
  refine ⟨hr, k'.load_eq, fun h => ?_, fun h => ?_⟩
  · rw [k'.loadValidators_eq, k.loadValidators_eq]
    change ((s.recordedSet h).or (c.validators h)).elim _ _ = _
    cases s.recordedSet h <;> rfl
  · rw [k'.loadParams_eq, k.loadParams_eq]
    change ((s.recordedParams h).or (c.params h)).elim _ _ = _
    cases s.recordedParams h <;> rfl

theorem putValidators (k : KeepsState a c) (h : Height) {set : ValidatorSet} (hf : set.Fits) :
    KeepsState (StateHistory.putValidators a h set)
      { c with validators := Function.update c.validators h (some set) } := by
  obtain ⟨hfits, hk⟩ := k
  refine ⟨hfits.update_validators h fun s hs => Option.some.inj hs ▸ hf, ?_⟩
  cases a with
  | inl m => exact { hk with validators := hk.validators.insert Function.injective_id h set }
  | inr d => exact DiskStateStore.Keeps.putValidators hk h set

theorem putParams (k : KeepsState a c) (h : Height) {p : ConsensusParams} (hf : p.Fits) :
    KeepsState (StateHistory.putParams a h p)
      { c with params := Function.update c.params h (some p) } := by
  obtain ⟨hfits, hk⟩ := k
  refine ⟨hfits.update_params h fun q hq => Option.some.inj hq ▸ hf, ?_⟩
  cases a with
  | inl m => exact { hk with params := hk.params.insert Function.injective_id h p }
  | inr d => exact DiskStateStore.Keeps.putParams hk h p

end KeepsState
end ChainRollback
