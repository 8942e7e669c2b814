import ChainRollback.Proofs.Outcome
import ChainRollback.Proofs.Store.HeightKey
import ChainRollback.Proofs.Store.Tabulates
import ChainRollback.Store.Choice
import ChainRollback.Store.Memory

/-! # What saving a state writes

A state settles validator sets for one or two heights above it and parameters for the next height.
Saving it writes the state and these records and nothing else, in memory and on disk, and it can
be saved exactly if the heights of its records are heights.
-/
namespace ChainRollback
open Std

abbrev AnyStateStore := MemoryStateStore ⊕ DiskStateStore

theorem Height.plus_eq_error {a b : Height} {o : Overflow} (h : plus a b = .error o) :
    o = .add := by
  unfold plus at h
  split at h
  · cases h
  · cases h
    rfl

namespace State

/-- The validator set that saving a state records for a height. -/
def recordedSet (s : State) (h : Height) : Option ValidatorSet :=
  if h.toInt = s.lastBlockHeight.toInt + 2 then some s.nextValidators
  else if h.toInt = s.lastBlockHeight.toInt + 1 ∧ h = s.initialHeight then some s.validators
  else none

def recordedParams (s : State) (h : Height) : Option ConsensusParams :=
  if h.toInt = s.lastBlockHeight.toInt + 1 then some s.consensusParams else none

/-- The heights of the records of a state are heights. -/
def HasRoom (s : State) : Prop := s.lastBlockHeight.toInt + 2 < 0x8000000000000000

theorem validatorRecords_eq_ok {s : State} {records : List (Height × ValidatorSet)} :
    s.validatorRecords = .ok records ↔ ∃ next second : Height,
      next.toInt = s.lastBlockHeight.toInt + 1 ∧ second.toInt = s.lastBlockHeight.toInt + 2 ∧
      records = (if next = s.initialHeight then [(next, s.validators)] else []) ++
        [(second, s.nextValidators)] := by
  have hone : Int64.toInt 1 = 1 := rfl
  simp only [validatorRecords, bind_eq_ok, Height.plus_eq_ok, pure_eq_ok, hone]
  constructor
  · rintro ⟨next, hn, second, hs, rfl⟩
    exact ⟨next, second, hn, by omega, rfl⟩
  · rintro ⟨next, second, hn, hs, rfl⟩
    exact ⟨next, hn, second, by omega, rfl⟩

theorem paramsHeight_eq_ok {s : State} {next : Height} :
    s.paramsHeight = .ok next ↔ next.toInt = s.lastBlockHeight.toInt + 1 := Height.plus_eq_ok

theorem hasRoom_iff {s : State} : s.HasRoom ↔ ∃ records, s.validatorRecords = .ok records := by
  simp only [validatorRecords_eq_ok]
  constructor
  · intro h
    have hlow := Int64.le_toInt s.lastBlockHeight
    obtain ⟨next, hn⟩ := Height.exists_toInt_eq (i := s.lastBlockHeight.toInt + 1)
      (by omega) (by unfold HasRoom at h; omega)
    obtain ⟨second, hs⟩ := Height.exists_toInt_eq (i := s.lastBlockHeight.toInt + 2) (by omega) h
    exact ⟨_, next, second, hn, hs, rfl⟩
  · rintro ⟨_, next, second, -, hs, -⟩
    have hlt := Int64.toInt_lt second
    unfold HasRoom
    omega

instance (s : State) : Decidable s.HasRoom := inferInstanceAs (Decidable (_ < _))

theorem validatorRecords_eq_error {s : State} (h : ¬s.HasRoom) :
    s.validatorRecords = .error .add := by
  cases hr : s.validatorRecords with
  | ok records => exact absurd (hasRoom_iff.mpr ⟨records, hr⟩) h
  | error o =>
    congr 1
    rcases bind_eq_error.mp hr with hr | ⟨next, -, hr⟩
    · exact Height.plus_eq_error hr
    · rcases bind_eq_error.mp hr with hr | ⟨second, -, hr⟩
      · exact Height.plus_eq_error hr
      · cases hr

variable {κ γ : Type} [Ord κ] [TransOrd κ] [LawfulEqOrd κ] {key : Height → κ} {s : State}

theorem refiled_validatorRecords {value : ValidatorSet → γ} {records : List (Height × ValidatorSet)}
    (h : s.validatorRecords = .ok records) (injective : Function.Injective key)
    (m : OrderedMap κ γ) : Refiled key value m s.recordedSet
      (records.foldl (fun all r => all.insert (key r.1) (value r.2)) m) := by
  obtain ⟨next, second, hn, hs, rfl⟩ := validatorRecords_eq_ok.mp h
  have hnext : ∀ h : Height, h = next ↔ h.toInt = s.lastBlockHeight.toInt + 1 := fun h => by
    rw [← Int64.toInt_inj, hn]
  have hsecond : ∀ h : Height, h = second ↔ h.toInt = s.lastBlockHeight.toInt + 2 := fun h => by
    rw [← Int64.toInt_inj, hs]
  by_cases hi : next = s.initialHeight
  · have hset : s.recordedSet = fun h => if h = second then some s.nextValidators
        else if h = next then some s.validators else none := by
      funext h
      simp only [recordedSet, ← hnext, ← hsecond, ← hi, and_self]
    rw [if_pos hi, hset]
    have hfirst : Refiled key value m _ (m.insert (key next) (value s.validators)) :=
      (Refiled.refl m).insert injective next s.validators
    exact hfirst.insert injective second s.nextValidators
  · have hset : s.recordedSet = fun h => if h = second then some s.nextValidators else none := by
      funext h
      have hne : ¬(h = next ∧ h = s.initialHeight) := fun he => hi (he.1.symm.trans he.2)
      simp only [recordedSet, ← hnext, ← hsecond, if_neg hne]
    rw [if_neg hi, hset]
    exact (Refiled.refl m).insert injective second s.nextValidators

theorem refiled_params {value : ConsensusParams → γ} {next : Height}
    (h : s.paramsHeight = .ok next) (injective : Function.Injective key)
    (m : OrderedMap κ γ) : Refiled key value m s.recordedParams
      (m.insert (key next) (value s.consensusParams)) := by
  have hparams : s.recordedParams = fun i => if i = next then some s.consensusParams else none := by
    funext i
    rw [recordedParams, ← paramsHeight_eq_ok.mp h]
    simp only [Int64.toInt_inj]
  rw [hparams]
  exact (Refiled.refl m).insert injective next s.consensusParams

end State

/-- The later store is the earlier one with a state and its records saved in it. -/
structure MemoryStateStore.Recorded (m : MemoryStateStore) (s : State) (m' : MemoryStateStore) :
    Prop where
  state : m'.state = some s
  validators : Refiled id id m.validators s.recordedSet m'.validators
  params : Refiled id id m.params s.recordedParams m'.params
  saves : m'.saves = m.saves + 1
  refusesSaves : m'.refusesSaves = m.refusesSaves

theorem MemoryStateStore.save_eq_ok {m m' : MemoryStateStore} {s : State}
    (h : m.save s = .ok m') : m.refusesSaves = false ∧ m.Recorded s m' := by
  unfold MemoryStateStore.save at h
  split at h
  · cases h
  · rename_i hr
    simp only [bind_eq_ok, mapError_eq_ok, pure_eq_ok] at h
    obtain ⟨records, hrecords, next, hnext, rfl⟩ := h
    exact ⟨by simpa using hr, rfl,
      State.refiled_validatorRecords hrecords Function.injective_id m.validators,
      State.refiled_params hnext Function.injective_id m.params, rfl, rfl⟩

theorem MemoryStateStore.exists_save {m : MemoryStateStore} {s : State}
    (hm : m.refusesSaves = false) (hroom : s.HasRoom) : ∃ m', m.save s = .ok m' := by
  obtain ⟨records, hrecords⟩ := State.hasRoom_iff.mp hroom
  obtain ⟨next, second, hnext, -⟩ := State.validatorRecords_eq_ok.mp hrecords
  unfold MemoryStateStore.save
  rw [if_neg (by rw [hm]; decide), hrecords, State.paramsHeight_eq_ok.mpr hnext]
  exact ⟨_, rfl⟩

theorem MemoryStateStore.save_eq_error {m : MemoryStateStore} {s : State}
    (hm : m.refusesSaves = false) (hroom : ¬s.HasRoom) :
    m.save s = .error (.overflow .add) := by
  unfold MemoryStateStore.save
  rw [if_neg (by rw [hm]; decide), State.validatorRecords_eq_error hroom]
  rfl

/-- The later store is the earlier one with a state and its records saved in it, to the byte. -/
structure DiskStateStore.Recorded (d : DiskStateStore) (s : State) (d' : DiskStateStore) :
    Prop where
  state : Refiled (fun _ : Unit => stateKey) State.codec.encode (d.env.table .state)
    (fun _ => some s) (d'.env.table .state)
  validators : Refiled Height.toBytes ValidatorSet.codec.encode (d.env.table .validators)
    s.recordedSet (d'.env.table .validators)
  params : Refiled Height.toBytes ConsensusParams.codec.encode (d.env.table .consensusParams)
    s.recordedParams (d'.env.table .consensusParams)
  layout : d'.env.table .layout = d.env.table .layout
  blockMetas : d'.env.table .blockMetas = d.env.table .blockMetas

theorem DiskStateStore.table_foldl_putValidators (records : List (Height × ValidatorSet))
    (d : DiskStateStore) (name : TableName) :
    (records.foldl (fun d r => d.putValidators r.1 r.2) d).env.table name =
      if name = .validators then
        records.foldl (fun all r => all.insert r.1.toBytes (ValidatorSet.codec.encode r.2))
          (d.env.table .validators)
      else d.env.table name := by
  induction records generalizing d with
  | nil => by_cases h : name = .validators <;> simp [h]
  | cons r records ih =>
    rw [List.foldl_cons, ih]
    by_cases h : name = .validators
    · simp [h, putValidators, Environment.put]
    · simp [h, putValidators, Environment.put, Environment.table_set_of_ne]

theorem DiskStateStore.save_eq_ok {d d' : DiskStateStore} {s : State} (h : d.save s = .ok d') :
    d.Recorded s d' := by
  simp only [DiskStateStore.save, bind_eq_ok, mapError_eq_ok, pure_eq_ok] at h
  obtain ⟨records, hrecords, next, hnext, rfl⟩ := h
  have htable := table_foldl_putValidators records d
  constructor
  all_goals simp only [putState, putParams, Environment.put, Environment.table_set_self,
    Environment.table_set_of_ne, htable, ne_eq, reduceCtorEq, not_false_eq_true, if_true, if_false]
  · have hone : Refiled (fun _ : Unit => stateKey) State.codec.encode (d.env.table .state) _
        ((d.env.table .state).insert stateKey (State.codec.encode s)) :=
      (Refiled.refl (d.env.table .state)).insert (fun _ _ _ => rfl) () s
    simpa using hone
  · exact State.refiled_validatorRecords hrecords Height.toBytes_injective _
  · exact State.refiled_params hnext Height.toBytes_injective _

theorem DiskStateStore.exists_save {s : State} (d : DiskStateStore) (hroom : s.HasRoom) :
    ∃ d', d.save s = .ok d' := by
  obtain ⟨records, hrecords⟩ := State.hasRoom_iff.mp hroom
  obtain ⟨next, second, hnext, -⟩ := State.validatorRecords_eq_ok.mp hrecords
  unfold DiskStateStore.save
  rw [hrecords, State.paramsHeight_eq_ok.mpr hnext]
  exact ⟨_, rfl⟩

theorem DiskStateStore.save_eq_error {s : State} (d : DiskStateStore) (hroom : ¬s.HasRoom) :
    d.save s = .error (.overflow .add) := by
  unfold DiskStateStore.save
  rw [State.validatorRecords_eq_error hroom]
  rfl

/-- Saving a state in a store of either kind gives the store with the state and its records. -/
inductive RecordedIn : AnyStateStore → State → AnyStateStore → Prop where
  | memory {m m' : MemoryStateStore} {s : State} (h : m.Recorded s m') :
    RecordedIn (.inl m) s (.inl m')
  | disk {d d' : DiskStateStore} {s : State} (h : d.Recorded s d') :
    RecordedIn (.inr d) s (.inr d')

theorem RecordedIn.of_save {a a' : AnyStateStore} {s : State}
    (h : StateStore.save a s = .ok a') : RecordedIn a s a' := by
  cases a with
  | inl m =>
    obtain ⟨m', hm, rfl⟩ := map_eq_ok.mp h
    exact .memory (MemoryStateStore.save_eq_ok hm).2
  | inr d =>
    obtain ⟨d', hd, rfl⟩ := map_eq_ok.mp h
    exact .disk (DiskStateStore.save_eq_ok hd)

end ChainRollback
