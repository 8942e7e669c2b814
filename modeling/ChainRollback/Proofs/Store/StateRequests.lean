import ChainRollback.Proofs.Store.Built
import ChainRollback.Proofs.Store.Layout
import ChainRollback.Store.Shared

/-! # Memory and disk are the same state store until a save overflows

Saving a state writes it with all of its records, or overflows and writes nothing; which of the two
depends on the height of the state alone. On disk nothing is left of an overflow. In memory it
leaves the lock on the validator sets poisoned, and the store refuses from then on what needs the
lock, while everything else goes on. So the two stores answer alike up to the first overflow, and
their reads tell them apart after it.
-/
namespace ChainRollback
open Codec

inductive StateRequest where
  | save (s : State)
  | putValidators (h : Height) (set : ValidatorSet)
  | putParams (h : Height) (p : ConsensusParams)
  /-- Closes the store and opens it again. A store in memory has nothing to open. -/
  | reopen

namespace StateRequest

def Overflows : StateRequest → Prop
  | save s => ¬s.HasRoom
  | putValidators _ _ | putParams _ _ | reopen => False

instance : DecidablePred Overflows
  | save s => inferInstanceAs (Decidable ¬s.HasRoom)
  | putValidators _ _ | putParams _ _ | reopen => inferInstanceAs (Decidable False)

/-- In memory the request needs the lock on the validator sets. -/
def takesLock : StateRequest → Bool
  | save _ | putValidators _ _ => true
  | putParams _ _ | reopen => false

def Fits : StateRequest → Prop
  | save s => s.Fits
  | putValidators _ set => set.Fits
  | putParams _ p => p.Fits
  | reopen => True

/-- What a request is answered if no lock is in its way. -/
def result (r : StateRequest) : Except Stop Unit :=
  if r.Overflows then .error (.halt (.overflow .add)) else .ok ()

@[simp] theorem overflows_save {s : State} : (save s).Overflows ↔ ¬s.HasRoom := .rfl

@[simp] theorem not_overflows_putValidators {h : Height} {set : ValidatorSet} :
    ¬(putValidators h set).Overflows := id

@[simp] theorem not_overflows_putParams {h : Height} {p : ConsensusParams} :
    ¬(putParams h p).Overflows := id

@[simp] theorem not_overflows_reopen : ¬reopen.Overflows := id

end StateRequest

/-- The answers to requests in turn, whatever the earlier ones were answered, and what is left after
the last. -/
def answerAll {α : Type} (answer : α → StateRequest → Except Stop Unit × α) (a : α) :
    List StateRequest → List (Except Stop Unit) × α
  | [] => ([], a)
  | r :: rest =>
    let (told, a) := answer a r
    let (later, a) := answerAll answer a rest
    (told :: later, a)

/-- What a store answers to every read. -/
@[ext] structure StateReads where
  load : Except Stop (Option State)
  loadValidators : Height → Except Stop ValidatorSet
  loadParams : Height → Except Stop ConsensusParams

namespace SharedStateStore

def answer (m : SharedStateStore) : StateRequest → Except Stop Unit × SharedStateStore
  | .save s => m.save s
  | .putValidators h set => m.putValidators h set
  | .putParams h p => (.ok (), m.putParams h p)
  | .reopen => (.ok (), m)

def reads (m : SharedStateStore) : StateReads := ⟨m.load, m.loadValidators, m.loadParams⟩

/-- A save writes the state with all of its records if their heights are heights, and otherwise
overflows and writes nothing. Behind a poisoned lock it does nothing. -/
def SavesWhole (m : SharedStateStore) (s : State) : Prop :=
  if m.poisoned then m.save s = (.error .poisoned, m)
  else if s.HasRoom then
    ∃ parts, m.save s = (.ok (), { m with parts := parts }) ∧
      SavedIn (.inl m.parts) s (.inl parts)
  else m.save s = (.error (.halt (.overflow .add)), { m with poisoned := true })

end SharedStateStore

namespace DiskStateStore

def perform (d : DiskStateStore) : StateRequest → Except (Halt StoreError) DiskStateStore
  | .save s => d.save s
  | .putValidators h set => .ok (d.putValidators h set)
  | .putParams h p => .ok (d.putParams h p)
  | .reopen => (openIn d.env).mapError fun e => .error e.toStoreError

def answer (d : DiskStateStore) (r : StateRequest) : Except Stop Unit × DiskStateStore :=
  settle d ((d.perform r).mapError .halt)

def reads (d : DiskStateStore) : StateReads :=
  ⟨Stop.ofAnswer (StateStore.load d), fun h => Stop.ofAnswer (StateStore.loadValidators d h),
    fun h => Stop.ofAnswer (StateStore.loadParams d h)⟩

/-- A save writes the state with all of its records if their heights are heights, and otherwise
overflows and writes nothing. -/
def SavesWhole (d : DiskStateStore) (s : State) : Prop :=
  if s.HasRoom then
    ∃ d', d.answer (.save s) = (.ok (), d') ∧ SavedIn (.inr d) s (.inr d')
  else d.answer (.save s) = (.error (.halt (.overflow .add)), d)

end DiskStateStore

namespace StateContents

variable (c : StateContents)

/-- What contents become by a request. -/
def follow : StateRequest → StateContents
  | .save s => if s.HasRoom then c.save s else c
  | .putValidators h set => { c with validators := Function.update c.validators h (some set) }
  | .putParams h p => { c with params := Function.update c.params h (some p) }
  | .reopen => c

def answer (r : StateRequest) : Except Stop Unit × StateContents := (r.result, c.follow r)

/-- Every read is answered from the contents: the state, and at each height the record or that there
is none. -/
def reads : StateReads where
  load := .ok c.state
  loadValidators h := Stop.ofAnswer ((c.validators h).elim (.error (.noValidators h)) .ok)
  loadParams h := Stop.ofAnswer ((c.params h).elim (.error (.noParams h)) .ok)

end StateContents

/-- Contents, and whether a request has overflowed that had the lock on the validator sets. -/
structure LockedContents where
  contents : StateContents := {}
  poisoned : Bool := false

namespace LockedContents

variable (l : LockedContents)

def answer (r : StateRequest) : Except Stop Unit × LockedContents :=
  if l.poisoned && r.takesLock then (.error .poisoned, l)
  else (r.result, ⟨l.contents.follow r, l.poisoned || decide r.Overflows⟩)

def reads : StateReads :=
  if l.poisoned then { l.contents.reads with loadValidators := fun _ => .error .poisoned }
  else l.contents.reads

theorem answer_poisoned {r : StateRequest} (hl : l.poisoned = true) (hr : r.takesLock = true) :
    l.answer r = (.error .poisoned, l) := by
  simp [answer, hl, hr]

theorem answer_open {r : StateRequest} (h : l.poisoned = false ∨ r.takesLock = false) :
    l.answer r = (r.result, ⟨l.contents.follow r, l.poisoned || decide r.Overflows⟩) := by
  rcases h with h | h <;> simp [answer, h]

theorem poisoned_answer (r : StateRequest) :
    (l.answer r).2.poisoned = true ↔ l.poisoned = true ∨ r.Overflows := by
  rw [answer]
  split
  · rename_i h
    simp [(Bool.and_eq_true_iff.mp h).1]
  · simp

/-- Once poisoned, a lock stays so. -/
theorem poisoned_answerAll (requests : List StateRequest) :
    (answerAll answer l requests).2.poisoned = true ↔
      l.poisoned = true ∨ ∃ r ∈ requests, r.Overflows := by
  induction requests generalizing l with
  | nil => simp [answerAll]
  | cons r rest ih =>
    change (answerAll answer (l.answer r).2 rest).2.poisoned = true ↔ _
    simp only [ih, l.poisoned_answer, List.mem_cons, exists_eq_or_imp, or_assoc]

/-- Up to and including the first request that overflows, the lock changes nothing. -/
theorem answerAll_eq (c : StateContents) (requests : List StateRequest)
    (h : ∀ r ∈ requests.dropLast, ¬r.Overflows) :
    (answerAll answer ⟨c, false⟩ requests).1 = (answerAll StateContents.answer c requests).1 ∧
      (answerAll answer ⟨c, false⟩ requests).2.contents =
        (answerAll StateContents.answer c requests).2 := by
  induction requests generalizing c with
  | nil => exact ⟨rfl, rfl⟩
  | cons r rest ih =>
    cases rest with
    | nil => exact ⟨rfl, rfl⟩
    | cons next later =>
      obtain ⟨hr, hlater⟩ := List.forall_mem_cons.mp h
      have hstep : answer ⟨c, false⟩ r = (r.result, ⟨c.follow r, false⟩) := by
        simp [answer_open, hr]
      obtain ⟨hanswers, hcontents⟩ := ih (c.follow r) hlater
      rw [answerAll, hstep]
      exact ⟨congrArg (r.result :: ·) hanswers, hcontents⟩

theorem reads_eq_iff {c : StateContents} (h : l.poisoned = false → l.contents = c) :
    l.reads = c.reads ↔ l.poisoned = false := by
  cases hp : l.poisoned with
  | false => simp [reads, hp, h hp]
  | true =>
    suffices l.reads ≠ c.reads by simpa
    intro heq
    have hzero := congrFun (congrArg StateReads.loadValidators heq) 0
    rw [reads, if_pos hp] at hzero
    cases hset : c.validators 0 with
    | none => simp [StateContents.reads, Stop.ofAnswer, hset] at hzero
    | some set => simp [StateContents.reads, Stop.ofAnswer, hset] at hzero

end LockedContents

/-- A store that follows another step by step follows it through any requests. -/
theorem exists_answerAll {α β : Type} {serves : α → β → Prop}
    {answer : α → StateRequest → Except Stop Unit × α}
    {follow : β → StateRequest → Except Stop Unit × β}
    (step : ∀ (a : α) (b : β) (r : StateRequest), serves a b → r.Fits →
      ∃ a', answer a r = ((follow b r).1, a') ∧ serves a' (follow b r).2)
    {a : α} {b : β} (h : serves a b) {requests : List StateRequest}
    (hfits : ∀ r ∈ requests, r.Fits) :
    ∃ a', answerAll answer a requests = ((answerAll follow b requests).1, a') ∧
      serves a' (answerAll follow b requests).2 := by
  induction requests generalizing a b with
  | nil => exact ⟨a, rfl, h⟩
  | cons r rest ih =>
    obtain ⟨hfirst, hrest⟩ := List.forall_mem_cons.mp hfits
    obtain ⟨a', ha, hserves⟩ := step a b r h hfirst
    obtain ⟨last, hlast, hserves'⟩ := ih hserves hrest
    refine ⟨last, ?_, hserves'⟩
    simp only [answerAll, ha, hlast]

/-- A store in memory keeps contents and has its lock as they say. -/
structure SharedStateStore.Serves (m : SharedStateStore) (l : LockedContents) : Prop where
  keeps : KeepsState (.inl m.parts) l.contents
  poisoned_eq : m.poisoned = l.poisoned

namespace SharedStateStore.Serves

variable {m : SharedStateStore} {l : LockedContents} {s : State}

theorem accepts (h : Serves m l) : m.parts.refusesSaves = false :=
  MemoryStateStore.Keeps.accepts h.keeps.keeps

theorem save_poisoned (h : Serves m l) (hp : m.poisoned = true) :
    m.save s = (.error .poisoned, m) := by
  simp [SharedStateStore.save, hp, h.accepts]

theorem exists_save (h : Serves m l) (hp : m.poisoned = false) (hs : s.Fits) (hroom : s.HasRoom) :
    ∃ parts, m.save s = (.ok (), { m with parts := parts }) ∧
      KeepsState (.inl parts) (l.contents.save s) ∧ SavedIn (.inl m.parts) s (.inl parts) := by
  obtain ⟨parts, hparts⟩ := MemoryStateStore.exists_save h.accepts hroom
  have hsave : StateStore.save (.inl m.parts : AnyStateStore) s = .ok (.inl parts) :=
    map_eq_ok.mpr ⟨parts, hparts, rfl⟩
  refine ⟨parts, ?_, h.keeps.recorded hs (.of_save hsave), h.keeps.savedIn hs hsave⟩
  simp [SharedStateStore.save, hp, hparts]

theorem save_overflows (h : Serves m l) (hp : m.poisoned = false) (hroom : ¬s.HasRoom) :
    m.save s = (.error (.halt (.overflow .add)), { m with poisoned := true }) := by
  simp [SharedStateStore.save, hp, MemoryStateStore.save_eq_error h.accepts hroom]

theorem savesWhole (h : Serves m l) (hs : s.Fits) : m.SavesWhole s := by
  unfold SavesWhole
  split
  · exact h.save_poisoned ‹_›
  · rename_i hp
    split
    · rename_i hroom
      obtain ⟨parts, hparts, -, hsaved⟩ := h.exists_save (by simpa using hp) hs hroom
      exact ⟨parts, hparts, hsaved⟩
    · exact h.save_overflows (by simpa using hp) ‹_›

/-- With the lock open a save goes as it does for contents, and an overflow poisons it. -/
theorem follow_save (h : Serves m l) (hl : l.poisoned = false) (hs : s.Fits) :
    ∃ m', m.save s = ((StateRequest.save s).result, m') ∧
      Serves m' ⟨l.contents.follow (.save s), decide (StateRequest.save s).Overflows⟩ := by
  have hopen : m.poisoned = false := h.poisoned_eq.trans hl
  by_cases hroom : s.HasRoom
  · obtain ⟨parts, hparts, hkeeps, -⟩ := h.exists_save hopen hs hroom
    refine ⟨{ m with parts := parts }, ?_, ?_, ?_⟩
    · simp [hparts, StateRequest.result, hroom]
    · simpa [StateContents.follow, hroom] using hkeeps
    · simp [hopen, hroom]
  · refine ⟨{ m with poisoned := true }, ?_, ?_, ?_⟩
    · simp [h.save_overflows hopen hroom, StateRequest.result, hroom]
    · simpa [StateContents.follow, hroom] using h.keeps
    · simp [hroom]

/-- A store in memory answers as its contents behind their lock. -/
theorem answer (h : Serves m l) {r : StateRequest} (hr : r.Fits) :
    ∃ m', m.answer r = ((l.answer r).1, m') ∧ Serves m' (l.answer r).2 := by
  have hp := h.poisoned_eq
  cases r with
  | save s =>
    cases hl : l.poisoned with
    | true =>
      rw [l.answer_poisoned hl rfl]
      exact ⟨m, h.save_poisoned (hp.trans hl), h⟩
    | false =>
      rw [l.answer_open (.inl hl), hl]
      exact h.follow_save hl hr
  | putValidators i set =>
    cases hl : l.poisoned with
    | true =>
      rw [l.answer_poisoned hl rfl]
      exact ⟨m, if_pos (hp.trans hl), h⟩
    | false =>
      rw [l.answer_open (.inl hl)]
      exact ⟨_, if_neg (by simp [hp, hl]), h.keeps.putValidators i hr, hp.trans (by simp)⟩
  | putParams i p =>
    rw [l.answer_open (.inr rfl)]
    exact ⟨m.putParams i p, rfl, h.keeps.putParams i hr, hp.trans (by simp)⟩
  | reopen =>
    rw [l.answer_open (.inr rfl)]
    exact ⟨m, rfl, h.keeps, hp.trans (by simp)⟩

theorem answerAll (h : Serves m l) {requests : List StateRequest}
    (hfits : ∀ r ∈ requests, r.Fits) :
    ∃ m', answerAll SharedStateStore.answer m requests =
        ((answerAll LockedContents.answer l requests).1, m') ∧
      Serves m' (answerAll LockedContents.answer l requests).2 :=
  exists_answerAll (fun _ _ _ h hr => h.answer hr) h hfits

theorem reads_eq (h : Serves m l) : m.reads = l.reads := by
  have hload : m.load = .ok l.contents.state := congrArg Stop.ofAnswer h.keeps.load_eq
  have hparams : m.loadParams = l.contents.reads.loadParams :=
    funext fun i => congrArg Stop.ofAnswer (h.keeps.loadParams_eq i)
  rw [LockedContents.reads]
  split
  · rename_i hl
    refine StateReads.ext hload (funext fun i => ?_) hparams
    exact if_pos (h.poisoned_eq.trans hl)
  · rename_i hl
    refine StateReads.ext hload (funext fun i => ?_) hparams
    have hp : ¬m.poisoned = true := by rwa [h.poisoned_eq]
    exact (if_neg hp).trans (congrArg Stop.ofAnswer (h.keeps.loadValidators_eq i))

end SharedStateStore.Serves

/-- A store on disk keeps contents and can be opened again. -/
structure DiskStateStore.Serves (d : DiskStateStore) (c : StateContents) : Prop where
  keeps : KeepsState (.inr d) c
  isCurrent : d.env.IsCurrent

namespace DiskStateStore.Serves

variable {d d' : DiskStateStore} {c : StateContents} {s : State}

theorem exists_save (h : Serves d c) (hs : s.Fits) (hroom : s.HasRoom) :
    ∃ d', d.save s = .ok d' ∧ Serves d' (c.save s) ∧ SavedIn (.inr d) s (.inr d') := by
  obtain ⟨d', hd⟩ := d.exists_save hroom
  have hsave : StateStore.save (.inr d : AnyStateStore) s = .ok (.inr d') :=
    map_eq_ok.mpr ⟨d', hd, rfl⟩
  have hcurrent : d'.env.IsCurrent := by
    rw [Environment.IsCurrent, (DiskStateStore.save_eq_ok hd).layout]
    exact h.isCurrent
  exact ⟨d', hd, ⟨h.keeps.recorded hs (.of_save hsave), hcurrent⟩, h.keeps.savedIn hs hsave⟩

theorem savesWhole (h : Serves d c) (hs : s.Fits) : d.SavesWhole s := by
  unfold SavesWhole
  split
  · rename_i hroom
    obtain ⟨d', hd, -, hsaved⟩ := h.exists_save hs hroom
    exact ⟨d', by simp [DiskStateStore.answer, perform, hd, settle], hsaved⟩
  · rename_i hroom
    simp [DiskStateStore.answer, perform, d.save_eq_error hroom, settle]

/-- A store on disk answers as its contents. -/
theorem answer (h : Serves d c) {r : StateRequest} (hr : r.Fits) :
    ∃ d', d.answer r = ((c.answer r).1, d') ∧ Serves d' (c.answer r).2 := by
  cases r with
  | save s =>
    by_cases hroom : s.HasRoom
    · obtain ⟨d', hd, hserves, -⟩ := h.exists_save hr hroom
      refine ⟨d', ?_, by simpa [StateContents.answer, StateContents.follow, hroom] using hserves⟩
      simp [DiskStateStore.answer, perform, hd, settle, StateContents.answer,
        StateRequest.result, hroom]
    · refine ⟨d, ?_, by simpa [StateContents.answer, StateContents.follow, hroom] using h⟩
      simp [DiskStateStore.answer, perform, d.save_eq_error hroom, settle, StateContents.answer,
        StateRequest.result, hroom]
  | putValidators i set =>
    exact ⟨_, rfl, h.keeps.putValidators i hr, h.isCurrent.set _ (by decide)⟩
  | putParams i p => exact ⟨_, rfl, h.keeps.putParams i hr, h.isCurrent.set _ (by decide)⟩
  | reopen =>
    obtain ⟨d', hd⟩ := DiskStateStore.exists_openIn h.isCurrent
    refine ⟨d', ?_, h.keeps.openIn hd, DiskStateStore.isCurrent_of_openIn hd⟩
    simp [DiskStateStore.answer, perform, hd, settle, StateContents.answer, StateRequest.result]

theorem answerAll (h : Serves d c) {requests : List StateRequest}
    (hfits : ∀ r ∈ requests, r.Fits) :
    ∃ d', answerAll DiskStateStore.answer d requests =
        ((answerAll StateContents.answer c requests).1, d') ∧
      Serves d' (answerAll StateContents.answer c requests).2 :=
  exists_answerAll (fun _ _ _ h hr => h.answer hr) h hfits

theorem reads_eq (h : Serves d c) : d.reads = c.reads :=
  StateReads.ext (congrArg Stop.ofAnswer h.keeps.load_eq)
    (funext fun i => congrArg Stop.ofAnswer (h.keeps.loadValidators_eq i))
    (funext fun i => congrArg Stop.ofAnswer (h.keeps.loadParams_eq i))

end DiskStateStore.Serves

/-- A new store in memory and a new one on disk follow any requests as contents do, the one in
memory behind a lock that any overflow poisons. Both give the same answers up to and including the
first overflow, and their reads are the same exactly if there was none. After the requests, and so
after each of them, a save is all or nothing on both. -/
theorem memory_and_disk_read_alike_iff {d : DiskStateStore}
    (hd : DiskStateStore.openIn .empty = .ok d) (requests : List StateRequest)
    (hfits : ∀ r ∈ requests, r.Fits) :
    ∃ told l memory answers c disk,
      answerAll LockedContents.answer {} requests = (told, l) ∧
      answerAll SharedStateStore.answer {} requests = (told, memory) ∧
      answerAll StateContents.answer {} requests = (answers, c) ∧
      answerAll DiskStateStore.answer d requests = (answers, disk) ∧
      memory.reads = l.reads ∧ disk.reads = c.reads ∧
      (l.poisoned = true ↔ ∃ r ∈ requests, r.Overflows) ∧
      ((∀ r ∈ requests.dropLast, ¬r.Overflows) → told = answers ∧ l.contents = c) ∧
      (memory.reads = disk.reads ↔ ∀ r ∈ requests, ¬r.Overflows) ∧
      ∀ s : State, s.Fits → memory.SavesWhole s ∧ disk.SavesWhole s := by
  have hnew : SharedStateStore.Serves {} {} := ⟨.memory, rfl⟩
  have hopen : d.Serves {} := ⟨.disk hd, DiskStateStore.isCurrent_of_openIn hd⟩
  obtain ⟨memory, hmemory, hm⟩ := hnew.answerAll hfits
  obtain ⟨disk, hdisk, hk⟩ := hopen.answerAll hfits
  have halike := LockedContents.answerAll_eq {} requests
  have hpoisoned : (answerAll LockedContents.answer {} requests).2.poisoned = true ↔
      ∃ r ∈ requests, r.Overflows := by
    simpa using LockedContents.poisoned_answerAll {} requests
  have hnone : (answerAll LockedContents.answer {} requests).2.poisoned = false ↔
      ∀ r ∈ requests, ¬r.Overflows := by
    rw [← Bool.not_eq_true, hpoisoned]
    simp
  refine ⟨_, _, memory, _, _, disk, rfl, hmemory, rfl, hdisk, hm.reads_eq, hk.reads_eq, hpoisoned,
    halike, ?_, fun s hs => ⟨hm.savesWhole hs, hk.savesWhole hs⟩⟩
  rw [hm.reads_eq, hk.reads_eq, ← hnone]
  refine LockedContents.reads_eq_iff _ fun hp => (halike fun r hr => ?_).2
  exact hnone.mp hp r (requests.dropLast_subset hr)

/-- A state, a record apart from it, a reopening, a save at the greatest height and three requests
after it. -/
def TwoBlocks.requests : List StateRequest :=
  [.save state, .putValidators 1 set, .reopen,
    .save { state with lastBlockHeight := Int64.maxValue }, .putValidators 2 set, .putParams 7 {},
    .save state]

theorem read_alike_iff_of_overflow : ∃ d memory disk,
    DiskStateStore.openIn .empty = .ok d ∧
    answerAll SharedStateStore.answer {} TwoBlocks.requests =
      ([.ok (), .ok (), .ok (), .error (.halt (.overflow .add)), .error .poisoned, .ok (),
        .error .poisoned], memory) ∧
    answerAll DiskStateStore.answer d TwoBlocks.requests =
      ([.ok (), .ok (), .ok (), .error (.halt (.overflow .add)), .ok (), .ok (), .ok ()], disk) ∧
    memory.reads ≠ disk.reads ∧ memory.loadParams 7 = .ok {} ∧
    disk.reads.loadParams 7 = .ok {} := by
  have hfits : ∀ r ∈ TwoBlocks.requests, r.Fits := by
    simp only [TwoBlocks.requests, List.forall_mem_cons, StateRequest.Fits]
    exact ⟨TwoBlocks.state_fits, TwoBlocks.set_fits, trivial, { TwoBlocks.state_fits with },
      TwoBlocks.set_fits, TwoBlocks.params_fits, TwoBlocks.state_fits, by simp⟩
  obtain ⟨told, l, memory, answers, c, disk, hl, hm, hc, hk, hmemory, hdisk, -, -, hiff, -⟩ :=
    memory_and_disk_read_alike_iff rfl _ hfits
  cases hl
  cases hc
  refine ⟨_, memory, disk, rfl, hm, hk, ?_, ?_, ?_⟩
  · rw [ne_eq, hiff]
    decide
  · exact congrFun (congrArg StateReads.loadParams hmemory) 7
  · exact congrFun (congrArg StateReads.loadParams hdisk) 7

/-- After one save at the greatest height no validator set can be loaded from memory, while on disk
there is none. -/
theorem not_read_alike_of_overflow : ∃ d memory disk,
    DiskStateStore.openIn .empty = .ok d ∧
    answerAll SharedStateStore.answer {} [.save { lastBlockHeight := Int64.maxValue }] =
      ([.error (.halt (.overflow .add))], memory) ∧
    answerAll DiskStateStore.answer d [.save { lastBlockHeight := Int64.maxValue }] =
      ([.error (.halt (.overflow .add))], disk) ∧
    memory.reads.loadValidators 1 = .error .poisoned ∧
    disk.reads.loadValidators 1 = .error (.halt (.error (.noValidators 1))) :=
  ⟨_, _, _, rfl, rfl, rfl, rfl, rfl⟩

end ChainRollback
