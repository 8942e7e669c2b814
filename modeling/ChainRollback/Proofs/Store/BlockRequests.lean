import ChainRollback.Proofs.Store.Built
import ChainRollback.Proofs.Store.Layout

/-! # Memory and disk are the same block store

What a block store answers to a request, and what it holds afterwards, follows from the run that it
holds. The run does not depend on how the store keeps it, so a store in memory and one on disk that
were new at the same time give the same answers to the same requests and hold the same blocks.
-/
namespace ChainRollback
open Codec

inductive BlockRequest where
  | append (b : BlockMeta)
  | deleteLatest
  /-- Closes the store and opens it again. A store in memory has nothing to open. -/
  | reopen

namespace BlockRequest

def perform (s : AnyBlockStore) : BlockRequest → Except (Halt StoreError) AnyBlockStore
  | append b => BlockLog.append s b
  | deleteLatest => BlockStore.deleteLatest s
  | reopen =>
    match s with
    | .inl m => .ok (.inl m)
    | .inr d => ((DiskBlockStore.openIn d.env).mapError fun e => .error e.toStoreError).map .inr

/-- The answer to a request and the store after it. A refused request leaves the store. -/
def answer (s : AnyBlockStore) (r : BlockRequest) : Except (Halt StoreError) Unit × AnyBlockStore :=
  settle s (r.perform s)

/-- The answers to requests in turn and the store after the last. -/
def answerAll (s : AnyBlockStore) :
    List BlockRequest → List (Except (Halt StoreError) Unit) × AnyBlockStore
  | [] => ([], s)
  | r :: rest =>
    let (a, s) := r.answer s
    let (answers, s) := answerAll s rest
    (a :: answers, s)

/-- Only blocks of a chain are appended, and none at the greatest height, which no block extends. -/
def IsAllowed : BlockRequest → Prop
  | append b => 1 ≤ b.height.toInt ∧ b.height.toInt < 0x7fffffffffffffff ∧ b.Fits
  | deleteLatest | reopen => True

end BlockRequest

/-- The answers of a block store that has no faults. -/
inductive IsBlockAnswer : Except (Halt StoreError) Unit → Prop where
  | ok : IsBlockAnswer (.ok ())
  | nonContiguous (tip got : Height) : IsBlockAnswer (.error (.error (.nonContiguous tip got)))
  | empty : IsBlockAnswer (.error (.error .empty))

/-- The heights held are those from `base` to `height`, none if both are zero, and each block is
held under its own. -/
structure HoldsInterval (s : AnyBlockStore) (base height : Height) : Prop where
  base_eq : BlockStore.base s = .ok base
  height_eq : BlockStore.height s = .ok height
  ends : base = 0 ∧ height = 0 ∨ 1 ≤ base.toInt ∧ base.toInt ≤ height.toInt
  held : ∀ h : Height, (∃ b, BlockStore.loadMeta s h = .ok (some b)) ↔
    1 ≤ base.toInt ∧ base.toInt ≤ h.toInt ∧ h.toInt ≤ height.toInt
  own : ∀ (h : Height) (b : BlockMeta), BlockStore.loadMeta s h = .ok (some b) → b.height = h

namespace Run

/-- What a run answers to a request and what it becomes. -/
def answer (run : List BlockMeta) : BlockRequest → Except (Halt StoreError) Unit × List BlockMeta
  | .append b =>
    if run = [] ∨ b.height.toInt = (tip run).toInt + 1 then (.ok (), b :: run)
    else (.error (.error (.nonContiguous (tip run) b.height)), run)
  | .deleteLatest =>
    match run with
    | [] => (.error (.error .empty), [])
    | _ :: rest => (.ok (), rest)
  | .reopen => (.ok (), run)

def answerAll (run : List BlockMeta) :
    List BlockRequest → List (Except (Halt StoreError) Unit) × List BlockMeta
  | [] => ([], run)
  | r :: rest =>
    let (a, run) := answer run r
    let (answers, run) := answerAll run rest
    (a :: answers, run)

theorem isBlockAnswer_answer (run : List BlockMeta) (r : BlockRequest) :
    IsBlockAnswer (answer run r).1 := by
  cases r with
  | append b =>
    rw [answer]
    split
    · exact .ok
    · exact .nonContiguous _ _
  | deleteLatest =>
    cases run with
    | nil => exact .empty
    | cons b rest => exact .ok
  | reopen => exact .ok

theorem isBlockAnswer_of_mem {run : List BlockMeta} {requests : List BlockRequest}
    {a : Except (Halt StoreError) Unit} (ha : a ∈ (answerAll run requests).1) :
    IsBlockAnswer a := by
  induction requests generalizing run with
  | nil => cases ha
  | cons r rest ih =>
    rcases List.mem_cons.mp ha with rfl | ha
    · exact isBlockAnswer_answer run r
    · exact ih ha

theorem isRun_append {b : BlockMeta} {run : List BlockMeta} (hr : IsRun run)
    (hb : 1 ≤ b.height.toInt) (h : run = [] ∨ b.height.toInt = (tip run).toInt + 1) :
    IsRun (b :: run) := by
  cases run with
  | nil => exact .first hb
  | cons a rest => exact .next hr (h.resolve_left (by simp))

end Run

theorem HoldsRun.holdsInterval {s : AnyBlockStore} {run : List BlockMeta} (h : HoldsRun s run) :
    HoldsInterval s (Run.base run) (Run.tip run) := by
  refine ⟨h.base_eq, h.height_eq, (BlockContents.sound_ofRun h.isRun h.fits).ends, fun i => ?_,
    fun i b hb => (h.loadMeta_eq_some.mp hb).2⟩
  simp only [h.loadMeta_eq_some]
  exact h.isRun.exists_mem_iff

/-- A store holds a run, none of it at the greatest height, and can be opened again. -/
structure ServesRun (s : AnyBlockStore) (run : List BlockMeta) : Prop where
  holds : HoldsRun s run
  below : ∀ b ∈ run, b.height.toInt < 0x7fffffffffffffff
  isCurrent : ∀ d, s = .inr d → d.env.IsCurrent

namespace ServesRun

variable {s s' : AnyBlockStore} {run : List BlockMeta} {b : BlockMeta}

theorem tip_lt (h : ServesRun s run) : (Run.tip run).toInt < 0x7fffffffffffffff := by
  cases run with
  | nil => decide
  | cons b rest => exact h.below b List.mem_cons_self

theorem append (h : ServesRun s run) (hb : (BlockRequest.append b).IsAllowed)
    (ha : BlockLog.append s b = .ok s') : ServesRun s' (b :: run) := by
  obtain ⟨hone, hmax, hfits⟩ := hb
  refine ⟨h.holds.append hone hfits ha, List.forall_mem_cons.mpr ⟨hmax, h.below⟩, ?_⟩
  rintro d rfl
  cases s with
  | inl m =>
    obtain ⟨_, -, hd⟩ := map_eq_ok.mp ha
    cases hd
  | inr d₀ =>
    obtain ⟨d', hd, he⟩ := map_eq_ok.mp ha
    cases he
    rw [DiskBlockStore.eq_put_of_append hd]
    exact DiskBlockStore.isCurrent_put (h.isCurrent d₀ rfl) b

theorem deleteLatest (h : ServesRun s (b :: run)) :
    ∃ s', BlockStore.deleteLatest s = .ok s' ∧ ServesRun s' run := by
  obtain ⟨s', hs, hholds⟩ := h.holds.deleteLatest
  refine ⟨s', hs, hholds, fun a ha => h.below a (List.mem_cons_of_mem b ha), ?_⟩
  rintro d rfl
  cases s with
  | inl m =>
    obtain ⟨_, -, hd⟩ := map_eq_ok.mp hs
    cases hd
  | inr d₀ =>
    obtain ⟨d', hd, he⟩ := map_eq_ok.mp hs
    cases he
    exact DiskBlockStore.isCurrent_of_deleteLatest (h.isCurrent d₀ rfl) hd

theorem reopen (h : ServesRun s run) :
    ∃ s', BlockRequest.reopen.perform s = .ok s' ∧ ServesRun s' run := by
  cases s with
  | inl m => exact ⟨.inl m, rfl, h⟩
  | inr d =>
    obtain ⟨d', hd⟩ := DiskBlockStore.exists_openIn (h.isCurrent d rfl)
    refine ⟨.inr d', map_eq_ok.mpr ⟨d', mapError_eq_ok.mpr hd, rfl⟩, h.holds.openIn hd, h.below, ?_⟩
    rintro _ ⟨⟩
    exact DiskBlockStore.isCurrent_of_openIn hd

/-- A store answers as the run that it holds, and goes on holding what the run becomes. -/
theorem answer (h : ServesRun s run) {r : BlockRequest} (hr : r.IsAllowed) :
    ∃ s', r.answer s = ((Run.answer run r).1, s') ∧ ServesRun s' (Run.answer run r).2 := by
  unfold BlockRequest.answer
  cases r with
  | append b =>
    by_cases hb : run = [] ∨ b.height.toInt = (Run.tip run).toInt + 1
    · obtain ⟨s', hs⟩ := h.holds.exists_append (Run.isRun_append h.holds.isRun hr.1 hb)
      have hserves := h.append hr hs
      refine ⟨s', ?_, ?_⟩
      · simp only [BlockRequest.perform, hs, settle, Run.answer, if_pos hb]
      · simpa only [Run.answer, if_pos hb] using hserves
    · obtain ⟨hne, hheight⟩ := not_or.mp hb
      have hs := h.holds.append_refused hne h.tip_lt hheight
      refine ⟨s, ?_, ?_⟩
      · simp only [BlockRequest.perform, hs, settle, Run.answer, if_neg hb]
      · simpa only [Run.answer, if_neg hb] using h
  | deleteLatest =>
    cases run with
    | nil =>
      have hs := h.holds.deleteLatest_empty
      exact ⟨s, by simp only [BlockRequest.perform, hs, settle, Run.answer], h⟩
    | cons b rest =>
      obtain ⟨s', hs, hserves⟩ := h.deleteLatest
      exact ⟨s', by simp only [BlockRequest.perform, hs, settle, Run.answer], hserves⟩
  | reopen =>
    obtain ⟨s', hs, hserves⟩ := h.reopen
    exact ⟨s', by simp only [hs, settle, Run.answer], hserves⟩

theorem answerAll (h : ServesRun s run) {requests : List BlockRequest}
    (hr : ∀ r ∈ requests, r.IsAllowed) :
    ∃ s', BlockRequest.answerAll s requests = ((Run.answerAll run requests).1, s') ∧
      ServesRun s' (Run.answerAll run requests).2 := by
  induction requests generalizing s run with
  | nil => exact ⟨s, rfl, h⟩
  | cons r rest ih =>
    obtain ⟨hfirst, hrest⟩ := List.forall_mem_cons.mp hr
    obtain ⟨s', hs, hserves⟩ := h.answer hfirst
    obtain ⟨final, hfinal, hserves'⟩ := ih hserves hrest
    refine ⟨final, ?_, hserves'⟩
    simp only [BlockRequest.answerAll, hs, hfinal, Run.answerAll]

theorem memory : ServesRun (.inl {}) [] :=
  ⟨⟨.empty, by simp, rfl, rfl, rfl, rfl⟩, by simp, by simp⟩

theorem disk {d : DiskBlockStore} (h : DiskBlockStore.openIn .empty = .ok d) :
    ServesRun (.inr d) [] := by
  have hempty : HoldsRun (.inr ⟨.empty⟩) [] := ⟨.empty, by simp, rfl⟩
  refine ⟨hempty.openIn h, by simp, ?_⟩
  rintro _ ⟨⟩
  exact DiskBlockStore.isCurrent_of_openIn h

end ServesRun

/-- A new store in memory and a new one on disk give the same answers to any requests, those of a
run that was empty. After the requests, and so after each of them, both have the ends of the run and
load its blocks, and a request that either refuses leaves it unchanged. -/
theorem memory_and_disk_answer_alike {d : DiskBlockStore}
    (hd : DiskBlockStore.openIn .empty = .ok d) (requests : List BlockRequest)
    (hr : ∀ r ∈ requests, r.IsAllowed) :
    ∃ answers run memory disk, Run.answerAll [] requests = (answers, run) ∧
      BlockRequest.answerAll (.inl {}) requests = (answers, memory) ∧
      BlockRequest.answerAll (.inr d) requests = (answers, disk) ∧
      (∀ a ∈ answers, IsBlockAnswer a) ∧
      HoldsInterval memory (Run.base run) (Run.tip run) ∧
      HoldsInterval disk (Run.base run) (Run.tip run) ∧
      (∀ h, BlockStore.loadMeta memory h = .ok (Run.at? run h) ∧
        BlockStore.loadMeta disk h = .ok (Run.at? run h)) ∧
      ∀ (r : BlockRequest) (e : Halt StoreError) (s' : AnyBlockStore),
        (r.answer memory = (.error e, s') → s' = memory) ∧
        (r.answer disk = (.error e, s') → s' = disk) := by
  obtain ⟨memory, hmemory, hm⟩ := ServesRun.memory.answerAll hr
  obtain ⟨disk, hdisk, hk⟩ := (ServesRun.disk hd).answerAll hr
  exact ⟨_, _, memory, disk, rfl, hmemory, hdisk, fun a ha => Run.isBlockAnswer_of_mem ha,
    hm.holds.holdsInterval, hk.holds.holdsInterval,
    fun h => ⟨hm.holds.files.loadMeta_eq h, hk.holds.files.loadMeta_eq h⟩,
    fun r e s' => ⟨settle_eq_error, settle_eq_error⟩⟩

/-- A gap, a reopening and a deletion too many. -/
theorem answer_alike_of_gap : ∃ d memory disk,
    DiskBlockStore.openIn .empty = .ok d ∧
    BlockRequest.answerAll (.inl {}) [.append (TwoBlocks.block 1), .append (TwoBlocks.block 3),
      .reopen, .deleteLatest, .deleteLatest] = ([.ok (), .error (.error (.nonContiguous 1 3)),
        .ok (), .ok (), .error (.error .empty)], memory) ∧
    BlockRequest.answerAll (.inr d) [.append (TwoBlocks.block 1), .append (TwoBlocks.block 3),
      .reopen, .deleteLatest, .deleteLatest] = ([.ok (), .error (.error (.nonContiguous 1 3)),
        .ok (), .ok (), .error (.error .empty)], disk) ∧
    HoldsInterval memory 0 0 ∧ HoldsInterval disk 0 0 := by
  have hallowed : ∀ r ∈ [BlockRequest.append (TwoBlocks.block 1), .append (TwoBlocks.block 3),
      .reopen, .deleteLatest, .deleteLatest], r.IsAllowed := by
    simp only [List.forall_mem_cons, BlockRequest.IsAllowed]
    exact ⟨⟨by decide, by decide, TwoBlocks.block_fits 1⟩,
      ⟨by decide, by decide, TwoBlocks.block_fits 3⟩, trivial, trivial, trivial, by simp⟩
  obtain ⟨answers, run, memory, disk, hrun, hm, hk, -, hmemory, hdisk, -⟩ :=
    memory_and_disk_answer_alike rfl _ hallowed
  have hanswers : answers = [.ok (), .error (.error (.nonContiguous 1 3)), .ok (), .ok (),
      .error (.error .empty)] := (congrArg Prod.fst hm).symm
  have hempty : run = [] := (congrArg Prod.snd hrun).symm
  subst hanswers hempty
  exact ⟨_, memory, disk, rfl, hm, hk, hmemory, hdisk⟩

end ChainRollback
