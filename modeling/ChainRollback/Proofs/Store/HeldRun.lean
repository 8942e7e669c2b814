import ChainRollback.Proofs.Store.FiledBlocks

/-! # The run that a block store holds

A table that files the blocks of a run under keys in the order of heights is the run's list of
bindings. Each operation of a block store, in memory or on disk, is the operation of the run: a
look-up finds the block of its height, a deletion drops the newest, an append adds one above it.
-/
namespace ChainRollback
open Std

section Filed
variable {κ α : Type} [Ord κ] [TransOrd κ] [LawfulEqOrd κ]
variable {key : Height → κ} {value : BlockMeta → α} {m : OrderedMap κ α}
variable {b : BlockMeta} {run : List BlockMeta}

/-- The bindings of a table are those of the blocks of a run. -/
def Filed (key : Height → κ) (value : BlockMeta → α) (m : OrderedMap κ α)
    (run : List BlockMeta) : Prop :=
  m.entries = run.reverse.map fun b => (key b.height, value b)

omit [TransOrd κ] in
theorem Filed.tabulates (hf : Filed key value m run) (hr : IsRun run)
    (injective : Function.Injective key) : Tabulates key value m (Run.at? run) := by
  intro h
  apply Option.ext
  intro v
  rw [OrderedMap.find?_eq_some, hf, Option.map_eq_some_iff]
  constructor
  · intro hv
    obtain ⟨b, hb, he⟩ := List.mem_map.mp hv
    obtain ⟨hk, hv⟩ := Prod.mk.inj he
    exact ⟨b, hr.at?_eq_some.mpr ⟨List.mem_reverse.mp hb, injective hk⟩, hv⟩
  · rintro ⟨b, hb, rfl⟩
    obtain ⟨hmem, rfl⟩ := hr.at?_eq_some.mp hb
    exact List.mem_map.mpr ⟨b, List.mem_reverse.mpr hmem, rfl⟩

theorem Filed.insert (hf : Filed key value m run) (hr : IsRun (b :: run))
    (increasing : ∀ {a b : Height}, 0 ≤ a.toInt → a.toInt < b.toInt →
      compare (key a) (key b) = .lt) :
    Filed key value (m.insert (key b.height) (value b)) (b :: run) := by
  have hlt : ∀ e ∈ m.entries, compare e.1 (key b.height) = .lt := by
    rw [hf]
    intro e he
    obtain ⟨a, ha, rfl⟩ := List.mem_map.mp he
    have hmem := List.mem_reverse.mp ha
    have hone := hr.tail.one_le a hmem
    exact increasing (by omega) (hr.lt_head a hmem)
  rw [Filed, OrderedMap.entries_insert_of_lt hlt, hf]
  simp

omit [LawfulEqOrd κ] in
theorem Filed.erase (hf : Filed key value m (b :: run)) :
    Filed key value (m.erase (key b.height)) run := by
  have hsplit : m.entries = (run.reverse.map fun b => (key b.height, value b)) ++
      [(key b.height, value b)] := by
    rw [hf]
    simp
  exact OrderedMap.entries_erase_last hsplit

omit [TransOrd κ] [LawfulEqOrd κ] in
theorem Filed.last? (hf : Filed key value m (b :: run)) :
    m.last? = some (key b.height, value b) := by
  rw [OrderedMap.last?, hf]
  simp

omit [TransOrd κ] [LawfulEqOrd κ] in
theorem Filed.last?_empty (hf : Filed key value m []) : m.last? = none := by
  rw [OrderedMap.last?, hf]
  rfl

end Filed

namespace MemoryBlockStore

structure Holds (m : MemoryBlockStore) (run : List BlockMeta) : Prop where
  base : m.base = Run.base run
  height : m.height = Run.tip run
  filed : Filed id id m.metas run
  accepts : m.refusesDeletes = false

variable {m m' : MemoryBlockStore} {b : BlockMeta} {run : List BlockMeta}

theorem Holds.deleteLatest (h : m.Holds (b :: run)) (hr : IsRun (b :: run)) :
    ∃ m', m.deleteLatest = .ok m' ∧ m'.Holds run := by
  have hfiled : Filed id id (m.metas.erase b.height) run := Filed.erase h.filed
  have hheight : m.height = b.height := h.height
  have hzero : b.height ≠ 0 := hr.tip_ne_zero
  unfold MemoryBlockStore.deleteLatest
  rw [h.accepts, hheight]
  simp only [Bool.false_eq_true, if_false, if_neg hzero]
  cases run with
  | nil =>
    have hbase : b.height = m.base := h.base.symm
    rw [if_pos hbase]
    exact ⟨_, rfl, rfl, rfl, hfiled, rfl⟩
  | cons a rest =>
    have hbase : b.height ≠ m.base := fun he => by
      have hlt := hr.base_lt_tip
      rw [← h.base, ← he] at hlt
      omega
    have hminus : b.height.minus 1 = .ok a.height := by
      cases hr with
      | next _ hb => exact Height.minus_eq_ok.mpr (by rw [hb]; change _ = _ + 1 - 1; omega)
    rw [if_neg hbase, hminus]
    exact ⟨_, rfl, h.base.trans (Run.base_cons_cons b a rest), rfl, hfiled, rfl⟩

theorem Holds.deleteLatest_empty (h : m.Holds []) : m.deleteLatest = .error (.error .empty) := by
  unfold MemoryBlockStore.deleteLatest
  rw [h.accepts, h.height]
  rfl

/-- An accepted block extends the run. -/
theorem Holds.isRun_append (h : m.Holds run) (hr : IsRun run) (hb : 1 ≤ b.height.toInt)
    (ha : m.append b = .ok m') : IsRun (b :: run) := by
  unfold MemoryBlockStore.append at ha
  cases run with
  | nil => exact .first hb
  | cons a rest =>
    have hzero : m.height ≠ 0 := by
      rw [h.height]
      exact hr.tip_ne_zero
    rw [if_neg hzero] at ha
    split at ha
    · rename_i hsucc
      rw [h.height] at hsucc
      exact .next hr (Height.succ?_eq_some.mp hsucc)
    · cases ha

theorem Holds.append (h : m.Holds run) (hr : IsRun run) (hb : 1 ≤ b.height.toInt)
    (ha : m.append b = .ok m') : m'.Holds (b :: run) := by
  have hr' := h.isRun_append hr hb ha
  have hfiled : Filed id id (m.metas.insert b.height b) (b :: run) :=
    Filed.insert h.filed hr' fun _ hlt =>
      compareOfLessAndEq_eq_lt.mpr (Int64.lt_iff_toInt_lt.mpr hlt)
  unfold MemoryBlockStore.append at ha
  cases run with
  | nil =>
    have hzero : m.height = 0 := h.height
    rw [if_pos hzero] at ha
    cases ha
    exact ⟨rfl, rfl, hfiled, h.accepts⟩
  | cons a rest =>
    have hzero : m.height ≠ 0 := by
      rw [h.height]
      exact hr.tip_ne_zero
    rw [if_neg hzero] at ha
    split at ha
    · cases ha
      exact ⟨h.base.trans (Run.base_cons_cons b a rest).symm, rfl, hfiled, h.accepts⟩
    · cases ha

end MemoryBlockStore

namespace DiskBlockStore

def Holds (d : DiskBlockStore) (run : List BlockMeta) : Prop :=
  Filed Height.toBytes BlockMeta.codec.encode d.metas run

variable {d d' : DiskBlockStore} {b : BlockMeta} {run : List BlockMeta}

theorem Holds.deleteLatest (h : d.Holds (b :: run)) :
    ∃ d', d.deleteLatest = .ok d' ∧ d'.Holds run := by
  refine ⟨⟨d.env.remove .blockMetas b.height.toBytes⟩, ?_, ?_⟩
  · unfold DiskBlockStore.deleteLatest
    rw [Filed.last? h]
    simp only [Height.ofKey_toBytes]
    rfl
  · have hfiled := Filed.erase h
    simpa [Holds, metas, Environment.remove] using hfiled

theorem Holds.deleteLatest_empty (h : d.Holds []) : d.deleteLatest = .error (.error .empty) := by
  unfold DiskBlockStore.deleteLatest
  rw [Filed.last?_empty h]

/-- An accepted block extends the run. -/
theorem Holds.isRun_append (h : d.Holds run) (hr : IsRun run) (hb : 1 ≤ b.height.toInt)
    (ha : d.append b = .ok d') : IsRun (b :: run) := by
  unfold DiskBlockStore.append at ha
  cases run with
  | nil => exact .first hb
  | cons a rest =>
    rw [Filed.last? h] at ha
    simp only [Height.ofKey_toBytes, bind_eq_ok, mapError_eq_ok, Except.ok.injEq] at ha
    obtain ⟨tip, rfl, next, hnext, ha⟩ := ha
    split at ha
    · rename_i hb
      subst hb
      exact .next hr (Height.plus_eq_ok.mp hnext)
    · cases ha

theorem Holds.append (h : d.Holds run) (hr : IsRun run) (hb : 1 ≤ b.height.toInt)
    (ha : d.append b = .ok d') : d'.Holds (b :: run) := by
  obtain rfl := eq_put_of_append ha
  have hfiled := Filed.insert h (h.isRun_append hr hb ha) Height.compare_toBytes_of_lt
  simpa [Holds, metas, put, Environment.put] using hfiled

end DiskBlockStore

/-- A block store of either kind and the run that it holds. -/
structure HoldsRun (s : AnyBlockStore) (run : List BlockMeta) : Prop where
  isRun : IsRun run
  fits : ∀ b ∈ run, b.Fits
  holds : s.elim (·.Holds run) (·.Holds run)

namespace HoldsRun

variable {s s' : AnyBlockStore} {b : BlockMeta} {run : List BlockMeta}

theorem height_eq (h : HoldsRun s run) : BlockStore.height s = .ok (Run.tip run) := by
  obtain ⟨-, -, h⟩ := h
  cases s with
  | inl m => exact congrArg Except.ok h.height
  | inr d =>
    change DiskBlockStore.edge d.metas.last? = _
    cases run with
    | nil => rw [Filed.last?_empty h]; rfl
    | cons b run => rw [Filed.last? h]; exact Height.ofKey_toBytes b.height

theorem base_eq (h : HoldsRun s run) : BlockStore.base s = .ok (Run.base run) := by
  obtain ⟨-, -, h⟩ := h
  cases s with
  | inl m => exact congrArg Except.ok h.base
  | inr d =>
    have hentries : d.metas.entries = _ := h
    change DiskBlockStore.edge d.metas.entries.head? = _
    rw [hentries, Run.base]
    cases run.reverse with
    | nil => rfl
    | cons b rest => exact Height.ofKey_toBytes b.height

/-- A deletion drops the newest block of the run. -/
theorem deleteLatest (h : HoldsRun s (b :: run)) :
    ∃ s', BlockStore.deleteLatest s = .ok s' ∧ HoldsRun s' run := by
  obtain ⟨hr, hfits, h⟩ := h
  have hfits' : ∀ a ∈ run, a.Fits := fun a ha => hfits a (List.mem_cons_of_mem b ha)
  cases s with
  | inl m =>
    obtain ⟨m', hm, hh⟩ := MemoryBlockStore.Holds.deleteLatest h hr
    exact ⟨.inl m', map_eq_ok.mpr ⟨m', hm, rfl⟩, hr.tail, hfits', hh⟩
  | inr d =>
    obtain ⟨d', hd, hh⟩ := DiskBlockStore.Holds.deleteLatest h
    exact ⟨.inr d', map_eq_ok.mpr ⟨d', hd, rfl⟩, hr.tail, hfits', hh⟩

theorem deleteLatest_empty (h : HoldsRun s []) :
    BlockStore.deleteLatest s = .error (.error .empty) := by
  obtain ⟨-, -, h⟩ := h
  cases s with
  | inl m => exact map_eq_error.mpr (MemoryBlockStore.Holds.deleteLatest_empty h)
  | inr d => exact map_eq_error.mpr (DiskBlockStore.Holds.deleteLatest_empty h)

/-- An append adds the newest block of the run. -/
theorem append (h : HoldsRun s run) (hb : 1 ≤ b.height.toInt) (hfit : b.Fits)
    (ha : BlockLog.append s b = .ok s') : HoldsRun s' (b :: run) := by
  obtain ⟨hr, hfits, h⟩ := h
  have hfits' : ∀ a ∈ b :: run, a.Fits := List.forall_mem_cons.mpr ⟨hfit, hfits⟩
  cases s with
  | inl m =>
    obtain ⟨m', hm, rfl⟩ := map_eq_ok.mp ha
    have hm' := mapError_eq_ok.mp hm
    exact ⟨MemoryBlockStore.Holds.isRun_append h hr hb hm', hfits',
      MemoryBlockStore.Holds.append h hr hb hm'⟩
  | inr d =>
    obtain ⟨d', hd, rfl⟩ := map_eq_ok.mp ha
    exact ⟨DiskBlockStore.Holds.isRun_append h hr hb hd, hfits',
      DiskBlockStore.Holds.append h hr hb hd⟩

theorem files (h : HoldsRun s run) : FilesBlocks s (Run.at? run) := by
  obtain ⟨hr, hfits, h⟩ := h
  refine ⟨?_, fun i b hb => (hr.at?_eq_some.mp hb).2, fun i b hb => hfits b (hr.at?_eq_some.mp hb).1⟩
  cases s with
  | inl m =>
    have hm : m.Holds run := h
    exact hm.filed.tabulates hr Function.injective_id
  | inr d =>
    have hd : d.Holds run := h
    exact Filed.tabulates hd hr Height.toBytes_injective

theorem loadMeta_eq_some {height : Height} (h : HoldsRun s run) :
    BlockStore.loadMeta s height = .ok (some b) ↔ b ∈ run ∧ b.height = height := by
  rw [h.files.loadMeta_eq, Except.ok.injEq, h.isRun.at?_eq_some]

/-- A block that continues the run is accepted. -/
theorem exists_append (h : HoldsRun s run) (hrun : IsRun (b :: run)) :
    ∃ s', BlockLog.append s b = .ok s' := by
  obtain ⟨hr, -, h⟩ := h
  cases s with
  | inl m =>
    have hm : m.Holds run := h
    have hok : ∃ m', m.append b = .ok m' := by
      unfold MemoryBlockStore.append
      rw [hm.height]
      cases hrun with
      | first => exact ⟨_, if_pos rfl⟩
      | @next a _ rest _ hb =>
        have hsucc : (Run.tip (a :: rest)).succ? = some b.height := Height.succ?_eq_some.mpr hb
        rw [if_neg hr.tip_ne_zero, if_pos hsucc]
        exact ⟨_, rfl⟩
    obtain ⟨m', hm'⟩ := hok
    exact ⟨.inl m', map_eq_ok.mpr ⟨m', mapError_eq_ok.mpr hm', rfl⟩⟩
  | inr d =>
    have hd : d.Holds run := h
    have hok : d.append b = .ok (d.put b) := by
      unfold DiskBlockStore.append
      cases hrun with
      | first => rw [Filed.last?_empty hd]
      | next _ hb =>
        rw [Filed.last? hd]
        simp only [Height.ofKey_toBytes, bind_eq_ok, mapError_eq_ok, Except.ok.injEq]
        exact ⟨_, rfl, b.height, Height.plus_eq_ok.mpr hb, if_pos rfl⟩
    exact ⟨.inr (d.put b), map_eq_ok.mpr ⟨_, hok, rfl⟩⟩

/-- A block that does not continue the run is refused, with the tip and the height offered. -/
theorem append_refused (h : HoldsRun s run) (hne : run ≠ [])
    (htip : (Run.tip run).toInt < 0x7fffffffffffffff)
    (hb : b.height.toInt ≠ (Run.tip run).toInt + 1) :
    BlockLog.append s b = .error (.error (.nonContiguous (Run.tip run) b.height)) := by
  obtain ⟨hr, -, h⟩ := h
  obtain ⟨a, rest, rfl⟩ := List.exists_cons_of_ne_nil hne
  cases s with
  | inl m =>
    have hm : m.Holds (a :: rest) := h
    have hsucc : (Run.tip (a :: rest)).succ? ≠ some b.height := fun he =>
      hb (Height.succ?_eq_some.mp he)
    have hrefused : m.append b = .error (.nonContiguous (Run.tip (a :: rest)) b.height) := by
      unfold MemoryBlockStore.append
      rw [hm.height, if_neg hr.tip_ne_zero, if_neg hsucc]
    exact map_eq_error.mpr (mapError_eq_error.mpr ⟨_, hrefused, rfl⟩)
  | inr d =>
    have hd : d.Holds (a :: rest) := h
    have hlow := Int64.le_toInt (Run.tip (a :: rest))
    obtain ⟨next, hnext⟩ := Height.exists_toInt_eq (i := (Run.tip (a :: rest)).toInt + 1)
      (by omega) (by omega)
    have hplus : Height.plus (Run.tip (a :: rest)) 1 = .ok next := Height.plus_eq_ok.mpr hnext
    have hbnext : b.height ≠ next := fun he => hb (by rw [he, hnext])
    refine map_eq_error.mpr ?_
    change d.append b = _
    unfold DiskBlockStore.append
    rw [Filed.last? hd]
    simp only [Height.ofKey_toBytes]
    change (Height.plus (Run.tip (a :: rest)) 1).mapError Halt.overflow >>= _ = _
    rw [hplus]
    exact if_neg hbnext

end HoldsRun
end ChainRollback
