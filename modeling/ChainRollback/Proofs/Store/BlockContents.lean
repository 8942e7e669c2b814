import ChainRollback.Proofs.Store.HeldRun

/-! # What a block store keeps

The contents of a block store are its two ends and the blocks it can load. A store in memory may
have lost the records of some blocks between its ends; a store on disk holds the run that its
records are. Either loses exactly the block at its tip when the latest block is deleted.
-/
namespace ChainRollback
open Std

/-- A block at its own height, which is that of a block, that fits its record. -/
structure BlockMeta.StandsAt (b : BlockMeta) (h : Height) : Prop where
  height_eq : b.height = h
  one_le : 1 ≤ h.toInt
  fits : b.Fits

structure BlockContents where
  base : Height := 0
  height : Height := 0
  block : Height → Option BlockMeta := fun _ => none

namespace BlockContents

/-- The ends are both zero or both heights of blocks, and each block stands at its own height. -/
structure Sound (c : BlockContents) : Prop where
  ends : c.base = 0 ∧ c.height = 0 ∨ 1 ≤ c.base.toInt ∧ c.base.toInt ≤ c.height.toInt
  own : ∀ h b, c.block h = some b → b.StandsAt h

/-- The later contents are the earlier without the block at the tip. -/
structure LosesTip (c c' : BlockContents) : Prop where
  block : c'.block = Function.update c.block c.height none
  emptied : c.base = c.height → c'.base = 0 ∧ c'.height = 0
  lowered : c.base ≠ c.height → c'.base = c.base ∧ c'.height.toInt = c.height.toInt - 1

def ofRun (run : List BlockMeta) : BlockContents := ⟨Run.base run, Run.tip run, Run.at? run⟩

variable {b : BlockMeta} {run : List BlockMeta} {c c' : BlockContents}

theorem sound_ofRun (h : IsRun run) (hf : ∀ b ∈ run, b.Fits) : (ofRun run).Sound := by
  have hown : ∀ i a, (ofRun run).block i = some a → a.StandsAt i := by
    intro i a ha
    obtain ⟨hmem, rfl⟩ := h.at?_eq_some.mp ha
    exact ⟨rfl, h.one_le a hmem, hf a hmem⟩
  refine ⟨?_, hown⟩
  cases h with
  | empty => exact .inl ⟨rfl, rfl⟩
  | first h => exact .inr ⟨h, Int.le_refl _⟩
  | next hr hb =>
    have hrun := IsRun.next hr hb
    exact .inr ⟨hrun.one_le_base, Int.le_of_lt hrun.base_lt_tip⟩

theorem losesTip_ofRun (h : IsRun (b :: run)) : (ofRun (b :: run)).LosesTip (ofRun run) := by
  refine ⟨?_, fun hends => ?_, fun hends => ?_⟩
  · funext i
    by_cases hi : i = b.height
    · have hnone : Run.at? run i = none := by
        cases ha : Run.at? run i with
        | none => rfl
        | some a =>
          obtain ⟨hmem, hai⟩ := h.tail.at?_eq_some.mp ha
          have hlt := h.lt_head a hmem
          rw [hai, hi] at hlt
          omega
      change Run.at? run i = Function.update (Run.at? (b :: run)) b.height none i
      rw [hnone, hi, Function.update_self]
    · change Run.at? run i = Function.update (Run.at? (b :: run)) b.height none i
      rw [Function.update_of_ne hi, Run.at?, Run.at?, List.find?_cons_of_neg]
      simpa using fun he => hi he.symm
  · cases h with
    | first => exact ⟨rfl, rfl⟩
    | next hr hb =>
      have hlt := (IsRun.next hr hb).base_lt_tip
      have hbase : (Run.base _).toInt = _ := congrArg Int64.toInt hends
      change _ = b.height.toInt at hbase
      omega
  · cases h with
    | first => exact absurd rfl hends
    | next hr hb =>
      refine ⟨(Run.base_cons_cons _ _ _).symm, ?_⟩
      change _ = b.height.toInt - 1
      rw [hb]
      exact (Int.add_sub_cancel _ 1).symm

end BlockContents

structure MemoryBlockStore.Keeps (m : MemoryBlockStore) (c : BlockContents) : Prop where
  base : m.base = c.base
  height : m.height = c.height
  block : Tabulates id id m.metas c.block
  accepts : m.refusesDeletes = false
  sound : c.Sound

/-- A block store of either kind and what it keeps. -/
inductive KeepsBlocks : AnyBlockStore → BlockContents → Prop where
  | memory {m : MemoryBlockStore} {c : BlockContents} (h : m.Keeps c) : KeepsBlocks (.inl m) c
  | disk {d : DiskBlockStore} {run : List BlockMeta} (h : HoldsRun (.inr d) run) :
    KeepsBlocks (.inr d) (.ofRun run)

/-- Blocks stand at their own heights after one place has changed. -/
theorem BlockContents.Sound.update {c : BlockContents} (hc : c.Sound) (h : Height)
    {o : Option BlockMeta} (ho : ∀ b, o = some b → b.StandsAt h) :
    ∀ i b, Function.update c.block h o i = some b → b.StandsAt i :=
  (Function.forall_update_iff c.block fun i o => ∀ b, o = some b → b.StandsAt i).mpr
    ⟨ho, fun i _ => hc.own i⟩

namespace MemoryBlockStore

variable {m m' : MemoryBlockStore} {c : BlockContents} {b : BlockMeta}

theorem Keeps.erase (k : m.Keeps c) (h : Height) :
    Tabulates id id (m.metas.erase h) (Function.update c.block h none) :=
  k.block.erase Function.injective_id h

theorem Keeps.deleteLatest (k : m.Keeps c) (hne : c.height ≠ 0) :
    ∃ m' c', m.deleteLatest = .ok m' ∧ m'.Keeps c' ∧ c.LosesTip c' := by
  have hends := k.sound.ends.resolve_left fun h => hne h.2
  have hblock := k.erase c.height
  have hown := k.sound.update c.height (o := none) fun _ h => (by cases h)
  unfold MemoryBlockStore.deleteLatest
  rw [if_neg (by rw [k.accepts]; decide), k.height, k.base, if_neg hne]
  by_cases hb : c.height = c.base
  · rw [if_pos hb]
    exact ⟨_, ⟨0, 0, Function.update c.block c.height none⟩, rfl,
      ⟨rfl, rfl, hblock, k.accepts, .inl ⟨rfl, rfl⟩, hown⟩, rfl, fun _ => ⟨rfl, rfl⟩,
      fun h => absurd hb.symm h⟩
  · have hlt : c.base.toInt ≠ c.height.toInt := fun h => hb (Int64.toInt_inj.mp h).symm
    have hmax := Int64.toInt_lt c.height
    obtain ⟨below, hbelow⟩ := Height.exists_toInt_eq (i := c.height.toInt - 1) (by omega) (by omega)
    have hminus : c.height.minus 1 = .ok below := Height.minus_eq_ok.mpr hbelow
    have hle : c.base.toInt ≤ below.toInt := by omega
    rw [if_neg hb, hminus]
    exact ⟨_, ⟨c.base, below, Function.update c.block c.height none⟩, rfl,
      ⟨rfl, rfl, hblock, k.accepts, .inr ⟨hends.1, hle⟩, hown⟩, rfl,
      fun h => absurd h.symm hb, fun _ => ⟨rfl, hbelow⟩⟩

theorem Keeps.append (k : m.Keeps c) (hb : 1 ≤ b.height.toInt) (hf : b.Fits)
    (ha : m.append b = .ok m') :
    ∃ c', m'.Keeps c' := by
  have hblock := k.block.insert Function.injective_id b.height b
  have hown := k.sound.update b.height (o := some b) fun a h => (by cases h; exact ⟨rfl, hb, hf⟩)
  unfold MemoryBlockStore.append at ha
  rw [k.height] at ha
  split at ha
  · cases ha
    exact ⟨⟨b.height, b.height, Function.update c.block b.height (some b)⟩, rfl, rfl, hblock,
      k.accepts, .inr ⟨hb, Int.le_refl _⟩, hown⟩
  · rename_i hne
    split at ha
    · rename_i hsucc
      cases ha
      have hends := k.sound.ends.resolve_left fun h => hne h.2
      have hs := Height.succ?_eq_some.mp hsucc
      have hle : c.base.toInt ≤ b.height.toInt := by omega
      exact ⟨⟨c.base, b.height, Function.update c.block b.height (some b)⟩, k.base, rfl, hblock,
        k.accepts, .inr ⟨hends.1, hle⟩, hown⟩
    · cases ha

theorem Keeps.forget (k : m.Keeps c) (h : Height) : ∃ c', (m.forget h).Keeps c' :=
  ⟨⟨c.base, c.height, Function.update c.block h none⟩, k.base, k.height, k.erase h, k.accepts,
    k.sound.ends, k.sound.update h fun _ h => (by cases h)⟩

end MemoryBlockStore

/-- The later store is the earlier one without the block at its tip: all other reads are the same,
and the tip is one lower unless the store is left empty. -/
structure RemovesTip (s : AnyBlockStore) (tip : Height) (s' : AnyBlockStore) : Prop where
  loadMeta : ∀ h, BlockStore.loadMeta s' h = if h = tip then .ok none else BlockStore.loadMeta s h
  emptied : BlockStore.base s = .ok tip →
    BlockStore.base s' = .ok 0 ∧ BlockStore.height s' = .ok 0
  lowered : BlockStore.base s ≠ .ok tip → BlockStore.base s' = BlockStore.base s ∧
    ∃ below : Height, BlockStore.height s' = .ok below ∧ below.toInt = tip.toInt - 1

namespace KeepsBlocks

variable {s s' : AnyBlockStore} {c : BlockContents}

theorem sound (k : KeepsBlocks s c) : c.Sound := by
  cases k with
  | memory h => exact h.sound
  | disk h => exact BlockContents.sound_ofRun h.isRun h.fits

theorem height_eq (k : KeepsBlocks s c) : BlockStore.height s = .ok c.height := by
  cases k with
  | memory h => exact congrArg Except.ok h.height
  | disk h => exact h.height_eq

theorem base_eq (k : KeepsBlocks s c) : BlockStore.base s = .ok c.base := by
  cases k with
  | memory h => exact congrArg Except.ok h.base
  | disk h => exact h.base_eq

theorem files (k : KeepsBlocks s c) : FilesBlocks s c.block := by
  have hown := k.sound.own
  refine ⟨?_, fun h b hb => (hown h b hb).height_eq, fun h b hb => (hown h b hb).fits⟩
  cases k with
  | memory k => exact k.block
  | disk k => exact Filed.tabulates k.holds k.isRun Height.toBytes_injective

theorem deleteLatest (k : KeepsBlocks s c) (hne : c.height ≠ 0) :
    ∃ s' c', BlockStore.deleteLatest s = .ok s' ∧ KeepsBlocks s' c' ∧ c.LosesTip c' := by
  cases k with
  | memory k =>
    obtain ⟨m', c', hm, hk, hl⟩ := k.deleteLatest hne
    exact ⟨.inl m', c', map_eq_ok.mpr ⟨m', hm, rfl⟩, .memory hk, hl⟩
  | @disk d run k =>
    cases run with
    | nil => exact absurd rfl hne
    | cons b run =>
      obtain ⟨s', hs, hk⟩ := k.deleteLatest
      cases s' with
      | inl m =>
        obtain ⟨d', -, hd⟩ := map_eq_ok.mp hs
        cases hd
      | inr d' => exact ⟨.inr d', .ofRun run, hs, .disk hk, BlockContents.losesTip_ofRun k.isRun⟩

/-- The block at a tip above zero can be deleted, and nothing else is lost with it. -/
theorem exists_deleteLatest (k : KeepsBlocks s c) {tip : Height}
    (htip : BlockStore.height s = .ok tip) (hpos : 1 ≤ tip.toInt) :
    ∃ s' c', BlockStore.deleteLatest s = .ok s' ∧ KeepsBlocks s' c' ∧ RemovesTip s tip s' := by
  have hc : c.height = tip := by rwa [k.height_eq, Except.ok.injEq] at htip
  subst hc
  have hne : c.height ≠ 0 := fun h => by
    rw [h] at hpos
    exact absurd hpos (by decide)
  obtain ⟨s', c', hs, hk, hl⟩ := k.deleteLatest hne
  have hbase : BlockStore.base s = .ok c.height ↔ c.base = c.height := by
    rw [k.base_eq, Except.ok.injEq]
  refine ⟨s', c', hs, hk, fun h => ?_, fun hb => ?_, fun hb => ?_⟩
  · rw [hk.files.loadMeta_eq, k.files.loadMeta_eq, hl.block]
    by_cases hh : h = c.height
    · rw [hh, Function.update_self, if_pos rfl]
    · rw [Function.update_of_ne hh, if_neg hh]
  · obtain ⟨hb', hh'⟩ := hl.emptied (hbase.mp hb)
    exact ⟨by rw [hk.base_eq, hb'], by rw [hk.height_eq, hh']⟩
  · obtain ⟨hb', hh'⟩ := hl.lowered fun he => hb (hbase.mpr he)
    exact ⟨by rw [hk.base_eq, k.base_eq, hb'], c'.height, hk.height_eq, hh'⟩

theorem deleteLatest_empty (k : KeepsBlocks s c) (h : c.height = 0) :
    BlockStore.deleteLatest s = .error (.error .empty) := by
  cases k with
  | @memory m c k =>
    refine map_eq_error.mpr ?_
    change m.deleteLatest = _
    unfold MemoryBlockStore.deleteLatest
    rw [if_neg (by rw [k.accepts]; decide), k.height, if_pos h]
  | @disk d run k =>
    cases run with
    | nil => exact k.deleteLatest_empty
    | cons b run => exact absurd h k.isRun.tip_ne_zero

/-- A deletion that succeeds removes the block at a tip above zero. -/
theorem removesTip {tip : Height} (k : KeepsBlocks s c) (htip : BlockStore.height s = .ok tip)
    (h : BlockStore.deleteLatest s = .ok s') : 1 ≤ tip.toInt ∧ RemovesTip s tip s' := by
  have hc : c.height = tip := by rwa [k.height_eq, Except.ok.injEq] at htip
  have hpos : 1 ≤ tip.toInt := by
    rcases k.sound.ends with ⟨-, hzero⟩ | hends
    · cases (k.deleteLatest_empty hzero).symm.trans h
    · rw [← hc]
      omega
  obtain ⟨t, -, ht, -, hr⟩ := k.exists_deleteLatest htip hpos
  cases ht.symm.trans h
  exact ⟨hpos, hr⟩

theorem append {b : BlockMeta} (k : KeepsBlocks s c) (hb : 1 ≤ b.height.toInt) (hf : b.Fits)
    (ha : BlockLog.append s b = .ok s') : ∃ c', KeepsBlocks s' c' := by
  cases k with
  | memory k =>
    obtain ⟨m', hm, rfl⟩ := map_eq_ok.mp ha
    obtain ⟨c', hk⟩ := k.append hb hf (mapError_eq_ok.mp hm)
    exact ⟨c', .memory hk⟩
  | @disk d run k =>
    have hk := k.append hb hf ha
    obtain ⟨d', -, rfl⟩ := map_eq_ok.mp ha
    exact ⟨.ofRun (b :: run), .disk hk⟩

end KeepsBlocks
end ChainRollback
