import ChainRollback.Proofs.Store.Built

/-! # Blocks between the ends

A store built by its own operations holds no block below its base and none above its height. So a
store whose base is its height holds one block at most, and is empty without it.
-/
namespace ChainRollback
open Std

namespace BlockContents

variable {c c' : BlockContents} {run : List BlockMeta}

def BetweenEnds (c : BlockContents) : Prop :=
  ∀ h b, c.block h = some b → c.base.toInt ≤ h.toInt ∧ h.toInt ≤ c.height.toInt

theorem betweenEnds_ofRun (h : IsRun run) : (ofRun run).BetweenEnds := by
  intro i b hb
  have hmem := h.at?_eq_some.mp hb
  exact (h.exists_mem_iff.mp ⟨b, hmem⟩).2

/-- The block at the tip is the only one that reaches it. -/
theorem LosesTip.betweenEnds (hl : c.LosesTip c') (hc : c.BetweenEnds) : c'.BetweenEnds := by
  intro i b hb
  rw [hl.block] at hb
  have hi : i ≠ c.height := by
    intro he
    rw [he, Function.update_self] at hb
    cases hb
  rw [Function.update_of_ne hi] at hb
  obtain ⟨hlow, hhigh⟩ := hc i b hb
  have hne : i.toInt ≠ c.height.toInt := fun he => hi (Int64.toInt_inj.mp he)
  by_cases hends : c.base = c.height
  · rw [hends] at hlow
    omega
  · obtain ⟨hbase, hheight⟩ := hl.lowered hends
    rw [hbase, hheight]
    omega

end BlockContents

namespace MemoryBlockStore

variable {m m' : MemoryBlockStore} {c c' : BlockContents} {b : BlockMeta}

theorem Keeps.betweenEnds_append (k : m.Keeps c) (hc : c.BetweenEnds) (h : m.append b = .ok m')
    (k' : m'.Keeps c') : c'.BetweenEnds := by
  intro i a ha
  rw [← k'.block.find?_id, metas_of_append h, OrderedMap.find?_insert] at ha
  rw [← k'.base, ← k'.height]
  have hends := k.sound.ends
  rw [← k.base, ← k.height] at hends
  have hold : m.metas.find? i = some a → 1 ≤ i.toInt ∧ m.base.toInt ≤ i.toInt ∧
      i.toInt ≤ m.height.toInt := by
    intro hf
    rw [k.block.find?_id] at hf
    have hbetween := hc i a hf
    rw [← k.base, ← k.height] at hbetween
    exact ⟨(k.sound.own i a hf).one_le, hbetween⟩
  unfold MemoryBlockStore.append at h
  split at h
  · rename_i hzero
    cases h
    split at ha
    · rename_i hi
      rw [LawfulEqCmp.eq_of_compare hi]
      exact ⟨Int.le_refl _, Int.le_refl _⟩
    · -- An empty store held no block before.
      obtain ⟨hone, -, hhigh⟩ := hold ha
      rw [hzero] at hhigh
      change i.toInt ≤ 0 at hhigh
      omega
  · rename_i hne
    split at h
    · rename_i hsucc
      cases h
      have hnext := Height.succ?_eq_some.mp hsucc
      have hends := hends.resolve_left fun he => hne he.2
      split at ha
      · rename_i hi
        rw [LawfulEqCmp.eq_of_compare hi]
        dsimp only
        omega
      · obtain ⟨-, hlow, hhigh⟩ := hold ha
        dsimp only
        omega
    · cases h

theorem Keeps.betweenEnds_forget {h : Height} (k : m.Keeps c) (hc : c.BetweenEnds)
    (k' : (m.forget h).Keeps c') : c'.BetweenEnds := by
  intro i a ha
  have hbase : c'.base = c.base := k'.base.symm.trans k.base
  have hheight : c'.height = c.height := k'.height.symm.trans k.height
  rw [← k'.block.find?_id] at ha
  change (m.metas.erase h).find? i = some a at ha
  rw [OrderedMap.find?_erase] at ha
  split at ha
  · cases ha
  · rw [k.block.find?_id] at ha
    rw [hbase, hheight]
    exact hc i a ha

end MemoryBlockStore

/-- A store whose blocks have the heights of a chain holds them between its ends. -/
theorem BuiltBlocks.betweenEnds {s : AnyBlockStore} (h : BuiltBlocks Height.IsPositive s) :
    ∃ c, KeepsBlocks s c ∧ c.BetweenEnds := by
  have hdisk : ∀ {d c}, KeepsBlocks (.inr d) c → c.BetweenEnds := by
    intro d c k
    cases k with
    | disk hk => exact BlockContents.betweenEnds_ofRun hk.isRun
  induction h with
  | memory =>
    obtain ⟨c, k⟩ := BuiltBlocks.keeps .memory
    refine ⟨c, k, ?_⟩
    cases k with
    | memory k =>
      intro i b hb
      rw [← k.block.find?_id] at hb
      cases hb
  | disk h =>
    obtain ⟨c, k⟩ := (BuiltBlocks.disk h).keeps
    exact ⟨c, k, hdisk k⟩
  | @append s s' b _ hb hf h ih =>
    obtain ⟨c, k, hc⟩ := ih
    obtain ⟨c', k'⟩ := k.append hb hf h
    refine ⟨c', k', ?_⟩
    cases k with
    | disk k =>
      obtain ⟨d', -, rfl⟩ := map_eq_ok.mp h
      exact hdisk k'
    | memory k =>
      obtain ⟨m', hm, rfl⟩ := map_eq_ok.mp h
      cases k' with
      | memory k' => exact k.betweenEnds_append hc (mapError_eq_ok.mp hm) k'
  | @deleteLatest s s' _ h ih =>
    obtain ⟨c, k, hc⟩ := ih
    by_cases hzero : c.height = 0
    · rw [k.deleteLatest_empty hzero] at h
      cases h
    · obtain ⟨t, c', ht, k', hl⟩ := k.deleteLatest hzero
      rw [ht] at h
      cases h
      exact ⟨c', k', hl.betweenEnds hc⟩
  | forget _ h ih =>
    obtain ⟨c, k, hc⟩ := ih
    cases k with
    | memory k =>
      obtain ⟨c', k'⟩ := k.forget h
      exact ⟨c', .memory k', k.betweenEnds_forget hc k'⟩
  | reopen hd h =>
    obtain ⟨c, k⟩ := (BuiltBlocks.reopen hd h).keeps
    exact ⟨c, k, hdisk k⟩

theorem BuiltBlocks.base_ne_of_held {s : AnyBlockStore} {h tip : Height} {b : BlockMeta}
    (hs : BuiltBlocks Height.IsPositive s) (hheld : BlockStore.loadMeta s h = .ok (some b))
    (hlt : h.toInt < tip.toInt) :
    BlockStore.base s ≠ .ok tip := by
  obtain ⟨c, k, hc⟩ := hs.betweenEnds
  rw [k.files.loadMeta_eq, Except.ok.injEq] at hheld
  have hlow := (hc h b hheld).1
  intro hbase
  rw [k.base_eq, Except.ok.injEq] at hbase
  rw [hbase] at hlow
  omega

end ChainRollback
