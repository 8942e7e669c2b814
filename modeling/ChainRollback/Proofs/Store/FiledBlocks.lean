import ChainRollback.Proofs.Store.Run

/-! # Blocks under their own heights

The records of a block store are a function from heights to blocks, and each block stands under its
own height, whatever heights the blocks have. A deletion moves the tip of a store that holds any
other block.
-/
namespace ChainRollback
open Std

namespace MemoryBlockStore

variable {m m' : MemoryBlockStore}

theorem metas_of_append {b : BlockMeta} (h : m.append b = .ok m') :
    m'.metas = m.metas.insert b.height b := by
  unfold append at h
  split at h
  · cases h
    rfl
  · split at h
    · cases h
      rfl
    · cases h

theorem deleteLatest_eq_ok (h : m.deleteLatest = .ok m') :
    m.height ≠ 0 ∧ m'.metas = m.metas.erase m.height ∧ m'.height ≠ m.height := by
  unfold deleteLatest at h
  split at h
  · cases h
  split at h
  · cases h
  rename_i hne
  dsimp only at h
  split at h
  · cases h
    exact ⟨hne, rfl, fun he => hne he.symm⟩
  · simp only [bind_eq_ok, mapError_eq_ok, pure_eq_ok] at h
    obtain ⟨below, hbelow, rfl⟩ := h
    refine ⟨hne, rfl, fun he => ?_⟩
    have hminus : below.toInt = m.height.toInt - 1 := Height.minus_eq_ok.mp hbelow
    have hsame := congrArg Int64.toInt he
    dsimp only at hsame
    omega

end MemoryBlockStore

namespace DiskBlockStore

variable {d d' : DiskBlockStore}

theorem eq_put_of_append {b : BlockMeta} (h : d.append b = .ok d') : d' = d.put b := by
  unfold append at h
  split at h
  · cases h
    rfl
  · simp only [bind_eq_ok, mapError_eq_ok] at h
    obtain ⟨tip, -, next, -, h⟩ := h
    split at h
    · cases h
      rfl
    · cases h

theorem height_eq_ok {tip : Height} : d.height = .ok tip ↔
    d.metas.last? = none ∧ tip = 0 ∨ ∃ record, d.metas.last? = some (tip.toBytes, record) := by
  unfold height
  cases d.metas.last? with
  | none => simp [edge, eq_comm]
  | some binding =>
    obtain ⟨key, record⟩ := binding
    simp [edge, Height.ofKey_eq_ok]

/-- A deletion removes the last binding, whose key is that of a height, and touches nothing else. -/
theorem deleteLatest_eq_ok_iff : d.deleteLatest = .ok d' ↔
    ∃ (tip : Height) (record : Bytes), d.metas.last? = some (tip.toBytes, record) ∧
      d' = ⟨d.env.remove .blockMetas tip.toBytes⟩ := by
  unfold deleteLatest
  cases d.metas.last? with
  | none => simp
  | some binding =>
    obtain ⟨key, record⟩ := binding
    simp only [bind_eq_ok, mapError_eq_ok, Height.ofKey_eq_ok, pure_eq_ok, Option.some.injEq,
      Prod.mk.injEq]
    constructor
    · rintro ⟨tip, rfl, rfl⟩
      exact ⟨tip, record, ⟨rfl, rfl⟩, rfl⟩
    · rintro ⟨tip, _, ⟨rfl, rfl⟩, rfl⟩
      exact ⟨tip, rfl, rfl⟩

theorem deleteLatest_eq_ok (h : d.deleteLatest = .ok d') :
    ∃ tip, d.height = .ok tip ∧ d'.metas = d.metas.erase tip.toBytes := by
  obtain ⟨tip, record, hlast, rfl⟩ := deleteLatest_eq_ok_iff.mp h
  refine ⟨tip, height_eq_ok.mpr (.inr ⟨record, hlast⟩), ?_⟩
  rw [metas, Environment.remove, Environment.table_set_self]
  rfl

end DiskBlockStore

/-- The tip of a block store is another one after a deletion if any other block is held. -/
theorem height_ne_of_deleteLatest {s s' : AnyBlockStore} {tip other : Height} {b : BlockMeta}
    (htip : BlockStore.height s = .ok tip) (hd : BlockStore.deleteLatest s = .ok s')
    (hb : BlockStore.loadMeta s other = .ok (some b)) (hne : other ≠ tip) :
    BlockStore.height s' ≠ .ok tip := by
  cases s with
  | inl m =>
    obtain ⟨m', hm, rfl⟩ := map_eq_ok.mp hd
    cases htip
    intro h
    exact (MemoryBlockStore.deleteLatest_eq_ok hm).2.2 (Except.ok.inj h)
  | inr d =>
    obtain ⟨d', hdelete, rfl⟩ := map_eq_ok.mp hd
    obtain ⟨tip', htip', hmetas⟩ := DiskBlockStore.deleteLatest_eq_ok hdelete
    cases htip'.symm.trans htip
    have hheld : ∃ record, d.metas.find? other.toBytes = some record := by
      cases hrecord : d.metas.find? other.toBytes with
      | none =>
        simp only [BlockStore.loadMeta, Table.recordAt, hrecord] at hb
        cases hb
      | some record => exact ⟨record, rfl⟩
    obtain ⟨record, hrecord⟩ := hheld
    have hkey : compare other.toBytes tip.toBytes ≠ .eq := fun he =>
      hne (Height.toBytes_injective (LawfulEqCmp.eq_of_compare he))
    have hkept : d'.metas.find? other.toBytes = some record := by
      rw [hmetas, OrderedMap.find?_erase, if_neg hkey, hrecord]
    obtain ⟨key, last, hlast⟩ := OrderedMap.exists_last? hkept
    intro h
    change DiskBlockStore.edge d'.metas.last? = _ at h
    rw [hlast] at h
    -- The last key of what is left would be the key that was erased.
    obtain rfl := Height.ofKey_eq_ok.mp h
    have hfound := OrderedMap.find?_of_last? hlast
    rw [hmetas, OrderedMap.find?_erase, if_pos ReflCmp.compare_self] at hfound
    cases hfound

/-- Each block that a store can load is filed under its own height and fits its record. -/
structure BlocksAtOwnHeights (s : AnyBlockStore) : Prop where
  height_eq : ∀ h b, BlockStore.loadMeta s h = .ok (some b) → b.height = h
  fits : ∀ h b, BlockStore.loadMeta s h = .ok (some b) → b.Fits

/-- A block store of either kind and the function that its records are. -/
structure FilesBlocks (s : AnyBlockStore) (f : Height → Option BlockMeta) : Prop where
  table : s.elim (fun m => Tabulates id id m.metas f)
    fun d => Tabulates Height.toBytes BlockMeta.codec.encode d.metas f
  height_eq : ∀ h b, f h = some b → b.height = h
  fits : ∀ h b, f h = some b → b.Fits

namespace FilesBlocks

variable {s s' : AnyBlockStore} {f : Height → Option BlockMeta} {b : BlockMeta}

theorem loadMeta_eq (k : FilesBlocks s f) (h : Height) : BlockStore.loadMeta s h = .ok (f h) := by
  cases s with
  | inl m =>
    have htable : Tabulates id id m.metas f := k.table
    exact congrArg Except.ok (htable.find?_id h)
  | inr d =>
    have htable : Tabulates Height.toBytes BlockMeta.codec.encode d.metas f := k.table
    exact htable.recordAt_eq BlockMeta.codec_exact k.fits h

theorem atOwnHeights (k : FilesBlocks s f) : BlocksAtOwnHeights s := by
  constructor
  · intro h b hb
    rw [k.loadMeta_eq, Except.ok.injEq] at hb
    exact k.height_eq h b hb
  · intro h b hb
    rw [k.loadMeta_eq, Except.ok.injEq] at hb
    exact k.fits h b hb

theorem empty_memory : FilesBlocks (.inl {}) fun _ => none :=
  ⟨.empty, fun _ _ h => (by cases h), fun _ _ h => (by cases h)⟩

theorem empty_disk : FilesBlocks (.inr ⟨.empty⟩) fun _ => none :=
  ⟨.empty, fun _ _ h => (by cases h), fun _ _ h => (by cases h)⟩

theorem update (k : FilesBlocks s f) {h : Height} {o : Option BlockMeta}
    (ho : ∀ b, o = some b → b.height = h ∧ b.Fits)
    (table : s'.elim (fun m => Tabulates id id m.metas (Function.update f h o))
      fun d => Tabulates Height.toBytes BlockMeta.codec.encode d.metas (Function.update f h o)) :
    FilesBlocks s' (Function.update f h o) := by
  refine ⟨table, ?_, ?_⟩
  · exact (Function.forall_update_iff f fun i o => ∀ b, o = some b → b.height = i).mpr
      ⟨fun b hb => (ho b hb).1, fun i _ => k.height_eq i⟩
  · exact (Function.forall_update_iff f fun i o => ∀ b, o = some b → b.Fits).mpr
      ⟨fun b hb => (ho b hb).2, fun i _ => k.fits i⟩

theorem append (k : FilesBlocks s f) (hf : b.Fits) (ha : BlockLog.append s b = .ok s') :
    FilesBlocks s' (Function.update f b.height (some b)) := by
  have hb : ∀ a, some b = some a → a.height = b.height ∧ a.Fits := fun a ha => by
    cases ha
    exact ⟨rfl, hf⟩
  cases s with
  | inl m =>
    obtain ⟨m', hm, rfl⟩ := map_eq_ok.mp ha
    have htable : Tabulates id id m.metas f := k.table
    refine k.update hb ?_
    change Tabulates id id m'.metas _
    rw [MemoryBlockStore.metas_of_append (mapError_eq_ok.mp hm)]
    exact htable.insert Function.injective_id b.height b
  | inr d =>
    obtain ⟨d', hd, rfl⟩ := map_eq_ok.mp ha
    have htable : Tabulates Height.toBytes BlockMeta.codec.encode d.metas f := k.table
    refine k.update hb ?_
    rw [DiskBlockStore.eq_put_of_append hd]
    change Tabulates _ _ ((d.env.put .blockMetas _ _).table .blockMetas) _
    rw [Environment.put, Environment.table_set_self]
    exact htable.insert Height.toBytes_injective b.height b

theorem deleteLatest (k : FilesBlocks s f) (hd : BlockStore.deleteLatest s = .ok s') :
    ∃ h, FilesBlocks s' (Function.update f h none) := by
  cases s with
  | inl m =>
    obtain ⟨m', hm, rfl⟩ := map_eq_ok.mp hd
    have htable : Tabulates id id m.metas f := k.table
    refine ⟨m.height, k.update (fun _ h => (by cases h)) ?_⟩
    change Tabulates id id m'.metas _
    rw [(MemoryBlockStore.deleteLatest_eq_ok hm).2.1]
    exact htable.erase Function.injective_id m.height
  | inr d =>
    obtain ⟨d', hdelete, rfl⟩ := map_eq_ok.mp hd
    obtain ⟨tip, -, hmetas⟩ := DiskBlockStore.deleteLatest_eq_ok hdelete
    have htable : Tabulates Height.toBytes BlockMeta.codec.encode d.metas f := k.table
    refine ⟨tip, k.update (fun _ h => (by cases h)) ?_⟩
    change Tabulates _ _ d'.metas _
    rw [hmetas]
    exact htable.erase Height.toBytes_injective tip

theorem forget {m : MemoryBlockStore} (k : FilesBlocks (.inl m) f) (h : Height) :
    FilesBlocks (.inl (m.forget h)) (Function.update f h none) := by
  have htable : Tabulates id id m.metas f := k.table
  exact k.update (fun _ h => (by cases h)) (htable.erase Function.injective_id h)

end FilesBlocks
end ChainRollback
