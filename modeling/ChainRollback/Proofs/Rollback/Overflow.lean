import ChainRollback.Proofs.Rollback.Rebuilt

/-! # The one overflow of a rollback

Heights may be any 64-bit numbers here, those of blocks as well. Classification, the height below,
the clamping of changes and the new tip of the block store never leave the range. Saving the rebuilt
state does, and only from aligned stores at the greatest height: its records are for the two heights
above it.
-/
namespace ChainRollback

theorem Halt.map_eq_overflow {ε ε' : Type} {f : ε → ε'} {e : Halt ε} {o : Overflow} :
    e.map f = .overflow o ↔ e = .overflow o := by
  cases e with
  | error e => simp [Halt.map]
  | overflow o' => simp [Halt.map]

namespace MemoryBlockStore

/-- The block stores in memory that their operations lead to, whatever the heights of the blocks. -/
inductive Reached : MemoryBlockStore → Prop where
  | empty : Reached {}
  | append {m m' : MemoryBlockStore} {b : BlockMeta} (hm : Reached m) (h : m.append b = .ok m') :
    Reached m'
  | deleteLatest {m m' : MemoryBlockStore} (hm : Reached m) (h : m.deleteLatest = .ok m') :
    Reached m'
  | forget {m : MemoryBlockStore} (hm : Reached m) (h : Height) : Reached (m.forget h)
  | refuseDeletes {m : MemoryBlockStore} (hm : Reached m) :
    Reached { m with refusesDeletes := true }

/-- What every operation preserves: the ends are in order, and each block is held under its own
height. -/
structure InOrder (m : MemoryBlockStore) : Prop where
  base_le : m.base.toInt ≤ m.height.toInt
  height_eq : ∀ h b, m.metas.find? h = some b → b.height = h

variable {m m' : MemoryBlockStore}

theorem InOrder.append {b : BlockMeta} (hm : m.InOrder) (h : m.append b = .ok m') :
    m'.InOrder := by
  constructor
  · unfold MemoryBlockStore.append at h
    split at h
    · cases h
      exact Int.le_refl _
    · split at h
      · rename_i hnext
        cases h
        have hheight := Height.succ?_eq_some.mp hnext
        have hbase := hm.base_le
        change m.base.toInt ≤ b.height.toInt
        omega
      · cases h
  · intro height a ha
    rw [metas_of_append h, OrderedMap.find?_insert] at ha
    split at ha
    · rename_i hsame
      cases ha
      exact (Std.LawfulEqCmp.eq_of_compare hsame).symm
    · exact hm.height_eq height a ha

theorem InOrder.erase (hm : m.InOrder) (h : Height) {height : Height} {b : BlockMeta}
    (hb : (m.metas.erase h).find? height = some b) : b.height = height := by
  rw [OrderedMap.find?_erase] at hb
  split at hb
  · cases hb
  · exact hm.height_eq height b hb

/-- A tip that is not the base has a height below it. -/
theorem InOrder.exists_below (hm : m.InOrder) (hne : m.height ≠ m.base) :
    ∃ below, m.height.minus 1 = .ok below ∧ m.base.toInt ≤ below.toInt := by
  have hbase := hm.base_le
  have hlow := Int64.le_toInt m.base
  have hlt := Int64.toInt_lt m.height
  have hne' : m.height.toInt ≠ m.base.toInt := fun he => hne (Int64.toInt_inj.mp he)
  obtain ⟨below, hbelow⟩ := Height.exists_toInt_eq (i := m.height.toInt - 1) (by omega) (by omega)
  exact ⟨below, Height.minus_eq_ok.mpr hbelow, by omega⟩

/-- A deletion is refused, finds the store empty or succeeds: the new tip is always a height. -/
theorem InOrder.deleteLatest_cases (hm : m.InOrder) :
    (∃ e, m.deleteLatest = .error (.error e)) ∨ ∃ m', m.deleteLatest = .ok m' ∧ m'.InOrder := by
  unfold MemoryBlockStore.deleteLatest
  split
  · exact .inl ⟨_, rfl⟩
  split
  · exact .inl ⟨_, rfl⟩
  dsimp only
  split
  · exact .inr ⟨_, rfl, Int.le_refl _, fun _ _ => hm.erase m.height⟩
  · rename_i hne
    obtain ⟨below, hbelow, hle⟩ := hm.exists_below hne
    rw [hbelow]
    exact .inr ⟨_, rfl, hle, fun _ _ => hm.erase m.height⟩

theorem Reached.inOrder (h : m.Reached) : m.InOrder := by
  induction h with
  | empty => exact ⟨Int.le_refl _, fun _ _ h => by cases h⟩
  | append _ h ih => exact ih.append h
  | deleteLatest _ h ih =>
    rcases ih.deleteLatest_cases with ⟨e, he⟩ | ⟨m', hm', hinOrder⟩
    · cases h.symm.trans he
    · cases h.symm.trans hm'
      exact hinOrder
  | forget _ h ih => exact ⟨ih.base_le, fun _ _ hb => ih.erase h hb⟩
  | refuseDeletes _ ih => exact ⟨ih.base_le, ih.height_eq⟩

end MemoryBlockStore

/-- A save overflows exactly if it is accepted and the state leaves no room for its records. -/
theorem MemoryStateStore.save_eq_overflow {m : MemoryStateStore} {s : State} {o : Overflow} :
    m.save s = .error (.overflow o) ↔ o = .add ∧ m.refusesSaves = false ∧ ¬s.HasRoom := by
  cases hr : m.refusesSaves with
  | true => simp [save, hr]
  | false =>
    by_cases hroom : s.HasRoom
    · obtain ⟨m', hm'⟩ := exists_save hr hroom
      simp [hm', hroom]
    · simp [save_eq_error hr hroom, hroom, eq_comm]

variable {κ : Type} [Checkpoint κ] {n : Stores MemoryStateStore MemoryBlockStore κ}

omit [Checkpoint κ] in
/-- The state rebuilt from aligned stores can be saved unless they are at the greatest height. -/
theorem AlignedAt.hasRoom_iff {i : RollbackInputs} (h : AlignedAt n.states n.blocks i)
    (hb : n.blocks.InOrder) (build : BuildVersion) :
    (reconstruct i build).HasRoom ↔ i.invalid.lastBlockHeight ≠ Int64.maxValue := by
  have hheight : (reconstruct i build).lastBlockHeight.toInt = _ :=
    h.rollbackBlock_height fun height b hb' => hb.height_eq height b (Except.ok.inj hb')
  have hmax : Int64.maxValue.toInt = 0x7fffffffffffffff := rfl
  have hlt := Int64.toInt_lt i.invalid.lastBlockHeight
  rw [State.HasRoom, hheight, ne_eq, ← Int64.toInt_inj, hmax]
  omega

/-- A rollback of stores in memory overflows exactly if they are aligned at the greatest height,
hold every input and accept saves, and it then overflows in an addition. -/
theorem rollback_overflows_iff (n : Stores MemoryStateStore MemoryBlockStore κ)
    (hb : n.blocks.Reached) (removeBlock : Bool) (build : BuildVersion) (o : Overflow) :
    (n.rollback removeBlock build).1 = .error (.overflow o) ↔
      o = .add ∧ n.states.refusesSaves = false ∧ ∃ i, AlignedAt n.states n.blocks i ∧
        i.removeBlock = removeBlock ∧ i.invalid.lastBlockHeight = Int64.maxValue := by
  have horder := hb.inOrder
  have hdelete : ∀ {cause : Halt StoreError}, BlockStore.deleteLatest n.blocks = .error cause →
      cause ≠ .overflow o := by
    rintro cause hd rfl
    rcases horder.deleteLatest_cases with ⟨e, he⟩ | ⟨m', hm', -⟩
    · cases hd.symm.trans he
    · cases hd.symm.trans hm'
  constructor
  · intro h
    rcases Stores.stopsWith_of_rollback (Prod.ext h rfl) with
      ⟨-, he, -⟩ | ⟨-, -, hd, he, -⟩ | ⟨hi, hr, hs, he, -⟩ | ⟨-, -, -, -, hd, he, -⟩ |
        ⟨-, -, -, -, -, -, he, -⟩
    · cases he
    · exact absurd (Halt.map_eq_overflow.mp he.symm) (hdelete hd)
    · obtain rfl := Halt.map_eq_overflow.mp he.symm
      obtain ⟨ho, haccepts, hroom⟩ := MemoryStateStore.save_eq_overflow.mp hs
      refine ⟨ho, haccepts, _, hi, hr, ?_⟩
      by_contra hne
      exact hroom ((hi.hasRoom_iff horder build).mpr hne)
    · exact absurd (Halt.map_eq_overflow.mp he.symm) (hdelete hd)
    · cases he
  · rintro ⟨rfl, haccepts, i, hi, hr, hmax⟩
    have hroom : ¬(reconstruct i build).HasRoom := by
      intro hroom
      exact (hi.hasRoom_iff horder build).mp hroom hmax
    have hsave : StateStore.save n.states (reconstruct i build) = .error (.overflow .add) :=
      MemoryStateStore.save_eq_overflow.mpr ⟨rfl, haccepts, hroom⟩
    have hwrite : n.performAll (Plan.aligned i build).writes = (.error (.overflow .add), n) := by
      unfold Plan.aligned
      exact Stores.performAll_cons_eq_error.mpr
        (.inl (Stores.perform_saveState_eq_error.mpr ⟨_, hsave, rfl, rfl⟩))
    exact congrArg Prod.fst (Stores.rollback_eq_error.mpr (.inr ⟨_, .aligned hi hr, hwrite⟩))

/-! An aligned node at the two greatest heights, kept in memory. -/

namespace GreatestBlocks

def below : Height := Int64.maxValue - 1

def state : State := { TwoBlocks.state with lastBlockHeight := Int64.maxValue }

def states : MemoryStateStore :=
  ((({} : MemoryStateStore).putValidators below TwoBlocks.set).putParams Int64.maxValue {}).putState
    state

def blocks : MemoryBlockStore where
  base := below
  height := Int64.maxValue
  metas := ((∅ : OrderedMap Height BlockMeta).insert below (TwoBlocks.block below)).insert
    Int64.maxValue (TwoBlocks.block Int64.maxValue)

def node : Stores MemoryStateStore MemoryBlockStore MemoryCheckpoint := ⟨states, blocks, {}⟩

theorem blocks_reached : blocks.Reached := by
  have hfirst : MemoryBlockStore.Reached _ := .append (b := TwoBlocks.block below) .empty rfl
  exact .append (b := TwoBlocks.block Int64.maxValue) hfirst rfl

def inputs : RollbackInputs :=
  ⟨state, TwoBlocks.block below, TwoBlocks.block Int64.maxValue, TwoBlocks.set, {}, true⟩

theorem alignedAt : AlignedAt node.states node.blocks inputs := by
  have hbelow : below.toInt = state.lastBlockHeight.toInt - 1 := by decide
  have hlatest : BlockStore.loadMeta node.blocks state.lastBlockHeight =
      .ok (some (TwoBlocks.block Int64.maxValue)) := rfl
  have hparams : StateStore.loadParams node.states state.lastBlockHeight = .ok {} := rfl
  refine ⟨rfl, rfl, below, hbelow, rfl, hlatest, rfl, ?_⟩
  simpa only [inputs] using hparams

end GreatestBlocks

theorem rollback_overflows_iff_of_greatest_blocks : GreatestBlocks.node.blocks.Reached ∧
    (GreatestBlocks.node.rollback true .current).1 = .error (.overflow .add) ∧
    GreatestBlocks.node.states.refusesSaves = false ∧
    ∃ i, AlignedAt GreatestBlocks.node.states GreatestBlocks.node.blocks i ∧
      i.removeBlock = true ∧ i.invalid.lastBlockHeight = Int64.maxValue := by
  have hcondition : GreatestBlocks.node.states.refusesSaves = false ∧
      ∃ i, AlignedAt GreatestBlocks.node.states GreatestBlocks.node.blocks i ∧
        i.removeBlock = true ∧ i.invalid.lastBlockHeight = Int64.maxValue :=
    ⟨rfl, GreatestBlocks.inputs, GreatestBlocks.alignedAt, rfl, rfl⟩
  exact ⟨GreatestBlocks.blocks_reached, (rollback_overflows_iff GreatestBlocks.node
    GreatestBlocks.blocks_reached true .current .add).mpr ⟨rfl, hcondition⟩, hcondition⟩

/-- So no run can be promised to end in an outcome or an error, with the block kept or removed. -/
theorem overflow_of_greatest_blocks : GreatestBlocks.node.blocks.Reached ∧
    (GreatestBlocks.node.rollback false .current).1 = .error (.overflow .add) ∧
    (GreatestBlocks.node.rollback true .current).1 = .error (.overflow .add) :=
  ⟨GreatestBlocks.blocks_reached, rfl, rfl⟩

end ChainRollback
