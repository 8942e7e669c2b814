import ChainRollback.Proofs.Chain.SyntheticStores
import ChainRollback.Proofs.Rollback.Rebuilt
import ChainRollback.Proofs.Rollback.Successor

/-! # Unwinding a synthetic chain

A hard rollback takes the stores of a chain from one height to the one below and leaves the history
as it is. Each run starts from a state that another run rebuilt, so the states are compared with
those of the chain in what a rollback brings back. The walk ends at the first block, below which
there is none to roll back to.
-/
namespace ChainRollback

/-- A state agrees with another one also in the application's version and in the height at which the
validators changed. -/
structure State.Restores (s t : State) : Prop extends s.Agrees t where
  appVersion : s.version.consensus.app = t.version.consensus.app
  lastHeightValidatorsChanged : s.lastHeightValidatorsChanged = t.lastHeightValidatorsChanged

namespace SyntheticChain

variable {prim : Primitives} {chain : SyntheticChain} {h below : Height} {s t prev : State}

theorem succeeds_of_stateAt (hbelow : below.toInt = h.toInt - 1)
    (hp : chain.stateAt prim below = .ok prev) (hs : chain.stateAt prim h = .ok s) :
    s.Succeeds prev := by
  simp only [stateAt, bind_eq_ok, pure_eq_ok] at hp hs
  obtain ⟨next, hnext, time, -, second, hsecond, rfl⟩ := hp
  obtain ⟨next', hnext', time', -, second', -, rfl⟩ := hs
  have h1 : next.toInt = below.toInt + 1 := Height.plus_eq_ok.mp hnext
  have h2 : second.toInt = below.toInt + 2 := Height.plus_eq_ok.mp hsecond
  have h1' : next'.toInt = h.toInt + 1 := Height.plus_eq_ok.mp hnext'
  have hnexth : next = h := Int64.toInt_inj.mp (by omega)
  have hsecondh : second = next' := Int64.toInt_inj.mp (by omega)
  subst hnexth hsecondh
  exact ⟨rfl, rfl, by change next.toInt = below.toInt + 1; omega, rfl, rfl⟩

/-- What a rollback reads of the state at a height, `next` being the one above. -/
theorem read_of_stateAt {next : Height} (hnext : next.toInt = h.toInt + 1)
    (hs : chain.stateAt prim h = .ok s) : s.lastValidators = validatorsAt prim h ∧
      s.consensusParams = chain.paramsAt next ∧
      s.version.consensus.app = (chain.paramsAt next).version.appVersion ∧
      s.lastHeightValidatorsChanged = next := by
  simp only [stateAt, bind_eq_ok, pure_eq_ok] at hs
  obtain ⟨next', hnext', -, -, -, -, rfl⟩ := hs
  have hone : next'.toInt = h.toInt + 1 := Height.plus_eq_ok.mp hnext'
  have hsame : next' = next := Int64.toInt_inj.mp (hone.trans hnext.symm)
  subst hsame
  exact ⟨rfl, rfl, rfl, rfl⟩

theorem executed_of_stateAt {b : BlockMeta} (hs : chain.stateAt prim h = .ok s)
    (hb : chain.blockMeta prim h = .ok b) : s.Executed b := by
  simp only [stateAt, bind_eq_ok, pure_eq_ok] at hs
  simp only [blockMeta, bind_eq_ok, pure_eq_ok] at hb
  obtain ⟨-, -, time, htime, -, -, rfl⟩ := hs
  obtain ⟨-, -, time', htime', -, -, -, -, rfl⟩ := hb
  cases htime.symm.trans htime'
  exact ⟨rfl, rfl, rfl⟩

theorem exists_stateAt {b : BlockMeta} (hb : chain.blockMeta prim h = .ok b)
    (hroom : h.toInt + 2 < 0x8000000000000000) : ∃ s, chain.stateAt prim h = .ok s := by
  simp only [blockMeta, bind_eq_ok, pure_eq_ok] at hb
  obtain ⟨-, -, time, htime, -, -, next, hnext, -⟩ := hb
  have hlow := Int64.le_toInt h
  obtain ⟨second, hsecond⟩ := Height.exists_toInt_eq (i := h.toInt + 2) (by omega) hroom
  have hplus : h.plus 2 = .ok second := Height.plus_eq_ok.mpr hsecond
  simp only [stateAt, bind_eq_ok, pure_eq_ok]
  exact ⟨_, next, hnext, time, htime, second, hplus, rfl⟩

/-- The history of a chain behind a state. -/
def history (prim : Primitives) (chain : SyntheticChain) (s : State) : StateContents where
  state := some s
  validators h :=
    if chain.initialHeight.toInt ≤ h.toInt ∧ h.toInt ≤ chain.tip.toInt + 2 then
      some (validatorsAt prim h) else none
  params h :=
    if chain.initialHeight.toInt ≤ h.toInt ∧ h.toInt ≤ chain.tip.toInt + 1 then
      some (chain.paramsAt h) else none

theorem history_validators (s : State) (hlow : chain.initialHeight.toInt ≤ h.toInt)
    (hhigh : h.toInt ≤ chain.tip.toInt + 2) :
    (chain.history prim s).validators h = some (validatorsAt prim h) := if_pos ⟨hlow, hhigh⟩

theorem history_params (s : State) (hlow : chain.initialHeight.toInt ≤ h.toInt)
    (hhigh : h.toInt ≤ chain.tip.toInt + 1) :
    (chain.history prim s).params h = some (chain.paramsAt h) := if_pos ⟨hlow, hhigh⟩

theorem history_records (s : State) (ht : chain.stateAt prim h = .ok t)
    (hlow : chain.initialHeight.toInt ≤ h.toInt) (hhigh : h.toInt ≤ chain.tip.toInt) :
    (chain.history prim s).Records t := by
  simp only [stateAt, bind_eq_ok, pure_eq_ok] at ht
  obtain ⟨next, hnext, time, -, second, hsecond, rfl⟩ := ht
  have hone : next.toInt = h.toInt + 1 := Height.plus_eq_ok.mp hnext
  have htwo : second.toInt = h.toInt + 2 := Height.plus_eq_ok.mp hsecond
  refine ⟨fun i hi => ?_, fun i hi => ?_, fun i hi => ?_⟩
  · have hnexti : next = i := Int64.toInt_inj.mp (hone.trans hi.symm)
    subst hnexti
    exact history_validators s (by omega) (by omega)
  · have hsecondi : second = i := Int64.toInt_inj.mp (htwo.trans hi.symm)
    subst hsecondi
    exact history_validators s (by omega) (by omega)
  · have hnexti : next = i := Int64.toInt_inj.mp (hone.trans hi.symm)
    subst hnexti
    exact history_params s (by omega) (by omega)

theorem HoldsHistory.exists_keeps {m : MemoryStateStore} (hm : HoldsHistory prim chain m) :
    ∃ s, chain.stateAt prim chain.tip = .ok s ∧ m.Keeps (chain.history prim s) := by
  obtain ⟨s, hs, hstored⟩ := hm.state
  refine ⟨s, hs, hstored, fun i => ?_, fun i => ?_, hm.accepts⟩
  · rw [Option.map_id]
    exact hm.validators i
  · rw [Option.map_id]
    exact hm.params i

theorem IsChainRun.base_eq {run : List BlockMeta} (hr : IsChainRun prim chain h run)
    (hlow : chain.initialHeight.toInt ≤ h.toInt) : Run.base run = chain.initialHeight := by
  have hfirst := hr.exists_mem chain.initialHeight (Int.le_refl _) hlow
  obtain ⟨hone, hle, hle'⟩ := hr.isRun.exists_mem_iff.mp hfirst
  obtain ⟨b, hb, hbase⟩ := hr.isRun.exists_mem_iff.mpr ⟨hone, Int.le_refl _, Int.le_trans hle hle'⟩
  have hge := (hr.of_mem b hb).1
  rw [hbase] at hge
  exact Int64.toInt_inj.mp (Int.le_antisymm hle hge)

theorem IsChainRun.tail {b : BlockMeta} {rest : List BlockMeta}
    (hr : IsChainRun prim chain h (b :: rest)) (hbelow : below.toInt = h.toInt - 1)
    (hlow : chain.initialHeight.toInt < h.toInt) : IsChainRun prim chain below rest := by
  have hheight : b.height = h := hr.tip
  have hlt := hr.isRun.lt_head
  have hmem : ∀ i : Height, chain.initialHeight.toInt ≤ i.toInt → i.toInt ≤ below.toInt →
      ∃ a ∈ rest, a.height = i := by
    intro i hi hib
    obtain ⟨a, ha, rfl⟩ := hr.exists_mem i hi (by omega)
    rcases List.mem_cons.mp ha with rfl | ha
    · rw [hheight] at hib
      omega
    · exact ⟨a, ha, rfl⟩
  refine ⟨hr.isRun.tail, ?_, fun a ha => ?_, hmem⟩
  · obtain ⟨a, ha, -⟩ := hmem below (by omega) (Int.le_refl _)
    cases hr.isRun with
    | first => cases ha
    | next _ hb =>
      rw [hheight] at hb
      exact Int64.toInt_inj.mp (by rw [hbelow, hb, Int.add_sub_cancel]; rfl)
  · have hab := hlt a ha
    have hof := hr.of_mem a (List.mem_cons_of_mem b ha)
    rw [hheight] at hab
    exact ⟨hof.1, by omega, hof.2.2⟩

theorem IsChainRun.exists_deleteLatest {run : List BlockMeta} {blocks : MemoryBlockStore}
    (hr : IsChainRun prim chain h run) (hholds : blocks.Holds run)
    (hbelow : below.toInt = h.toInt - 1) (hlow : chain.initialHeight.toInt < h.toInt) :
    ∃ blocks' rest, blocks.deleteLatest = .ok blocks' ∧ blocks'.Holds rest ∧
      IsChainRun prim chain below rest := by
  obtain ⟨b, hb, -⟩ := hr.exists_mem h (Int.le_of_lt hlow) (Int.le_refl _)
  obtain ⟨a, rest, rfl⟩ := List.exists_cons_of_ne_nil (List.ne_nil_of_mem hb)
  obtain ⟨blocks', hdelete, hholds'⟩ := hholds.deleteLatest hr.isRun
  exact ⟨blocks', rest, hdelete, hholds', hr.tail hbelow hlow⟩

/-- A block store holds the blocks of a chain from the first one to a height, and no others. -/
structure HoldsChain (prim : Primitives) (chain : SyntheticChain) (blocks : MemoryBlockStore)
    (last : Height) : Prop where
  base_eq : BlockStore.base blocks = .ok chain.initialHeight
  height_eq : BlockStore.height blocks = .ok last
  held : ∀ h : Height, chain.initialHeight.toInt ≤ h.toInt → h.toInt ≤ last.toInt →
    ∃ b, BlockStore.loadMeta blocks h = .ok (some b) ∧ chain.blockMeta prim h = .ok b
  empty : ∀ h : Height, h.toInt < chain.initialHeight.toInt ∨ last.toInt < h.toInt →
    BlockStore.loadMeta blocks h = .ok none

/-- The stores of a chain after hard rollbacks down to a height. -/
structure UnwoundTo (prim : Primitives) (chain : SyntheticChain) (states : MemoryStateStore)
    (blocks : MemoryBlockStore) (h : Height) : Prop where
  state : ∃ s t, chain.stateAt prim h = .ok t ∧ s.Restores t ∧ states.Keeps (chain.history prim s)
  run : ∃ run, blocks.Holds run ∧ IsChainRun prim chain h run

variable {states : MemoryStateStore} {blocks : MemoryBlockStore}

theorem unwoundTo_tip (hinitial : 1 ≤ chain.initialHeight.toInt)
    (htip : chain.initialHeight.toInt ≤ chain.tip.toInt) (hs : chain.stateStore prim = .ok states)
    (hb : chain.blockStore prim chain.tip = .ok blocks) :
    UnwoundTo prim chain states blocks chain.tip := by
  obtain ⟨s, hstate, hk⟩ := (holdsHistory_of_stateStore hs).exists_keeps
  exact ⟨⟨s, s, hstate, ⟨.refl s, rfl, rfl⟩, hk⟩, holds_of_blockStore hinitial htip hb⟩

theorem loadState_of_restores (ht : chain.stateAt prim h = .ok t) (hst : s.Restores t)
    (hstored : states.state = some s) : loadState states = .ok s ∧ s.lastBlockHeight = h := by
  obtain ⟨hheight, hempty, -⟩ := stateAt_eq_ok ht
  have hempty' : s.isEmpty = false := by
    rw [State.isEmpty, hst.validators]
    exact hempty
  exact ⟨loadState_eq_ok.mpr ⟨congrArg Except.ok hstored, hempty'⟩,
    hst.lastBlockHeight.trans hheight⟩

/-- The inputs of a rollback from a height are records of a chain, `below` being the one below. -/
structure OfChain (prim : Primitives) (chain : SyntheticChain) (h below : Height)
    (i : RollbackInputs) : Prop where
  below_toInt : below.toInt = h.toInt - 1
  invalid : ∃ t, chain.stateAt prim h = .ok t ∧ i.invalid.Restores t
  rollbackBlock : chain.blockMeta prim below = .ok i.rollbackBlock
  latestBlock : chain.blockMeta prim h = .ok i.latestBlock
  prevValidators : i.prevValidators = validatorsAt prim below
  prevParams : i.prevParams = chain.paramsAt h

namespace OfChain

variable {i : RollbackInputs}

theorem exists_stateAt (hi : OfChain prim chain h below i) :
    ∃ prev, chain.stateAt prim below = .ok prev := by
  obtain ⟨t, ht, -⟩ := hi.invalid
  obtain ⟨-, -, hroom⟩ := stateAt_eq_ok ht
  have hbelow := hi.below_toInt
  exact SyntheticChain.exists_stateAt hi.rollbackBlock (by omega)

theorem restores (hi : OfChain prim chain h below i) (hprev : chain.stateAt prim below = .ok prev)
    (build : BuildVersion) : (reconstruct i build).Restores prev := by
  obtain ⟨t, ht, hst⟩ := hi.invalid
  have hbelow := hi.below_toInt
  have hsucceeds := hst.succeeds (succeeds_of_stateAt hbelow hprev ht)
  have hh : h.toInt = below.toInt + 1 := by omega
  obtain ⟨hlast, hparams, happ, hchanged⟩ := read_of_stateAt hh hprev
  obtain ⟨-, -, hroom⟩ := stateAt_eq_ok ht
  have hmin := Int64.le_toInt h
  obtain ⟨next, hnext⟩ := Height.exists_toInt_eq (i := h.toInt + 1) (by omega) (by omega)
  obtain ⟨-, -, -, hchanged'⟩ := read_of_stateAt hnext ht
  refine ⟨agrees_reconstruct build hsucceeds (executed_of_stateAt hprev hi.rollbackBlock)
    (hi.prevValidators.trans hlast.symm) (hi.prevParams.trans hparams.symm), ?_, ?_⟩
  · rw [happ, ← hi.prevParams]
    rfl
  · have hheight : i.rollbackBlock.header.height = below := (blockMeta_header hi.rollbackBlock).1
    have hclamp : (clampChange next below).toInt = min next.toInt (below.toInt + 1) :=
      clampChange_toInt (by omega)
    change clampChange i.invalid.lastHeightValidatorsChanged i.rollbackBlock.header.height = _
    rw [hst.lastHeightValidatorsChanged, hchanged', hheight, hchanged]
    exact Int64.toInt_inj.mp (by omega)

theorem exists_save (hi : OfChain prim chain h below i)
    (hk : states.Keeps (chain.history prim i.invalid))
    (hlow : chain.initialHeight.toInt < h.toInt) (hhigh : h.toInt ≤ chain.tip.toInt)
    (build : BuildVersion) : ∃ states', states.save (reconstruct i build) = .ok states' ∧
      states'.Keeps (chain.history prim (reconstruct i build)) := by
  obtain ⟨prev, hprev⟩ := hi.exists_stateAt
  obtain ⟨hheight, -, hroom⟩ := stateAt_eq_ok hprev
  have hbelow := hi.below_toInt
  have hrestores := hi.restores hprev build
  have hroom' : (reconstruct i build).HasRoom := by
    rw [State.HasRoom, hrestores.lastBlockHeight, hheight]
    exact hroom
  have hrecords : (chain.history prim i.invalid).Records (reconstruct i build) :=
    (history_records i.invalid hprev (by omega) (by omega)).of_agrees hrestores.toAgrees
  obtain ⟨states', hsave⟩ := MemoryStateStore.exists_save hk.accepts hroom'
  have hk' := hk.recorded (MemoryStateStore.save_eq_ok hsave).2
  rw [hrecords.save_eq] at hk'
  exact ⟨states', hsave, hk'⟩

end OfChain

namespace UnwoundTo

theorem holdsChain (hu : UnwoundTo prim chain states blocks h)
    (hlow : chain.initialHeight.toInt ≤ h.toInt) : HoldsChain prim chain blocks h := by
  obtain ⟨run, hholds, hrun⟩ := hu.run
  have htable := Filed.tabulates hholds.filed hrun.isRun Function.injective_id
  refine ⟨congrArg Except.ok (hholds.base.trans (hrun.base_eq hlow)),
    congrArg Except.ok (hholds.height.trans hrun.tip), fun i => hrun.exists_loadMeta hholds,
    fun i hi => congrArg Except.ok ((htable.find?_id i).trans ?_)⟩
  cases hat : Run.at? run i with
  | none => rfl
  | some b =>
    obtain ⟨hb, rfl⟩ := hrun.isRun.at?_eq_some.mp hat
    have hof := hrun.of_mem b hb
    omega

theorem exists_alignedAt (hu : UnwoundTo prim chain states blocks h)
    (hlow : chain.initialHeight.toInt < h.toInt) (hhigh : h.toInt ≤ chain.tip.toInt)
    (removeBlock : Bool) : ∃ i below, AlignedAt states blocks i ∧ i.removeBlock = removeBlock ∧
      OfChain prim chain h below i ∧ states.Keeps (chain.history prim i.invalid) := by
  have hchain := hu.holdsChain (Int.le_of_lt hlow)
  obtain ⟨s, t, ht, hst, hk⟩ := hu.state
  obtain ⟨hs, hheight⟩ := loadState_of_restores ht hst hk.state
  have hmin := Int64.le_toInt chain.initialHeight
  have hmax := Int64.toInt_lt h
  obtain ⟨below, hbelow⟩ := Height.exists_toInt_eq (i := h.toInt - 1) (by omega) (by omega)
  obtain ⟨b, hb, hbmeta⟩ := hchain.held below (by omega) (by omega)
  obtain ⟨l, hl, hlmeta⟩ := hchain.held h (by omega) (Int.le_refl _)
  have hset : StateStore.loadValidators states below = .ok (validatorsAt prim below) := by
    rw [hk.loadValidators_eq, history_validators s (by omega) (by omega)]
    rfl
  have hparams : StateStore.loadParams states h = .ok (chain.paramsAt h) := by
    rw [hk.loadParams_eq, history_params s (by omega) (by omega)]
    rfl
  refine ⟨⟨s, b, l, validatorsAt prim below, chain.paramsAt h, removeBlock⟩, below, ?_, rfl,
    ⟨hbelow, ⟨t, ht, hst⟩, hbmeta, hlmeta, rfl, rfl⟩, hk⟩
  subst hheight
  exact ⟨hs, hchain.height_eq, below, hbelow, hb, hl, hset, hparams⟩

variable {κ : Type} [Checkpoint κ] {n : Stores MemoryStateStore MemoryBlockStore κ}

/-- Above the first block a rollback succeeds in either mode, and saves the state rebuilt from the
records of the chain. -/
theorem exists_rollback (hu : UnwoundTo prim chain n.states n.blocks h)
    (hlow : chain.initialHeight.toInt < h.toInt) (hhigh : h.toInt ≤ chain.tip.toInt)
    (hc : (Checkpoint.reset n.checkpoint).1 = .ok ()) (removeBlock : Bool) (build : BuildVersion) :
    ∃ i below left, n.rollback removeBlock build = (.ok (Plan.aligned i build).outcome, left) ∧
      left.states.state = some (reconstruct i build) ∧ i.removeBlock = removeBlock ∧
      n.states.state = some i.invalid ∧ OfChain prim chain h below i := by
  obtain ⟨i, below, haligned, hr, hi, hk⟩ := hu.exists_alignedAt hlow hhigh removeBlock
  obtain ⟨states', hsave, hk'⟩ := hi.exists_save hk hlow hhigh build
  obtain ⟨run, hholds, hrun⟩ := hu.run
  obtain ⟨blocks', -, hdelete, -⟩ := hrun.exists_deleteLatest hholds hi.below_toInt hlow
  have hw := Stores.performAll_aligned_of_ok (n := n) hsave hdelete hc
  exact ⟨i, below, _, Stores.rollback_eq_ok.mpr ⟨_, .aligned haligned hr, rfl, hw⟩, hk'.state, hr,
    hk.state, hi⟩

theorem rollback (hu : UnwoundTo prim chain n.states n.blocks h)
    (hlow : chain.initialHeight.toInt < h.toInt) (hhigh : h.toInt ≤ chain.tip.toInt)
    (hc : (Checkpoint.reset n.checkpoint).1 = .ok ()) (build : BuildVersion) :
    ∃ below out left, below.toInt = h.toInt - 1 ∧ n.rollback true build = (.ok out, left) ∧
      UnwoundTo prim chain left.states left.blocks below ∧
      left.checkpoint = (Checkpoint.reset n.checkpoint).2 := by
  obtain ⟨i, below, haligned, hr, hi, hk⟩ := hu.exists_alignedAt hlow hhigh true
  obtain ⟨prev, hprev⟩ := hi.exists_stateAt
  obtain ⟨run, hholds, hrun⟩ := hu.run
  obtain ⟨states', hsave, hk'⟩ := hi.exists_save hk hlow hhigh build
  obtain ⟨blocks', rest, hdelete, hholds', hrest⟩ :=
    hrun.exists_deleteLatest hholds hi.below_toInt hlow
  have hw := Stores.performAll_aligned_of_ok (n := n) hsave hdelete hc
  rw [hr] at hw
  exact ⟨below, _, _, hi.below_toInt,
    Stores.rollback_eq_ok.mpr ⟨_, .aligned haligned hr, rfl, hw⟩,
    ⟨⟨reconstruct i build, prev, hprev, hi.restores hprev build, hk'⟩, rest, hholds', hrest⟩, rfl⟩

/-- At the first block there is none to roll back to. -/
theorem rollback_first (hu : UnwoundTo prim chain n.states n.blocks chain.initialHeight)
    (hinitial : 1 ≤ chain.initialHeight.toInt) (removeBlock : Bool) (build : BuildVersion) :
    ∃ below : Height, below.toInt = chain.initialHeight.toInt - 1 ∧
      n.rollback removeBlock build = (.error (.error (.noBlock below)), n) := by
  have hchain := hu.holdsChain (Int.le_refl _)
  obtain ⟨s, t, ht, hst, hk⟩ := hu.state
  obtain ⟨hs, hheight⟩ := loadState_of_restores ht hst hk.state
  have hmax := Int64.toInt_lt chain.initialHeight
  obtain ⟨below, hbelow⟩ := Height.exists_toInt_eq (i := chain.initialHeight.toInt - 1)
    (by omega) (by omega)
  have hnone := hchain.empty below (by omega)
  have hplan : planRollback n.states n.blocks removeBlock build = .error (.noBlock below) :=
    planRollback_of_noBlock hs (hheight ▸ hchain.height_eq) (hheight ▸ hbelow) hnone
  exact ⟨below, hbelow, Stores.rollback_eq_error.mpr (.inl ⟨_, hplan, rfl, rfl⟩)⟩

end UnwoundTo

/-- Hard rollbacks in turn unwind a block each, as long as there are blocks above the first. -/
theorem UnwoundTo.rollbackEach {n : Stores MemoryStateStore MemoryBlockStore MemoryCheckpoint}
    {builds : List BuildVersion} (hu : UnwoundTo prim chain n.states n.blocks h)
    (hk : builds.length ≤ h.toInt - chain.initialHeight.toInt) (hhigh : h.toInt ≤ chain.tip.toInt)
    (hc : n.checkpoint.refuses = false) :
    ∃ lower outcomes left, lower.toInt = h.toInt - builds.length ∧
      n.rollbackEach true builds = (.ok outcomes, left) ∧
      UnwoundTo prim chain left.states left.blocks lower ∧
      left.checkpoint = { n.checkpoint with resets := n.checkpoint.resets + builds.length } := by
  induction builds generalizing n h with
  | nil => exact ⟨h, [], n, (Int.sub_zero _).symm, rfl, hu, rfl⟩
  | cons build builds ih =>
    have hreset : Checkpoint.reset n.checkpoint =
        (.ok (), { n.checkpoint with resets := n.checkpoint.resets + 1 }) :=
      if_neg (by rw [hc]; decide)
    rw [List.length_cons] at hk
    obtain ⟨below, out, m, hbelow, hrollback, hm, hcheckpoint⟩ :=
      hu.rollback (by omega) hhigh (by rw [hreset]) build
    rw [hreset] at hcheckpoint
    obtain ⟨lower, outcomes, left, hlower, heach, hleft, hresets⟩ :=
      ih hm (by omega) (by omega) (by rw [hcheckpoint]; exact hc)
    refine ⟨lower, out :: outcomes, left, ?_, Stores.rollbackEach_cons_of_ok hrollback heach, hleft,
      ?_⟩
    · rw [List.length_cons]
      omega
    · rw [hresets, hcheckpoint, List.length_cons, Nat.add_assoc, Nat.add_comm 1]

/-- Hard rollbacks of a chain walk down from its tip one height at a time. After each the stored
state restores the chain's state of its height, the blocks up to it are the chain's, the checkpoint
was reset as often, and no record of the history has changed. At the first block the next rollback
finds no block to go to and changes nothing. -/
theorem rollbackEach_of_chain (prim : Primitives) (chain : SyntheticChain)
    (builds : List BuildVersion) (hinitial : 1 ≤ chain.initialHeight.toInt)
    (htip : chain.initialHeight.toInt ≤ chain.tip.toInt)
    (hs : chain.stateStore prim = .ok states) (hb : chain.blockStore prim chain.tip = .ok blocks)
    (checkpoint : MemoryCheckpoint) (hc : checkpoint.refuses = false)
    (hk : builds.length ≤ chain.tip.toInt - chain.initialHeight.toInt) :
    ∃ h outcomes left s t,
      (⟨states, blocks, checkpoint⟩ : Stores MemoryStateStore MemoryBlockStore
        MemoryCheckpoint).rollbackEach true builds = (.ok outcomes, left) ∧
      h.toInt = chain.tip.toInt - builds.length ∧
      StateStore.load left.states = .ok (some s) ∧ chain.stateAt prim h = .ok t ∧ s.Restores t ∧
      HoldsChain prim chain left.blocks h ∧
      left.checkpoint = { checkpoint with resets := checkpoint.resets + builds.length } ∧
      (∀ i, StateStore.loadValidators left.states i = StateStore.loadValidators states i) ∧
      (∀ i, StateStore.loadParams left.states i = StateStore.loadParams states i) ∧
      (h = chain.initialHeight → ∀ removeBlock build, ∃ below : Height,
        below.toInt = chain.initialHeight.toInt - 1 ∧
        left.rollback removeBlock build = (.error (.error (.noBlock below)), left)) := by
  have hstart := unwoundTo_tip hinitial htip hs hb
  obtain ⟨s₀, -, -, -, hk₀⟩ := hstart.state
  obtain ⟨h, outcomes, left, hh, heach, hleft, hresets⟩ :=
    UnwoundTo.rollbackEach (n := ⟨states, blocks, checkpoint⟩) hstart hk (Int.le_refl _) hc
  obtain ⟨s, t, ht, hst, hks⟩ := hleft.state
  refine ⟨h, outcomes, left, s, t, heach, hh, congrArg Except.ok hks.state, ht, hst,
    hleft.holdsChain (by omega), hresets, fun i => ?_, fun i => ?_, ?_⟩
  · rw [hks.loadValidators_eq, hk₀.loadValidators_eq]
    rfl
  · rw [hks.loadParams_eq, hk₀.loadParams_eq]
    rfl
  · rintro rfl removeBlock build
    exact hleft.rollback_first hinitial removeBlock build

theorem rollbackEach_of_two_blocks : ∃ states blocks h outcomes left s t,
    ({ tip := 2 } : SyntheticChain).stateStore .standard = .ok states ∧
    ({ tip := 2 } : SyntheticChain).blockStore .standard 2 = .ok blocks ∧
    (⟨states, blocks, {}⟩ : Stores MemoryStateStore MemoryBlockStore
      MemoryCheckpoint).rollbackEach true [.current] = (.ok outcomes, left) ∧
    h.toInt = 1 ∧ StateStore.load left.states = .ok (some s) ∧
    ({ tip := 2 } : SyntheticChain).stateAt .standard h = .ok t ∧ s.Restores t ∧
    left.checkpoint = { resets := 1 } ∧
    ∀ removeBlock build, left.rollback removeBlock build = (.error (.error (.noBlock 0)), left) := by
  obtain ⟨states, blocks, hs, hb⟩ := exists_stores_of_two_blocks .standard
  obtain ⟨h, outcomes, left, s, t, heach, hh, hload, ht, hst, -, hresets, -, -, hfirst⟩ :=
    rollbackEach_of_chain .standard { tip := 2 } [.current] (by decide) (by decide) hs hb {} rfl
      (by decide)
  have hone : h.toInt = 1 := hh
  have hinitial : h = ({ tip := 2 } : SyntheticChain).initialHeight := Int64.toInt_inj.mp hone
  refine ⟨states, blocks, h, outcomes, left, s, t, hs, hb, heach, hone, hload, ht, hst, hresets,
    fun removeBlock build => ?_⟩
  obtain ⟨below, hbelow, hrefused⟩ := hfirst hinitial removeBlock build
  have hzero : below = 0 := Int64.toInt_inj.mp hbelow
  rwa [hzero] at hrefused

end SyntheticChain
end ChainRollback
