import ChainRollback.Proofs.Rollback.Stack
import ChainRollback.Proofs.Store.BlockRequests

/-! # A node going forward and back

A node executes blocks and is rolled back, in any order: executing a block pushes a state on its
stack, and a rollback of an aligned node pops one. Whatever the order, what the stores answer agrees
with the stack, a rollback succeeds as long as there is something to go back to, and the node can go
forward again.
-/
namespace ChainRollback
open Codec

variable {κ : Type} {n left : Stores AnyStateStore AnyBlockStore κ} {top s : State}
variable {rest : List State} {i : RollbackInputs} {b : BlockMeta}

/-- The ends of the blocks that a node holds: none, or from the first height of the chain to the
height of the top of its stack or one above. -/
inductive BlockEnds : List State → (base tip : Height) → Prop where
  | new : BlockEnds [] 0 0
  | genesis {g : State} : BlockEnds [g] 0 0
  | level {top prev : State} {lower : List State} :
    BlockEnds (top :: prev :: lower) top.initialHeight top.lastBlockHeight
  | ahead {top : State} {rest : List State} {tip : Height}
    (h : tip.toInt = top.lastBlockHeight.toInt + 1) : BlockEnds (top :: rest) top.initialHeight tip

/-- The stores agree with a stack: the stored state with its top, and the history and the blocks
with each of its states. -/
structure Remembers (n : Stores AnyStateStore AnyBlockStore κ) (stack : List State) : Prop where
  stored : match stack with
    | [] => StateStore.load n.states = .ok none
    | top :: _ => ∃ s, StateStore.load n.states = .ok (some s) ∧ s.Agrees top
  linked : stack.IsChain State.Succeeds
  genesis : ∀ g ∈ stack.getLast?, g.IsGenesis
  validators : ∀ t ∈ stack, ∀ h : Height, h.toInt = t.lastBlockHeight.toInt + 1 →
    StateStore.loadValidators n.states h = .ok t.validators
  nextValidators : ∀ t ∈ stack, ∀ h : Height, h.toInt = t.lastBlockHeight.toInt + 2 →
    StateStore.loadValidators n.states h = .ok t.nextValidators
  params : ∀ t ∈ stack, ∀ h : Height, h.toInt = t.lastBlockHeight.toInt + 1 →
    StateStore.loadParams n.states h = .ok t.consensusParams
  executed : ∀ t ∈ stack, t.IsGenesis ∨
    ∃ b, BlockStore.loadMeta n.blocks t.lastBlockHeight = .ok (some b) ∧ t.Executed b
  ends : ∃ base tip, HoldsInterval n.blocks base tip ∧ BlockEnds stack base tip

theorem Tracks.exists_ends (h : Tracks n top rest) :
    ∃ base tip, HoldsInterval n.blocks base tip ∧ BlockEnds (top :: rest) base tip := by
  obtain ⟨run, blocks, hrun, hx, hahead⟩ := h.blocks
  have hinterval := hrun.holdsInterval
  cases hahead with
  | ahead hb _ =>
    rw [hx.base_cons hb] at hinterval
    exact ⟨_, _, hinterval, .ahead hb⟩
  | level =>
    cases hx with
    | genesis => exact ⟨0, 0, hinterval, .genesis⟩
    | @next b blocks _ prev lower hx hs he _ _ =>
      have hb : b.height.toInt = prev.lastBlockHeight.toInt + 1 := by
        rw [he.height]
        exact hs.lastBlockHeight
      have htip : Run.tip (b :: blocks) = top.lastBlockHeight := he.height
      rw [hx.base_cons hb, ← hs.initialHeight, htip] at hinterval
      exact ⟨_, _, hinterval, .level⟩

theorem Tracks.remembers (h : Tracks n top rest) : Remembers n (top :: rest) := by
  obtain ⟨c, s, hk, hc, hagrees, hrecords⟩ := h.states
  obtain ⟨run, blocks, hrun, hx, hahead⟩ := h.blocks
  have hmem : ∀ b ∈ blocks, b ∈ run := by
    cases hahead with
    | level => exact fun _ hb => hb
    | ahead => exact fun _ hb => List.mem_cons_of_mem _ hb
  refine ⟨⟨s, hc ▸ hk.load_eq, hagrees⟩, hx.isChain, hx.isGenesis_getLast?,
    fun t ht h hh => ?_, fun t ht h hh => ?_, fun t ht h hh => ?_, fun t ht => ?_, h.exists_ends⟩
  · exact hk.loadValidators_eq_ok.mpr ((hrecords t ht).validators h hh)
  · exact hk.loadValidators_eq_ok.mpr ((hrecords t ht).nextValidators h hh)
  · exact hk.loadParams_eq_ok.mpr ((hrecords t ht).params h hh)
  · rcases hx.exists_executed t ht with hg | ⟨b, hb, he⟩
    · exact .inl hg
    · exact .inr ⟨b, hrun.loadMeta_eq_some.mpr ⟨hmem b hb, he.height⟩, he⟩

theorem Follows.remembers {stack : List State} (h : Follows n stack) : Remembers n stack := by
  cases stack with
  | nil =>
    exact ⟨h.load_eq_none, .nil, by simp, by simp, by simp, by simp, by simp,
      ⟨0, 0, h.2.holdsInterval, .new⟩⟩
  | cons top rest => exact Tracks.remembers h

/-- A block is held that the top of a stack has not executed. -/
def HoldsPending (n : Stores AnyStateStore AnyBlockStore κ) (stack : List State) : Prop :=
  ∃ top ∈ stack.head?, ∃ (h : Height) (b : BlockMeta),
    h.toInt = top.lastBlockHeight.toInt + 1 ∧ BlockStore.loadMeta n.blocks h = .ok (some b)

theorem Tracks.pendingAt_or_level (h : Tracks n top rest) :
    (∃ s, PendingAt n.states n.blocks s) ∧ HoldsPending n (top :: rest) ∨
      ∃ blocks, HoldsRun n.blocks blocks ∧ Executes blocks top rest := by
  obtain ⟨s, hs, hagrees⟩ := h.loadState
  obtain ⟨run, blocks, hrun, hx, hahead⟩ := h.blocks
  cases hahead with
  | level => exact .inr ⟨_, hrun, hx⟩
  | @ahead b hb _ =>
    have htip : b.height.toInt = s.lastBlockHeight.toInt + 1 := hagrees.lastBlockHeight ▸ hb
    exact .inl ⟨⟨s, hs, b.height, hrun.height_eq, htip⟩, top, rfl, b.height, b, hb,
      hrun.loadMeta_eq_some.mpr ⟨List.mem_cons_self, rfl⟩⟩

theorem Executes.not_holdsPending {blocks : List BlockMeta} (hx : Executes blocks top rest)
    (hrun : HoldsRun n.blocks blocks) : ¬HoldsPending n (top :: rest) := by
  rintro ⟨_, ⟨⟩, tip, b, htip, hload⟩
  obtain ⟨hmem, hb⟩ := hrun.loadMeta_eq_some.mp hload
  obtain ⟨hcons, -⟩ := AtMostOneAhead.level.eq_cons hrun.isRun hx hmem (by rw [hb]; exact htip)
  exact absurd (congrArg List.length hcons) (by simp)

theorem Tracks.exists_append (h : Tracks n top rest) (hp : ¬HoldsPending n (top :: rest))
    (hb : b.height.toInt = top.lastBlockHeight.toInt + 1) :
    ∃ store, BlockLog.append n.blocks b = .ok store := by
  rcases h.pendingAt_or_level with ⟨-, hp'⟩ | ⟨blocks, hrun, hx⟩
  · exact absurd hp' hp
  · have hfirst := hx.first_le
    refine hrun.exists_append ?_
    cases hx with
    | genesis => exact .first (by omega)
    | next _ _ he _ _ => exact .next hrun.isRun (by rw [he.height]; exact hb)

variable [Checkpoint κ]

/-- A rollback of an aligned node pops the stack. A block that it keeps is pending afterwards. -/
theorem Tracks.back {removeBlock : Bool} {build : BuildVersion}
    {r : Except (Halt RollbackError) Outcome} (h : Tracks n top rest)
    (hi : AlignedAt n.states n.blocks i) (hbuild : TextFits build.software)
    (hr : n.rollback removeBlock build = (r, left)) :
    ∃ prev lower, rest = prev :: lower ∧ Tracks left prev lower := by
  have hi' := hi.setRemoveBlock removeBlock
  obtain ⟨b, blocks, prev, lower, hstep⟩ := h.exists_lastStep hi'
  obtain ⟨states, hsave, c, s, hk, hc, hagrees, hrecords⟩ := h.exists_save hi' hstep hbuild
  obtain ⟨store, hdelete, hrun⟩ := hstep.holds.deleteLatest
  obtain ⟨hstates, hblocks⟩ := Stores.rollback_of_aligned hi' hsave hdelete
  rw [hr] at hstates hblocks
  obtain rfl := hstep.rest_eq
  refine ⟨prev, lower, rfl, ⟨c, s, hstates ▸ hk, hc, hagrees, fun t ht =>
    hrecords t (List.mem_cons_of_mem top ht)⟩, ?_⟩
  cases removeBlock with
  | true => exact ⟨blocks, blocks, hblocks ▸ hrun, hstep.executes, .level⟩
  | false =>
    have hahead : b.height.toInt = prev.lastBlockHeight.toInt + 1 := by
      rw [hstep.executed.height]
      exact hstep.succeeds.lastBlockHeight
    exact ⟨b :: blocks, blocks, hblocks ▸ hstep.holds, hstep.executes, .ahead hahead hstep.isLow⟩

/-- Any other rollback leaves the stack, whether or not it removes a pending block. -/
theorem Tracks.stay {removeBlock : Bool} {build : BuildVersion}
    {r : Except (Halt RollbackError) Outcome} (h : Tracks n top rest)
    (hi : ∀ i, ¬AlignedAt n.states n.blocks i) (hr : n.rollback removeBlock build = (r, left)) :
    Tracks left top rest := by
  rcases Stores.rollback_of_not_aligned hi hr with rfl | ⟨s, store, hp, hdelete, rfl⟩
  · exact h
  · obtain ⟨b, blocks, hrun, hx, -⟩ := h.pending hp
    obtain ⟨store', hdelete', hrun'⟩ := hrun.deleteLatest
    cases hdelete.symm.trans hdelete'
    exact ⟨h.states, blocks, blocks, hrun', hx, .level⟩

theorem Tracks.rollback_pending {removeBlock : Bool} {build : BuildVersion} (h : Tracks n top rest)
    (hp : PendingAt n.states n.blocks s) :
    ∃ out left, n.rollback removeBlock build = (.ok out, left) := by
  obtain ⟨b, blocks, hrun, -, -⟩ := h.pending hp
  obtain ⟨store, hdelete, -⟩ := hrun.deleteLatest
  have hw : ∃ left, n.performAll (Plan.pending removeBlock s).writes = (.ok (), left) := by
    cases removeBlock with
    | false => exact ⟨n, rfl⟩
    | true => exact ⟨_, Stores.performAll_pending_eq_ok.mpr ⟨store, hdelete, rfl⟩⟩
  obtain ⟨left, hleft⟩ := hw
  exact ⟨_, left, Stores.rollback_eq_ok.mpr ⟨_, .pending hp, rfl, hleft⟩⟩

theorem Tracks.rollback_aligned {removeBlock : Bool} {build : BuildVersion} (h : Tracks n top rest)
    (hi : AlignedAt n.states n.blocks i) (hbuild : TextFits build.software)
    (hc : (Checkpoint.reset n.checkpoint).1 = .ok ()) :
    ∃ out left, n.rollback removeBlock build = (.ok out, left) := by
  have hi' := hi.setRemoveBlock removeBlock
  obtain ⟨b, blocks, prev, lower, hstep⟩ := h.exists_lastStep hi'
  obtain ⟨states, hsave, -⟩ := h.exists_save hi' hstep hbuild
  obtain ⟨store, hdelete, -⟩ := hstep.holds.deleteLatest
  exact ⟨_, _, Stores.rollback_eq_ok.mpr ⟨_, .aligned hi' rfl, rfl,
    Stores.performAll_aligned_of_ok hsave hdelete hc⟩⟩

/-- A rollback of a node succeeds if there is a pending block to report, or a state above the
genesis state to go back to. -/
theorem Tracks.rollback_iff {removeBlock : Bool} {build : BuildVersion} (h : Tracks n top rest)
    (hbuild : TextFits build.software) (hc : (Checkpoint.reset n.checkpoint).1 = .ok ()) :
    (∃ out left, n.rollback removeBlock build = (.ok out, left)) ↔
      HoldsPending n (top :: rest) ∨ 3 ≤ (top :: rest).length := by
  constructor
  · rintro ⟨out, left, hr⟩
    obtain ⟨plan, hplan, -, -⟩ := Stores.rollback_eq_ok.mp hr
    cases hplan with
    | pending hp =>
      obtain ⟨b, blocks, hrun, -, hb⟩ := h.pending hp
      exact .inl ⟨top, rfl, b.height, b, hb, hrun.loadMeta_eq_some.mpr ⟨List.mem_cons_self, rfl⟩⟩
    | aligned hi _ =>
      obtain ⟨b, blocks, prev, lower, hstep⟩ := h.exists_lastStep hi
      have hpos := List.length_pos_of_ne_nil hstep.lower_ne
      rw [hstep.rest_eq, List.length_cons, List.length_cons]
      exact .inr (by omega)
  · intro hcan
    rcases h.pendingAt_or_level with ⟨⟨s, hp⟩, -⟩ | ⟨blocks, hrun, hx⟩
    · exact h.rollback_pending hp
    · have hlength := hcan.resolve_left (hx.not_holdsPending hrun)
      rw [List.length_cons] at hlength
      obtain ⟨i, hi⟩ := h.exists_alignedAt hrun hx (by omega)
      exact h.rollback_aligned hi hbuild hc

/-- The stores that a node can come to from new ones, with the stack of the states that it has
executed and not rolled back, the latest first. -/
inductive Reached : Stores AnyStateStore AnyBlockStore κ → List State → Prop where
  | memory {c : κ} : Reached ⟨.inl {}, .inl {}, c⟩ []
  | disk {d : DiskStateStore} {e : DiskBlockStore} {c : κ}
    (hd : DiskStateStore.openIn .empty = .ok d) (he : DiskBlockStore.openIn .empty = .ok e) :
    Reached ⟨.inr d, .inr e, c⟩ []
  | genesis {n : Stores AnyStateStore AnyBlockStore κ} {g : State} {states : AnyStateStore}
    (hn : Reached n []) (hg : g.IsGenesis) (hf : g.Fits)
    (hsave : StateStore.save n.states g = .ok states) : Reached { n with states := states } [g]
  | append {n : Stores AnyStateStore AnyBlockStore κ} {stack : List State} {s : State}
    {b : BlockMeta} {blocks : AnyBlockStore} (hn : Reached n stack)
    (hs : StateStore.load n.states = .ok (some s))
    (hb : b.height.toInt = s.lastBlockHeight.toInt + 1)
    (hnone : ∀ h : Height, s.lastBlockHeight.toInt < h.toInt →
      BlockStore.loadMeta n.blocks h = .ok none)
    (hlow : b.height.IsLow) (hf : b.Fits) (happend : BlockLog.append n.blocks b = .ok blocks) :
    Reached { n with blocks := blocks } stack
  | execute {n : Stores AnyStateStore AnyBlockStore κ} {stack : List State} {prev s : State}
    {b : BlockMeta} {states : AnyStateStore} (hn : Reached n stack)
    (hp : StateStore.load n.states = .ok (some prev)) (hs : s.Succeeds prev)
    (hb : BlockStore.loadMeta n.blocks s.lastBlockHeight = .ok (some b)) (he : s.Executed b)
    (hne : s.nextValidators.validators ≠ []) (hf : s.Fits)
    (hsave : StateStore.save n.states s = .ok states) :
    Reached { n with states := states } (s :: stack)
  /-- A rollback of an aligned node that has the inputs, also if the checkpoint is not reset. -/
  | back {n left : Stores AnyStateStore AnyBlockStore κ} {stack : List State} {i : RollbackInputs}
    {removeBlock : Bool} {build : BuildVersion} {r : Except (Halt RollbackError) Outcome}
    (hn : Reached n stack) (hi : AlignedAt n.states n.blocks i) (hbuild : TextFits build.software)
    (hr : n.rollback removeBlock build = (r, left)) : Reached left stack.tail
  | stay {n left : Stores AnyStateStore AnyBlockStore κ} {stack : List State} {removeBlock : Bool}
    {build : BuildVersion} {r : Except (Halt RollbackError) Outcome} (hn : Reached n stack)
    (hi : ∀ i, ¬AlignedAt n.states n.blocks i) (hr : n.rollback removeBlock build = (r, left)) :
    Reached left stack

theorem Reached.follows {stack : List State} (h : Reached n stack) : Follows n stack := by
  induction h with
  | memory => exact ⟨.memory, ServesRun.memory.holds⟩
  | disk hd he => exact ⟨.disk hd, (ServesRun.disk he).holds⟩
  | genesis _ hg hf hsave ih => exact Tracks.genesis ih hg hf hsave
  | @append _ stack _ _ _ _ hs hb hnone hlow hf happend ih =>
    cases stack with
    | nil => cases hs.symm.trans ih.load_eq_none
    | cons top rest => exact Tracks.append ih hs hb hnone hlow hf happend
  | @execute _ stack _ _ _ _ _ hp hs hb he hne hf hsave ih =>
    cases stack with
    | nil => cases hp.symm.trans ih.load_eq_none
    | cons top rest => exact Tracks.execute ih hp hs hb he hne hf hsave
  | @back _ _ stack _ _ _ _ _ hi hbuild hr ih =>
    cases stack with
    | nil => exact absurd hi.loadState ih.loadState_ne_ok
    | cons top rest =>
      obtain ⟨prev, lower, rfl, hleft⟩ := Tracks.back ih hi hbuild hr
      exact hleft
  | @stay _ _ stack _ _ _ _ hi hr ih =>
    cases stack with
    | nil =>
      rcases Stores.rollback_of_not_aligned hi hr with rfl | ⟨s, _, hp, -, -⟩
      · exact ih
      · exact absurd hp.loadState ih.loadState_ne_ok
    | cons top rest => exact Tracks.stay ih hi hr

/-- A node can go on from where it is: forward by any state with room for its records and by a block
above the top, and back if a block is pending or the stack has a state above the genesis state below
its top. -/
structure GoesOn (n : Stores AnyStateStore AnyBlockStore κ) (stack : List State) : Prop where
  saves : ∀ s : State, s.HasRoom → ∃ states, StateStore.save n.states s = .ok states
  appends : ¬HoldsPending n stack → ∀ top ∈ stack.head?, ∀ b : BlockMeta,
    b.height.toInt = top.lastBlockHeight.toInt + 1 →
      ∃ store, BlockLog.append n.blocks b = .ok store
  rollsBack : ∀ (removeBlock : Bool) (build : BuildVersion), TextFits build.software →
    (Checkpoint.reset n.checkpoint).1 = .ok () →
      ((∃ out left, n.rollback removeBlock build = (.ok out, left)) ↔
        HoldsPending n stack ∨ 3 ≤ stack.length)

theorem Follows.goesOn {stack : List State} (h : Follows n stack) : GoesOn n stack := by
  cases stack with
  | nil =>
    refine ⟨fun s hroom => h.1.exists_save hroom, by simp, fun removeBlock build _ _ => ?_⟩
    constructor
    · rintro ⟨out, left, hr⟩
      obtain ⟨plan, hplan, -, -⟩ := Stores.rollback_eq_ok.mp hr
      cases hplan with
      | pending hp => exact absurd hp.loadState h.loadState_ne_ok
      | aligned hi _ => exact absurd hi.loadState h.loadState_ne_ok
    · rintro (⟨_, ⟨⟩, -⟩ | hlength)
      simp at hlength
  | cons top rest =>
    have ht : Tracks n top rest := h
    obtain ⟨c, s, hk, -⟩ := ht.states
    refine ⟨fun s hroom => hk.exists_save hroom, ?_, fun removeBlock build hbuild hc =>
      ht.rollback_iff hbuild hc⟩
    rintro hp _ ⟨⟩ b hb
    exact ht.exists_append hp hb

/-- Whatever a node has executed and rolled back, its stores agree with the stack of the states that
are left, and it can go on from there. -/
theorem remembers_of_reached {stack : List State} (h : Reached n stack) :
    Remembers n stack ∧ GoesOn n stack := ⟨h.follows.remembers, h.follows.goesOn⟩

namespace TwoBlocks

def stateAt (h : Height) : State := { state with lastBlockHeight := h }

theorem stateAt_fits (h : Height) : (stateAt h).Fits := { state_fits with }

theorem succeeds_stateAt {h below : Height} (hb : h.toInt = below.toInt + 1) :
    (stateAt h).Succeeds (stateAt below) := ⟨rfl, rfl, hb, rfl, rfl⟩

theorem executed_stateAt (h : Height) : (stateAt h).Executed (block h) := ⟨rfl, rfl, rfl⟩

theorem exists_reached : ∃ n : Stores AnyStateStore AnyBlockStore MemoryCheckpoint,
    Reached n [stateAt 2, stateAt 1, stateAt 0] ∧ ∃ i, AlignedAt n.states n.blocks i := by
  have hlow : ∀ h : Height, 1 < h.toInt → h ≠ 1 := by
    rintro _ hh rfl
    exact absurd hh (by decide)
  have hgenesis : (stateAt 0).IsGenesis := ⟨by decide, by decide, by decide, by decide⟩
  have h0 : Reached (κ := MemoryCheckpoint) _ [stateAt 0] :=
    .genesis (.memory (c := {})) hgenesis (stateAt_fits 0) rfl
  have h0' : Reached _ [stateAt 0] :=
    .append (s := stateAt 0) (b := block 1) h0 rfl rfl (fun _ _ => rfl) (by decide) (block_fits 1) rfl
  have h1 : Reached _ [stateAt 1, stateAt 0] :=
    .execute h0' rfl (succeeds_stateAt rfl) rfl (executed_stateAt 1) (by decide) (stateAt_fits 1) rfl
  have h1' : Reached _ [stateAt 1, stateAt 0] :=
    .append (s := stateAt 1) (b := block 2) h1 rfl rfl
      (fun h hh => congrArg Except.ok (OrderedMap.find?_insert_of_ne ∅ (block 1) (hlow h hh)))
      (by decide) (block_fits 2) rfl
  have h2 : Reached _ [stateAt 2, stateAt 1, stateAt 0] :=
    .execute h1' rfl (succeeds_stateAt rfl) rfl (executed_stateAt 2) (by decide) (stateAt_fits 2) rfl
  exact ⟨_, h2, ⟨stateAt 2, block 1, block 2, set, {}, false⟩, rfl, rfl, 1, rfl, rfl, rfl, rfl, rfl⟩

end TwoBlocks

theorem remembers_after_rollback : ∃ n : Stores AnyStateStore AnyBlockStore MemoryCheckpoint,
    Reached n [TwoBlocks.stateAt 2, TwoBlocks.stateAt 1, TwoBlocks.stateAt 0] ∧
    Remembers (n.rollback true .current).2 [TwoBlocks.stateAt 1, TwoBlocks.stateAt 0] ∧
    GoesOn (n.rollback true .current).2 [TwoBlocks.stateAt 1, TwoBlocks.stateAt 0] := by
  obtain ⟨n, hn, i, hi⟩ := TwoBlocks.exists_reached
  have hback : Reached (n.rollback true .current).2 [TwoBlocks.stateAt 1, TwoBlocks.stateAt 0] :=
    .back hn hi (by decide +kernel) rfl
  exact ⟨n, hn, remembers_of_reached hback⟩

end ChainRollback
