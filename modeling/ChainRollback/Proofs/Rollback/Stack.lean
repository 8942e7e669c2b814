import ChainRollback.Proofs.Rollback.Success
import ChainRollback.Proofs.Rollback.Successor
import Mathlib.Data.List.Chain

/-! # The stack of a node

The states that a node has executed and not rolled back make a stack with the genesis state at the
bottom. Its stores track the stack if the stored state agrees with the top, the history has the
records of every state, and the blocks held are those of the stack with at most one more above them.
Executing a block pushes a state. An aligned node that has the inputs of a rollback rebuilds the
state below the top.
-/
namespace ChainRollback
open Codec

variable {κ : Type}

/-- A state before the first block of its chain. -/
structure State.IsGenesis (s : State) : Prop where
  one_le : 1 ≤ s.initialHeight.toInt
  lastBlockHeight : s.lastBlockHeight.toInt = s.initialHeight.toInt - 1
  validators : s.validators.validators ≠ []
  nextValidators : s.nextValidators.validators ≠ []

/-- Three heights above this one are heights too. -/
def Height.IsLow (h : Height) : Prop := h.toInt < 0x7ffffffffffffffc

instance (h : Height) : Decidable h.IsLow := inferInstanceAs (Decidable (_ < _))

/-- Blocks and the states that executing them led to, down to a genesis state below all blocks. -/
inductive Executes : List BlockMeta → State → List State → Prop where
  | genesis {g : State} (hg : g.IsGenesis) : Executes [] g []
  | next {b : BlockMeta} {blocks : List BlockMeta} {s prev : State} {rest : List State}
    (h : Executes blocks prev rest) (hs : s.Succeeds prev) (he : s.Executed b)
    (hlow : b.height.IsLow) (hne : s.nextValidators.validators ≠ []) :
    Executes (b :: blocks) s (prev :: rest)

namespace Executes

variable {blocks : List BlockMeta} {top : State} {rest : List State}

theorem lt_top (h : Executes blocks top rest) :
    ∀ t ∈ rest, t.lastBlockHeight.toInt < top.lastBlockHeight.toInt := by
  induction h with
  | genesis => simp
  | next _ hs _ _ _ ih =>
    have hheight := hs.lastBlockHeight
    refine List.forall_mem_cons.mpr ⟨by omega, fun t ht => ?_⟩
    have hlt := ih t ht
    omega

theorem first_le (h : Executes blocks top rest) : 1 ≤ top.initialHeight.toInt ∧
    top.initialHeight.toInt ≤ top.lastBlockHeight.toInt + 1 := by
  induction h with
  | genesis hg =>
    have hheight := hg.lastBlockHeight
    exact ⟨hg.one_le, by omega⟩
  | next _ hs _ _ _ ih =>
    have hheight := hs.lastBlockHeight
    rw [hs.initialHeight]
    exact ⟨ih.1, by omega⟩

theorem tip_le (h : Executes blocks top rest) :
    (Run.tip blocks).toInt ≤ top.lastBlockHeight.toInt := by
  cases h with
  | genesis hg =>
    have hone := hg.one_le
    have hheight := hg.lastBlockHeight
    change 0 ≤ top.lastBlockHeight.toInt
    omega
  | next _ _ he _ _ => exact Int.le_of_eq (congrArg Int64.toInt he.height)

/-- Whatever the number of blocks, a block above them starts or continues a run from the first
height of the chain. -/
theorem base_cons {b : BlockMeta} (h : Executes blocks top rest)
    (hb : b.height.toInt = top.lastBlockHeight.toInt + 1) :
    Run.base (b :: blocks) = top.initialHeight := by
  induction h generalizing b with
  | genesis hg =>
    have hheight := hg.lastBlockHeight
    exact Int64.toInt_inj.mp (hb.trans (by omega))
  | next _ hs he _ _ ih =>
    have hheight := hs.lastBlockHeight
    rw [Run.base_cons_cons, ih (by rw [he.height]; exact hheight), hs.initialHeight]

theorem isChain (h : Executes blocks top rest) : (top :: rest).IsChain State.Succeeds := by
  induction h with
  | genesis => exact List.isChain_singleton _
  | next _ hs _ _ _ ih => exact List.isChain_cons_cons.mpr ⟨hs, ih⟩

theorem isGenesis_getLast? (h : Executes blocks top rest) :
    ∀ g ∈ (top :: rest).getLast?, g.IsGenesis := by
  induction h with
  | genesis hg =>
    rintro g ⟨⟩
    exact hg
  | next _ _ _ _ _ ih =>
    rw [List.getLast?_cons_cons]
    exact ih

theorem exists_executed (h : Executes blocks top rest) :
    ∀ t ∈ top :: rest, t.IsGenesis ∨ ∃ b ∈ blocks, t.Executed b := by
  induction h with
  | genesis hg => exact List.forall_mem_singleton.mpr (.inl hg)
  | @next b _ _ _ _ _ _ he _ _ ih =>
    refine List.forall_mem_cons.mpr ⟨.inr ⟨b, List.mem_cons_self, he⟩, fun t ht => ?_⟩
    rcases ih t ht with hg | ⟨a, ha, hta⟩
    · exact .inl hg
    · exact .inr ⟨a, List.mem_cons_of_mem b ha, hta⟩

theorem validators_ne_nil (h : Executes blocks top rest) : top.validators.validators ≠ [] ∧
    top.nextValidators.validators ≠ [] := by
  induction h with
  | genesis hg => exact ⟨hg.validators, hg.nextValidators⟩
  | next _ hs _ _ hne ih => exact ⟨hs.validators ▸ ih.2, hne⟩

end Executes

/-- A run holds some blocks, and at most one more, which is one above the top. -/
inductive AtMostOneAhead (top : State) (blocks : List BlockMeta) : List BlockMeta → Prop where
  | level : AtMostOneAhead top blocks blocks
  | ahead {b : BlockMeta} (hb : b.height.toInt = top.lastBlockHeight.toInt + 1)
    (hlow : b.height.IsLow) : AtMostOneAhead top blocks (b :: blocks)

/-- The stores of a node and the stack of its states, the top apart. -/
structure Tracks (n : Stores AnyStateStore AnyBlockStore κ) (top : State) (rest : List State) :
    Prop where
  states : ∃ c s, KeepsState n.states c ∧ c.state = some s ∧ s.Agrees top ∧
    ∀ t ∈ top :: rest, c.Records t
  blocks : ∃ run blocks, HoldsRun n.blocks run ∧ Executes blocks top rest ∧
    AtMostOneAhead top blocks run

/-- New stores follow the empty stack. -/
def Follows (n : Stores AnyStateStore AnyBlockStore κ) : List State → Prop
  | [] => KeepsState n.states {} ∧ HoldsRun n.blocks []
  | top :: rest => Tracks n top rest

variable {n left : Stores AnyStateStore AnyBlockStore κ} {top s : State} {rest : List State}
variable {blocks run : List BlockMeta} {i : RollbackInputs} {b : BlockMeta}

theorem AtMostOneAhead.eq_cons (ha : AtMostOneAhead top blocks run) (hr : IsRun run)
    (hx : Executes blocks top rest) (hb : b ∈ run)
    (hheight : b.height.toInt = top.lastBlockHeight.toInt + 1) :
    run = b :: blocks ∧ b.height.IsLow := by
  have hle := hx.tip_le
  cases ha with
  | level =>
    exfalso
    cases blocks with
    | nil => cases hb
    | cons a _ =>
      change a.height.toInt ≤ _ at hle
      rcases List.mem_cons.mp hb with rfl | hmem
      · omega
      · have hlt := hr.lt_head b hmem
        omega
  | @ahead a ha hlow =>
    rcases List.mem_cons.mp hb with rfl | hmem
    · exact ⟨rfl, hlow⟩
    · have hlt := hr.lt_head b hmem
      omega

theorem AtMostOneAhead.eq_level (ha : AtMostOneAhead top blocks run)
    (htip : Run.tip run = top.lastBlockHeight) : run = blocks := by
  cases ha with
  | level => rfl
  | ahead hb _ =>
    exfalso
    have htip' := congrArg Int64.toInt htip
    change Int64.toInt (BlockMeta.height _) = _ at htip'
    omega

theorem Tracks.genesis {states : AnyStateStore} (h : Follows n []) (hg : s.IsGenesis)
    (hf : s.Fits) (hsave : StateStore.save n.states s = .ok states) :
    Tracks { n with states := states } s [] := by
  have hheight := hg.lastBlockHeight
  have hrecords : (StateContents.save {} s).Records s := StateContents.records_save fun h hh =>
    .inl (Int64.toInt_inj.mp (by omega))
  exact ⟨⟨_, s, h.1.recorded hf (.of_save hsave), rfl, .refl s,
    List.forall_mem_singleton.mpr hrecords⟩, [], [], h.2, .genesis hg, .level⟩

theorem Tracks.load_eq (h : Tracks n top rest) (hs : StateStore.load n.states = .ok (some s)) :
    ∃ c, KeepsState n.states c ∧ c.state = some s ∧ s.Agrees top ∧
      ∀ t ∈ top :: rest, c.Records t := by
  obtain ⟨c, s', hk, hc, hagrees, hrecords⟩ := h.states
  have hload := hk.load_eq
  rw [hs, Except.ok.injEq, hc, Option.some.injEq] at hload
  subst hload
  exact ⟨c, hk, hc, hagrees, hrecords⟩

theorem Tracks.append {store : AnyBlockStore} (h : Tracks n top rest)
    (hs : StateStore.load n.states = .ok (some s))
    (hb : b.height.toInt = s.lastBlockHeight.toInt + 1)
    (hnone : ∀ h : Height, s.lastBlockHeight.toInt < h.toInt →
      BlockStore.loadMeta n.blocks h = .ok none)
    (hlow : b.height.IsLow) (hf : b.Fits) (happend : BlockLog.append n.blocks b = .ok store) :
    Tracks { n with blocks := store } top rest := by
  obtain ⟨c, hk, hc, hagrees, hrecords⟩ := h.load_eq hs
  obtain ⟨run, blocks, hrun, hx, hahead⟩ := h.blocks
  rw [hagrees.lastBlockHeight] at hb hnone
  have hfirst := hx.first_le
  have hlevel : run = blocks := by
    cases hahead with
    | level => rfl
    | @ahead a ha _ =>
      have hload := hrun.loadMeta_eq_some.mpr ⟨List.mem_cons_self, rfl⟩
      rw [hnone a.height (by omega)] at hload
      cases hload
  subst hlevel
  exact ⟨h.states, b :: run, run, hrun.append (by omega) hf happend, hx, .ahead hb hlow⟩

theorem Tracks.execute {prev : State} {states : AnyStateStore} (h : Tracks n top rest)
    (hp : StateStore.load n.states = .ok (some prev)) (hs : s.Succeeds prev)
    (hb : BlockStore.loadMeta n.blocks s.lastBlockHeight = .ok (some b)) (he : s.Executed b)
    (hne : s.nextValidators.validators ≠ []) (hf : s.Fits)
    (hsave : StateStore.save n.states s = .ok states) :
    Tracks { n with states := states } s (top :: rest) := by
  obtain ⟨c, hk, -, hagrees, hrecords⟩ := h.load_eq hp
  obtain ⟨run, blocks, hrun, hx, hahead⟩ := h.blocks
  have hs' : s.Succeeds top := hs.of_agrees hagrees
  have hheight := hs'.lastBlockHeight
  obtain ⟨hmem, hbs⟩ := hrun.loadMeta_eq_some.mp hb
  obtain ⟨rfl, hlow⟩ := hahead.eq_cons hrun.isRun hx hmem (by rw [hbs]; exact hheight)
  have hx' : Executes (b :: blocks) s (top :: rest) := .next hx hs' he hlow hne
  -- The set of the next height was recorded with the state below.
  have hrecorded : (c.save s).Records s := StateContents.records_save fun h hh => .inr <| by
    rw [hs'.validators]
    exact (hrecords top List.mem_cons_self).nextValidators h (by omega)
  have hfirst := hx.first_le
  rw [← hs'.initialHeight] at hfirst
  have hkept : ∀ t ∈ top :: rest, (c.save s).Records t := fun t ht =>
    (hrecords t ht).save (hx'.lt_top t ht) (by omega)
  exact ⟨⟨c.save s, s, hk.recorded hf (.of_save hsave), rfl, .refl s,
    List.forall_mem_cons.mpr ⟨hrecorded, hkept⟩⟩, _, _, hrun, hx', .level⟩

/-- The last step of an aligned node that has the inputs of a rollback, and the state below it,
with which the rebuilt state agrees. -/
structure LastStep (n : Stores AnyStateStore AnyBlockStore κ) (top : State) (rest : List State)
    (i : RollbackInputs) (b : BlockMeta) (blocks : List BlockMeta) (prev : State)
    (lower : List State) : Prop where
  rest_eq : rest = prev :: lower
  lower_ne : lower ≠ []
  holds : HoldsRun n.blocks (b :: blocks)
  succeeds : top.Succeeds prev
  executed : top.Executed b
  isLow : b.height.IsLow
  executes : Executes blocks prev lower
  rebuilt : ∀ build, (reconstruct i build).Agrees prev

theorem Tracks.exists_lastStep (h : Tracks n top rest) (hi : AlignedAt n.states n.blocks i) :
    ∃ b blocks prev lower, LastStep n top rest i b blocks prev lower := by
  obtain ⟨c, hk, -, hagrees, hrecords⟩ := h.load_eq (loadState_eq_ok.mp hi.loadState).1
  obtain ⟨run, blocks, hrun, hx, hahead⟩ := h.blocks
  obtain ⟨below, hg⟩ := hi.gathered
  have hbelow := hg.below_toInt
  obtain ⟨hblock, hblockHeight⟩ := hrun.loadMeta_eq_some.mp hg.rollbackBlock
  have htip := hi.height
  rw [hrun.height_eq, Except.ok.injEq, hagrees.lastBlockHeight] at htip
  obtain rfl := hahead.eq_level htip
  rw [hagrees.lastBlockHeight] at hbelow
  cases hx with
  | genesis => cases hblock
  | @next b blocks _ prev lower hx hs he hlow hne =>
    have hheight := hs.lastBlockHeight
    have hprev : below = prev.lastBlockHeight := Int64.toInt_inj.mp (by omega)
    -- The block rolled back to is below the newest.
    have hmem : i.rollbackBlock ∈ blocks := by
      rcases List.mem_cons.mp hblock with hsame | hmem
      · have htop := congrArg Int64.toInt he.height
        rw [← hsame, hblockHeight] at htop
        omega
      · exact hmem
    cases hx with
    | genesis => cases hmem
    | @next a blocks _ lowest lower hx hs' he' hlow' hne' =>
      have hsame : i.rollbackBlock = a := by
        refine hrun.isRun.tail.eq_of_height_eq hmem List.mem_cons_self ?_
        rw [hblockHeight, hprev, he'.height]
      have hlowest := hs'.lastBlockHeight
      have hset := hk.loadValidators_eq_ok.mp hg.validators
      rw [(hrecords lowest (by simp)).validators below (by rw [hprev]; exact hlowest),
        Option.some.injEq] at hset
      have hparams := hk.loadParams_eq_ok.mp hg.params
      rw [(hrecords prev (by simp)).params _ (by rw [hagrees.lastBlockHeight]; exact hheight),
        Option.some.injEq] at hparams
      exact ⟨b, _, prev, _, rfl, by simp, hrun, hs, he, hlow, .next hx hs' he' hlow' hne',
        fun build => agrees_reconstruct build (hagrees.succeeds hs) (hsame ▸ he')
          (hset.symm.trans hs'.lastValidators.symm) hparams.symm⟩

theorem Tracks.exists_save {build : BuildVersion} {blocks : List BlockMeta} {prev : State}
    {lower : List State} (h : Tracks n top rest) (hi : AlignedAt n.states n.blocks i)
    (hstep : LastStep n top rest i b blocks prev lower) (hbuild : TextFits build.software) :
    ∃ states, StateStore.save n.states (reconstruct i build) = .ok states ∧
      ∃ c s, KeepsState states c ∧ c.state = some s ∧ s.Agrees prev ∧
        ∀ t ∈ top :: rest, c.Records t := by
  obtain ⟨c, hk, -, hagrees, hrecords⟩ := h.load_eq (loadState_eq_ok.mp hi.loadState).1
  have hmem : prev ∈ top :: rest := by simp [hstep.rest_eq]
  have hrecorded : c.Records (reconstruct i build) :=
    (hrecords prev hmem).of_agrees (hstep.rebuilt build)
  have hhigh : i.invalid.lastBlockHeight.toInt < 0x7fffffffffffffff := by
    have hlow : b.height.toInt < 0x7ffffffffffffffc := hstep.isLow
    rw [hagrees.lastBlockHeight, ← hstep.executed.height]
    omega
  obtain ⟨states, hsave⟩ := hk.exists_save (hi.hasRoom hstep.holds.files build hhigh)
  have hk' := hk.recorded (hi.fits hk hstep.holds.files hbuild) (.of_save hsave)
  rw [hrecorded.save_eq] at hk'
  refine ⟨states, hsave, _, _, hk', rfl, hstep.rebuilt build, fun t ht => ?_⟩
  exact ⟨(hrecords t ht).validators, (hrecords t ht).nextValidators, (hrecords t ht).params⟩

theorem Tracks.pending (h : Tracks n top rest) (hp : PendingAt n.states n.blocks s) :
    ∃ b blocks, HoldsRun n.blocks (b :: blocks) ∧ Executes blocks top rest ∧
      b.height.toInt = top.lastBlockHeight.toInt + 1 := by
  obtain ⟨c, -, -, hagrees, -⟩ := h.load_eq (loadState_eq_ok.mp hp.loadState).1
  obtain ⟨run, blocks, hrun, hx, hahead⟩ := h.blocks
  obtain ⟨tip, htip, hheight⟩ := hp.height
  rw [hrun.height_eq, Except.ok.injEq] at htip
  rw [hagrees.lastBlockHeight, ← htip] at hheight
  cases hahead with
  | level =>
    have hle := hx.tip_le
    omega
  | @ahead b hb _ => exact ⟨b, blocks, hrun, hx, hb⟩

theorem Follows.load_eq_none (h : Follows n []) : StateStore.load n.states = .ok none :=
  h.1.load_eq

theorem Follows.loadState_ne_ok (h : Follows n []) : loadState n.states ≠ .ok s := by
  intro hs
  have hload := (loadState_eq_ok.mp hs).1
  rw [h.load_eq_none] at hload
  cases hload

theorem Tracks.loadState (h : Tracks n top rest) :
    ∃ s, ChainRollback.loadState n.states = .ok s ∧ s.Agrees top := by
  obtain ⟨c, s, hk, hc, hagrees, -⟩ := h.states
  obtain ⟨run, blocks, -, hx, -⟩ := h.blocks
  have hempty : s.isEmpty = false := by
    rw [State.isEmpty, hagrees.validators]
    exact State.isEmpty_eq_false.mpr hx.validators_ne_nil.1
  exact ⟨s, loadState_eq_ok.mpr ⟨hc ▸ hk.load_eq, hempty⟩, hagrees⟩

/-- A node that has executed two blocks or more and holds no other has the inputs of a rollback. -/
theorem Tracks.exists_alignedAt (h : Tracks n top rest) (hrun : HoldsRun n.blocks blocks)
    (hx : Executes blocks top rest) (hlength : 2 ≤ rest.length) :
    ∃ i, AlignedAt n.states n.blocks i := by
  obtain ⟨c, s, hk, hc, hagrees, hrecords⟩ := h.states
  obtain ⟨s', hs', -⟩ := h.loadState
  have hload := (loadState_eq_ok.mp hs').1
  rw [hk.load_eq, hc, Except.ok.injEq, Option.some.injEq] at hload
  subst hload
  cases hx with
  | genesis => simp at hlength
  | @next b _ _ prev _ hx hs he _ _ =>
    cases hx with
    | genesis => simp at hlength
    | @next a blocks _ lowest lower hx hs₁ he₁ _ _ =>
      have hheight := hs.lastBlockHeight
      have hheight₁ := hs₁.lastBlockHeight
      have hlatest : BlockStore.loadMeta n.blocks s.lastBlockHeight = .ok (some b) :=
        hrun.loadMeta_eq_some.mpr ⟨List.mem_cons_self, he.height.trans hagrees.lastBlockHeight.symm⟩
      have hrollback : BlockStore.loadMeta n.blocks prev.lastBlockHeight = .ok (some a) :=
        hrun.loadMeta_eq_some.mpr ⟨List.mem_cons_of_mem b List.mem_cons_self, he₁.height⟩
      have hset := hk.loadValidators_eq_ok.mpr
        ((hrecords lowest (by simp)).validators prev.lastBlockHeight hheight₁)
      have hparams := hk.loadParams_eq_ok.mpr ((hrecords prev (by simp)).params s.lastBlockHeight
        (by rw [hagrees.lastBlockHeight]; exact hheight))
      have htip : BlockStore.height n.blocks = .ok s.lastBlockHeight := by
        rw [hrun.height_eq, hagrees.lastBlockHeight]
        exact congrArg Except.ok he.height
      have hbelow : prev.lastBlockHeight.toInt = s.lastBlockHeight.toInt - 1 := by
        rw [hagrees.lastBlockHeight]
        omega
      exact ⟨⟨s, a, b, _, _, false⟩, hs', htip, prev.lastBlockHeight, hbelow, hrollback, hlatest,
        hset, hparams⟩

end ChainRollback
