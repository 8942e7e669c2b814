import ChainRollback.Proofs.Rollback.Level

/-! # Every moment of a rollback is one to start again from

A node can stop before the first write of a rollback, between two of them, or after the last. At
each of these moments the block store is level with the stored state or one block ahead of it, and it
holds the block of that state. The checkpoint is as it was for as long as the old tip is held.
-/
namespace ChainRollback
open Codec

section
variable {σ β κ : Type} [StateStore σ] [BlockStore β] [Checkpoint κ]
variable {n : Stores σ β κ} {writes : List Write} {i : RollbackInputs} {build : BuildVersion}

/-- The stores before, between and after some writes, up to the first that fails and what it
leaves. -/
def Stores.moments (n : Stores σ β κ) : List Write → List (Stores σ β κ)
  | [] => [n]
  | w :: rest =>
    n :: match n.perform w with
      | (.ok _, m) => m.moments rest
      | (.error _, m) => [m]

theorem Stores.getLast?_moments (n : Stores σ β κ) (writes : List Write) :
    (n.moments writes).getLast? = some (n.performAll writes).2 := by
  induction writes generalizing n with
  | nil => rfl
  | cons w rest ih =>
    rw [moments, performAll]
    rcases n.perform w with ⟨_ | _, m⟩
    · rfl
    · have hne : m.moments rest ≠ [] := by
        intro he
        have hlast := ih m
        simp [he] at hlast
      simp only [List.getLast?_cons, ih m, Option.getD_some]

theorem Stores.getLast?_moments_plan {removeBlock : Bool} {plan : Plan}
    (h : planRollback n.states n.blocks removeBlock build = .ok plan) :
    (n.moments plan.writes).getLast? = some (n.rollback removeBlock build).2 := by
  rw [getLast?_moments]
  simp only [rollback, h]

/-- The moments of a rollback of an aligned node whose stores accept its writes. The last is there
also if the checkpoint refuses its reset. -/
theorem Stores.moments_aligned {states : σ} {blocks : β}
    (hs : StateStore.save n.states (reconstruct i build) = .ok states)
    (hd : BlockStore.deleteLatest n.blocks = .ok blocks) :
    n.moments (Plan.aligned i build).writes = n :: { n with states := states } ::
      if i.removeBlock then [⟨states, blocks, n.checkpoint⟩,
        ⟨states, blocks, (Checkpoint.reset n.checkpoint).2⟩] else [] := by
  cases hr : i.removeBlock with
  | false => simp [Plan.aligned, hr, moments, perform, hs]
  | true =>
    simp only [Plan.aligned, hr, if_true, moments, perform, hs, hd]
    rcases Checkpoint.reset n.checkpoint with ⟨_ | _, c⟩ <;> rfl

def Stores.HoldsBlock (n : Stores σ β κ) (h : Height) : Prop :=
  ∃ b, BlockStore.loadMeta n.blocks h = .ok (some b)

/-- The heights of the stores are legal: the block store is level with the stored state or one block
ahead, and it holds the block of that state. -/
structure Stores.LegalAt (n : Stores σ β κ) (s : State) (tip : Height) : Prop where
  load : StateStore.load n.states = .ok (some s)
  height : BlockStore.height n.blocks = .ok tip
  classified : classify s.lastBlockHeight tip = .ok .pendingBlock ∨
    classify s.lastBlockHeight tip = .ok .aligned
  le : s.lastBlockHeight.toInt ≤ tip.toInt
  held : n.HoldsBlock s.lastBlockHeight

omit [Checkpoint κ] in
theorem Stores.LegalAt.of_ahead {s : State} {tip : Height}
    (hs : StateStore.load n.states = .ok (some s)) (hh : BlockStore.height n.blocks = .ok tip)
    (hahead : tip.toInt = s.lastBlockHeight.toInt + 1) (hheld : n.HoldsBlock s.lastBlockHeight) :
    n.LegalAt s tip :=
  ⟨hs, hh, .inl (classify_eq_pendingBlock.mpr hahead), by omega, hheld⟩

omit [Checkpoint κ] in
theorem Stores.LegalAt.of_level {s : State} (hs : StateStore.load n.states = .ok (some s))
    (hh : BlockStore.height n.blocks = .ok s.lastBlockHeight)
    (hheld : n.HoldsBlock s.lastBlockHeight) : n.LegalAt s s.lastBlockHeight :=
  ⟨hs, hh, .inr (classify_eq_aligned.mpr rfl), Int.le_refl _, hheld⟩

omit [Checkpoint κ] in
theorem AlignedAt.legalAt (h : AlignedAt n.states n.blocks i) :
    n.LegalAt i.invalid i.invalid.lastBlockHeight := by
  obtain ⟨below, hg⟩ := h.gathered
  exact .of_level (loadState_eq_ok.mp h.loadState).1 h.height ⟨_, hg.latestBlock⟩

end

section
variable {κ : Type} [Checkpoint κ] {n : Stores AnyStateStore AnyBlockStore κ}
variable {i : RollbackInputs} {build : BuildVersion}
variable {states : AnyStateStore} {blocks : AnyBlockStore}

theorem AlignedAt.loadMeta_rebuilt {a : AnyStateStore} {b : AnyBlockStore}
    {f : Height → Option BlockMeta} (h : AlignedAt a b i) (hf : FilesBlocks b f)
    (build : BuildVersion) :
    BlockStore.loadMeta b (reconstruct i build).lastBlockHeight = .ok (some i.rollbackBlock) := by
  obtain ⟨below, hg⟩ := h.gathered
  have hheight := (h.rebuiltFrom hf build).lastBlockHeight
  have hsame : (reconstruct i build).lastBlockHeight = below :=
    Int64.toInt_inj.mp (hheight.trans hg.below_toInt.symm)
  rw [hsame]
  exact hg.rollbackBlock

omit [Checkpoint κ] in
theorem AlignedAt.legalAt_saved (h : AlignedAt n.states n.blocks i)
    {f : Height → Option BlockMeta} (hf : FilesBlocks n.blocks f) (hbuild : TextFits build.software)
    (hs : StateStore.save n.states (reconstruct i build) = .ok states) :
    ({ n with states := states } : Stores AnyStateStore AnyBlockStore κ).LegalAt
      (reconstruct i build) i.invalid.lastBlockHeight := by
  have hheight := (h.rebuiltFrom hf build).lastBlockHeight
  exact .of_ahead (h.load_saved hf.atOwnHeights.fits hbuild hs) h.height (by omega)
    ⟨_, h.loadMeta_rebuilt hf build⟩

omit [Checkpoint κ] in
/-- With the block deleted as well, the stores are level one height lower, whatever has become of
the checkpoint. -/
theorem AlignedAt.legalAt_deleted (h : AlignedAt n.states n.blocks i)
    (hb : BuiltBlocks Height.IsPositive n.blocks) (hbuild : TextFits build.software)
    (hs : StateStore.save n.states (reconstruct i build) = .ok states)
    (hd : BlockStore.deleteLatest n.blocks = .ok blocks) (c : κ) :
    (⟨states, blocks, c⟩ : Stores AnyStateStore AnyBlockStore κ).LegalAt (reconstruct i build)
        (reconstruct i build).lastBlockHeight ∧
      ¬(⟨states, blocks, c⟩ : Stores AnyStateStore AnyBlockStore κ).HoldsBlock
        i.invalid.lastBlockHeight := by
  obtain ⟨k, hk⟩ := hb.keeps
  obtain ⟨-, hremoves⟩ := hk.removesTip h.height hd
  have hload := h.load_saved hk.files.atOwnHeights.fits hbuild hs
  obtain ⟨s, hs', hlevel⟩ := isLevel_of_aligned (c := c) h hb hbuild hs hd
  cases hload.symm.trans hs'
  have hheight := (h.rebuiltFrom hk.files build).lastBlockHeight
  constructor
  · apply Stores.LegalAt.of_level hload hlevel
    refine ⟨i.rollbackBlock, ?_⟩
    have hne : (reconstruct i build).lastBlockHeight ≠ i.invalid.lastBlockHeight := by
      intro he
      rw [he] at hheight
      omega
    rw [hremoves.loadMeta, if_neg hne]
    exact h.loadMeta_rebuilt hk.files build
  · rintro ⟨b, hblock⟩
    rw [hremoves.loadMeta, if_pos rfl] at hblock
    cases hblock

def TwoBlocks.inputs : RollbackInputs := ⟨state, block 1, block 2, set, {}, true⟩

/-- A rollback of aligned stores that hold its inputs makes all of its writes, unless the checkpoint
refuses the last. At every moment of it the heights are legal, and the checkpoint has not changed
while the block of the replaced state is held. -/
theorem legal_at_every_moment (n : Stores AnyStateStore AnyBlockStore κ) (build : BuildVersion)
    (hbuild : TextFits build.software) (hs : BuiltStates n.states)
    (hb : BuiltBlocks Height.IsPositive n.blocks) {i : RollbackInputs}
    (hi : AlignedAt n.states n.blocks i)
    (hhigh : i.invalid.lastBlockHeight.toInt < 0x7fffffffffffffff) :
    ∃ plan, planRollback n.states n.blocks i.removeBlock build = .ok plan ∧
      (n.moments plan.writes).length = plan.writes.length + 1 ∧
      (n.moments plan.writes).getLast? = some (n.rollback i.removeBlock build).2 ∧
      ∀ m ∈ n.moments plan.writes, (∃ s tip, m.LegalAt s tip) ∧
        (m.HoldsBlock i.invalid.lastBlockHeight → m.checkpoint = n.checkpoint) := by
  obtain ⟨c, ha⟩ := hs.keeps
  obtain ⟨k, hk⟩ := hb.keeps
  have hplan : planRollback n.states n.blocks i.removeBlock build = .ok (.aligned i build) :=
    planRollback_eq_ok.mpr (.aligned hi rfl)
  obtain ⟨states, hsave⟩ := ha.exists_save (hi.hasRoom hk.files build hhigh)
  have hlow : 1 ≤ i.invalid.lastBlockHeight.toInt := by
    have htwo := hi.two_le hk
    omega
  obtain ⟨blocks, -, hdelete, -, -⟩ := hk.exists_deleteLatest hi.height hlow
  have hmoments := Stores.moments_aligned hsave hdelete
  refine ⟨_, hplan, ?_, Stores.getLast?_moments_plan hplan, ?_⟩
  · rw [hmoments]
    cases hr : i.removeBlock <;> simp [Plan.aligned, hr]
  · intro m hm
    have hsaved := hi.legalAt_saved (n := n) hk.files hbuild hsave
    have hdeleted := fun c => hi.legalAt_deleted hb hbuild hsave hdelete c
    rw [hmoments] at hm
    rcases List.mem_cons.mp hm with rfl | hm
    · exact ⟨⟨_, _, hi.legalAt⟩, fun _ => rfl⟩
    rcases List.mem_cons.mp hm with rfl | hm
    · exact ⟨⟨_, _, hsaved⟩, fun _ => rfl⟩
    cases hr : i.removeBlock with
    | false => simp [hr] at hm
    | true =>
      simp only [hr, if_true, List.mem_cons, List.not_mem_nil, or_false] at hm
      rcases hm with rfl | rfl
      · exact ⟨⟨_, _, (hdeleted _).1⟩, fun held => absurd held (hdeleted _).2⟩
      · exact ⟨⟨_, _, (hdeleted _).1⟩, fun held => absurd held (hdeleted _).2⟩

theorem legal_at_every_moment_of_two_blocks :
    AlignedAt TwoBlocks.node.states TwoBlocks.node.blocks TwoBlocks.inputs ∧
    ∃ plan, planRollback TwoBlocks.node.states TwoBlocks.node.blocks true .current = .ok plan ∧
      (TwoBlocks.node.moments plan.writes).length = plan.writes.length + 1 ∧
      (TwoBlocks.node.moments plan.writes).getLast? =
        some (TwoBlocks.node.rollback true .current).2 ∧
      ∀ m ∈ TwoBlocks.node.moments plan.writes, (∃ s tip, m.LegalAt s tip) ∧
        (m.HoldsBlock 2 → m.checkpoint = TwoBlocks.node.checkpoint) := by
  have hbuild : TextFits BuildVersion.current.software := by decide +kernel
  have hb : BuiltBlocks Height.IsPositive TwoBlocks.node.blocks :=
    TwoBlocks.built_blocks (by decide) (by decide)
  have hi : AlignedAt TwoBlocks.node.states TwoBlocks.node.blocks TwoBlocks.inputs :=
    ⟨rfl, rfl, 1, rfl, rfl, rfl, rfl, rfl⟩
  exact ⟨hi, legal_at_every_moment TwoBlocks.node .current hbuild TwoBlocks.built_states hb hi
    (by decide)⟩

end
end ChainRollback
