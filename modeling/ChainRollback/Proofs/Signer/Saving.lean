import ChainRollback.Proofs.Signer.Members
import ChainRollback.Proofs.Signer.Reset

/-! # What was saved is loaded again

A saved file contains the text of what was saved, and reading that text gives it back, so nothing of
a sign state is lost: a signature that is absent stays absent, and one that is empty stays empty.
-/
namespace ChainRollback
open FileTree

section
variable {t t' : FileTree} {p text : String}

theorem FileTree.writeText_of_replace {r : Except IoError Unit}
    (h : t.replace p (Utf8.encode text) = (r, t')) :
    t.writeText p text = (r.mapError (.write p), t') := by
  rw [writeText, h]

/-- Writing a text fails and has touched the temporary only, or the text has replaced the file. -/
theorem FileTree.writeText_cases (t : FileTree) (p text : String) :
    (∃ e t', t.writeText p text = (.error e, t') ∧ ChangesOnly (t.LeadsTo (temporary p)) t t') ∨
      ∃ t', t.writeText p text = (.ok (), t') ∧ t.Replaced t' p (Utf8.encode text) := by
  rcases t.replace_cases p (Utf8.encode text) with ⟨e, t', h, hchanges⟩ | ⟨t', h, hreplaced⟩
  · exact .inl ⟨.write p e, t', writeText_of_replace h, hchanges⟩
  · exact .inr ⟨t', writeText_of_replace h, hreplaced⟩

theorem FileTree.replaced_of_writeText (h : t.writeText p text = (.ok (), t')) :
    t.Replaced t' p (Utf8.encode text) := by
  rcases t.writeText_cases p text with ⟨e, t'', h', -⟩ | ⟨t'', h', hreplaced⟩
  · cases h.symm.trans h'
  · cases h.symm.trans h'
    exact hreplaced

/-- A file that is there or can be made, and so is its temporary. -/
def FileTree.CanReplace (t : FileTree) (p : String) : Prop :=
  ∃ a l, t.LeadsTo (temporary p) a ∧ t.find? a ≠ some .directory ∧
    t.LeadsTo p l ∧ t.find? l ≠ some .directory

theorem FileTree.CanReplace.exists_writeText (h : t.CanReplace p) (text : String) :
    ∃ t', t.writeText p text = (.ok (), t') := by
  obtain ⟨a, l, ha, hnot, hl, hnot'⟩ := h
  obtain ⟨t', hreplace, -⟩ := exists_replace (Utf8.encode text) ha hnot hl hnot'
  exact ⟨t', writeText_of_replace hreplace⟩

theorem FileTree.readRecord_of_writeText {α : Type} {parse : Bytes → Except Json.Fault α} {v : α}
    (h : t.writeText p text = (.ok (), t')) (hp : parse (Utf8.encode text) = .ok v) :
    t'.readRecord p parse = .ok v :=
  readRecord_eq_ok.mpr ⟨text, (replaced_of_writeText h).content, hp⟩

end

namespace SignState
open Json

variable {s s' : SignState}

theorem tells_members (s : SignState) : Tells (s.members.map memberOf) s := by
  obtain ⟨height, round, step, signature, signbytes⟩ := s
  cases signature with
  | none => exact ⟨_, _, .null, .hex (Hex.spells_encode signbytes), .refl _⟩
  | some b => exact ⟨_, _, .hex (Hex.spells_encode b), .hex (Hex.spells_encode signbytes), .refl _⟩

theorem isPlainText_members (s : SignState) : ∀ m ∈ s.members, IsPlainText m.1 := by
  have hnames : ∀ n ∈ s.members.map Prod.fst, IsPlainText n := by
    change ∀ n ∈ memberNames, IsPlainText n
    decide
  exact fun m hm => hnames m.1 (List.mem_map_of_mem hm)

theorem parse_pretty (s : SignState) : parse (Utf8.encode s.pretty) = .ok s :=
  parse_of_tells (objectText_pretty s.isPlainText_members) s.tells_members

theorem parse_compact (s : SignState) : parse (Utf8.encode s.compact) = .ok s :=
  parse_of_tells (objectText_compact s.isPlainText_members) s.tells_members

theorem pretty_injective (h : s.pretty = s'.pretty) : s = s' := by
  have hs := parse_pretty s
  rw [h, parse_pretty s'] at hs
  exact (Except.ok.inj hs).symm

theorem compact_injective (h : s.compact = s'.compact) : s = s' := by
  have hs := parse_compact s
  rw [h, parse_compact s'] at hs
  exact (Except.ok.inj hs).symm

end SignState

/-- Both texts of a sign state are read as that state, so two states never share one. What any text
was read as is read again from either text of it, and what was saved in a file is loaded from it. -/
theorem SignState.saving_loses_nothing :
    (∀ s : SignState, parse (Utf8.encode s.pretty) = .ok s ∧
      parse (Utf8.encode s.compact) = .ok s) ∧
    (∀ s s' : SignState, s.pretty = s'.pretty ∨ s.compact = s'.compact → s = s') ∧
    (∀ (text : Bytes) (s : SignState), parse text = .ok s →
      parse (Utf8.encode s.pretty) = .ok s ∧ parse (Utf8.encode s.compact) = .ok s) ∧
    ∀ (s : SignState) (t : FileTree) (p : String),
      (t.CanReplace p → ∃ t', s.save t p = (.ok (), t')) ∧
      ∀ t', s.save t p = (.ok (), t') → load t' p = .ok s := by
  have hparse (s : SignState) : parse (Utf8.encode s.pretty) = .ok s ∧
      parse (Utf8.encode s.compact) = .ok s := ⟨parse_pretty s, parse_compact s⟩
  refine ⟨hparse, ?_, fun _ s _ => hparse s, fun s t p => ⟨?_, ?_⟩⟩
  · rintro s s' (h | h)
    · exact pretty_injective h
    · exact compact_injective h
  · exact fun h => h.exists_writeText s.pretty
  · exact fun t' h => readRecord_of_writeText h (parse_pretty s)

theorem SignedOnce.canReplace_stateFile : tree.CanReplace files.stateFile := by
  refine ⟨_, _, temporary_leadsTo, ?_, stateFile_leadsTo, ?_⟩ <;>
  · intro h
    cases h

theorem SignState.saving_loses_nothing_of_signed :
    (∃ t', SignedOnce.signed.save SignedOnce.tree SignedOnce.files.stateFile = (.ok (), t') ∧
      load t' SignedOnce.files.stateFile = .ok SignedOnce.signed) ∧
    ∃ s, parse (Utf8.encode "\x7b\"step\":1,\"path\":[],\"round\":0,\"height\":-1\x7d") = .ok s ∧
      parse (Utf8.encode s.pretty) = .ok s := by
  obtain ⟨-, -, hagain, hfiles⟩ := saving_loses_nothing
  obtain ⟨hsave, hload⟩ := hfiles SignedOnce.signed SignedOnce.tree SignedOnce.files.stateFile
  obtain ⟨t', ht'⟩ := hsave SignedOnce.canReplace_stateFile
  have htext : parse (Utf8.encode "\x7b\"step\":1,\"path\":[],\"round\":0,\"height\":-1\x7d") =
      .ok { height := -1, step := .propose } := parse_encode (by decide +kernel)
  exact ⟨⟨t', ht', hload t' ht'⟩, _, htext, (hagain _ _ htext).1⟩

end ChainRollback
