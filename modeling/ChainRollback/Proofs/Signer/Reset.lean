import ChainRollback.Proofs.FileTree.Replace
import ChainRollback.Proofs.Text.Utf8
import ChainRollback.Signer.Files

/-! # A reset clears the sign state or leaves it

A reset reads both validator files and then replaces the one of the sign state. Whether it
succeeds, fails or is stopped on the way, the key file is as it was, and the sign state is the old
one in full or one that has signed nothing.
-/
namespace ChainRollback
open FileTree

section
variable {t t' : FileTree} {p : String}

theorem FileTree.readText_eq_ok {text : String} :
    t.readText p = .ok text ↔ t.nodeAt? p = some (.file (Utf8.encode text)) := by
  simp only [readText, bind_eq_ok, nodeAt?_eq_some, LeadsTo]
  refine exists_congr fun l => and_congr_right fun _ => ?_
  split
  · simp [*]
  · simp [*]
  · simp [*]
  · rename_i content hl
    simp only [mapError_eq_ok, Utf8.decode_eq_ok, hl, Option.some.injEq, Node.file.injEq]

/-- A record is read from the content of its file. -/
theorem FileTree.readRecord_eq_ok {α : Type} {parse : Bytes → Except Json.Fault α} {v : α} :
    t.readRecord p parse = .ok v ↔
      ∃ text, t.nodeAt? p = some (.file (Utf8.encode text)) ∧ parse (Utf8.encode text) = .ok v := by
  simp only [readRecord, bind_eq_ok, mapError_eq_ok, readText_eq_ok]

/-- What a file that was reset contains. -/
def SignState.cleared : Bytes := Utf8.encode ({} : SignState).pretty

/-- What a text parses as can be computed from its bytes. -/
theorem parse_encode {α : Type} {parse : Bytes → Except Json.Fault α} {text : String} {v : α}
    (h : (parse text.toByteArray.data.toList).toOption = some v) :
    parse (Utf8.encode text) = .ok v := by
  rw [Utf8.encode_eq_data]
  exact toOption_eq_some.mp h

theorem SignState.parse_cleared : parse cleared = .ok {} := parse_encode (by decide +kernel)

theorem SignState.load_cleared (h : t.nodeAt? p = some (.file cleared)) : load t p = .ok {} :=
  readRecord_eq_ok.mpr ⟨_, h, parse_cleared⟩

theorem ValidatorKey.load_eq_ok {prim : Primitives} {key : ValidatorKey} :
    load prim t p = .ok key ↔
      ∃ r, t.readRecord p KeyRecord.parse = .ok r ∧ ofRecord prim r = .ok key := by
  simp only [load, bind_eq_ok, mapError_eq_ok]

theorem ValidatorKey.load_of_nodeAt?_eq {prim : Primitives} {key : ValidatorKey}
    (h : t'.nodeAt? p = t.nodeAt? p) (hkey : load prim t p = .ok key) :
    load prim t' p = .ok key := by
  simp only [load_eq_ok, readRecord_eq_ok] at hkey ⊢
  rwa [h]

theorem Signer.load_eq_ok {prim : Primitives} {files : SignerFiles} {s : Signer} :
    Signer.load prim t files = .ok s ↔ ValidatorKey.load prim t files.keyFile = .ok s.key ∧
      SignState.load t files.stateFile = .ok s.state := by
  simp only [load, bind_eq_ok, pure_eq_ok]
  constructor
  · rintro ⟨key, hkey, state, hstate, rfl⟩
    exact ⟨hkey, hstate⟩
  · rintro ⟨hkey, hstate⟩
    exact ⟨_, hkey, _, hstate, rfl⟩

end

namespace FileCheckpoint

variable {c : FileCheckpoint}

/-- The operations on files that a reset performs: none if the validator cannot be loaded. -/
def resetOps (c : FileCheckpoint) : List FileOp :=
  match Signer.load c.prim c.tree c.files with
  | .error _ => []
  | .ok _ => replaceOps c.files.stateFile SignState.cleared

/-- The sign state has been cleared and everything else is as it was. -/
structure Cleared (c left : FileCheckpoint) : Prop where
  prim : left.prim = c.prim
  files : left.files = c.files
  isZero : ∃ s, SignState.load left.tree c.files.stateFile = .ok s ∧ s.isZero = true
  keyFile : left.tree.nodeAt? c.files.keyFile = c.tree.nodeAt? c.files.keyFile
  noTemporary : left.tree.nodeAt? (temporary c.files.stateFile) = none
  others : ∀ p, c.tree.Apart p c.files.stateFile →
    c.tree.Apart p (temporary c.files.stateFile) →
    left.tree.nodeAt? p = c.tree.nodeAt? p

/-- What a reset can answer and leave. -/
inductive Settles (c : FileCheckpoint) : Except CheckpointError Unit → FileCheckpoint → Prop where
  | notLoaded (e : SignerError) : Settles c (.error (.load e)) c
  | notReset (e : SignerError) {left : FileCheckpoint}
    (keyFile : left.tree.nodeAt? c.files.keyFile = c.tree.nodeAt? c.files.keyFile)
    (stateFile : left.tree.nodeAt? c.files.stateFile = c.tree.nodeAt? c.files.stateFile) :
    Settles c (.error (.reset e)) left
  | cleared {left : FileCheckpoint} (h : c.Cleared left) : Settles c (.ok ()) left

theorem reset_of_not_loaded {e : SignerError} (h : Signer.load c.prim c.tree c.files = .error e) :
    c.reset = (.error (.load e), c) := by
  unfold reset
  rw [h]

theorem reset_of_loaded {s : Signer} (h : Signer.load c.prim c.tree c.files = .ok s) :
    c.reset =
      (((c.tree.replace c.files.stateFile SignState.cleared).1.mapError
          (.write c.files.stateFile)).mapError .reset,
        { c with tree := (c.tree.replace c.files.stateFile SignState.cleared).2 }) := by
  unfold reset
  rw [h]
  rfl

/-- A reset stops at a file that cannot be read, fails with only the temporary touched, or replaces
the file of the sign state. -/
theorem reset_cases (c : FileCheckpoint) :
    (∃ e, c.reset = (.error (.load e), c)) ∨
    (∃ e t, c.reset = (.error (.reset e), { c with tree := t }) ∧
      ChangesOnly (c.tree.LeadsTo (temporary c.files.stateFile)) c.tree t) ∨
    ∃ s t, Signer.load c.prim c.tree c.files = .ok s ∧ c.reset = (.ok (), { c with tree := t }) ∧
      c.tree.Replaced t c.files.stateFile SignState.cleared := by
  cases hload : Signer.load c.prim c.tree c.files with
  | error e => exact .inl ⟨e, reset_of_not_loaded hload⟩
  | ok s =>
    rw [reset_of_loaded hload]
    rcases c.tree.replace_cases c.files.stateFile SignState.cleared with
      ⟨e, t, hreplace, hchanges⟩ | ⟨t, hreplace, hreplaced⟩
    · rw [hreplace]
      exact .inr (.inl ⟨_, t, rfl, hchanges⟩)
    · rw [hreplace]
      exact .inr (.inr ⟨s, t, rfl, rfl, hreplaced⟩)

/-- The operations of a reset are all that it does to the files. -/
theorem tree_reset (c : FileCheckpoint) : c.reset.2.tree = (c.tree.applyOps c.resetOps).2 := by
  unfold resetOps
  cases h : Signer.load c.prim c.tree c.files with
  | error e =>
    rw [reset_of_not_loaded h]
    rfl
  | ok s =>
    rw [reset_of_loaded h]
    rfl

theorem cleared_of_replaced {t : FileTree}
    (hkey : c.tree.Apart c.files.keyFile c.files.stateFile)
    (htemp : c.tree.Apart c.files.keyFile (temporary c.files.stateFile))
    (h : c.tree.Replaced t c.files.stateFile SignState.cleared) :
    c.Cleared { c with tree := t } where
  prim := rfl
  files := rfl
  isZero := ⟨{}, SignState.load_cleared h.content, by decide⟩
  keyFile := h.changes.nodeAt?_eq fun l hl => not_or.mpr ⟨hkey l hl, htemp l hl⟩
  noTemporary := h.nodeAt?_temporary
  others _ hp hp' := h.changes.nodeAt?_eq fun l hl => not_or.mpr ⟨hp l hl, hp' l hl⟩

/-- A validator that can be loaded can be reset if its temporary is a file or can be made. -/
theorem exists_reset {s : Signer} {a : Location}
    (hload : Signer.load c.prim c.tree c.files = .ok s)
    (ha : c.tree.LeadsTo (temporary c.files.stateFile) a)
    (hnot : c.tree.find? a ≠ some .directory) :
    ∃ t, c.reset = (.ok (), { c with tree := t }) ∧
      c.tree.Replaced t c.files.stateFile SignState.cleared := by
  obtain ⟨-, hstate⟩ := Signer.load_eq_ok.mp hload
  obtain ⟨text, hnode, -⟩ := readRecord_eq_ok.mp hstate
  obtain ⟨l, hl, hfile⟩ := nodeAt?_eq_some.mp hnode
  obtain ⟨t, hreplace, hreplaced⟩ :=
    exists_replace SignState.cleared ha hnot hl (by simp [hfile])
  refine ⟨t, ?_, hreplaced⟩
  rw [reset_of_loaded hload, hreplace]
  rfl

/-- What is left of a successful reset can be reset again. -/
theorem exists_reset_again {t : FileTree} {s : Signer}
    (hload : Signer.load c.prim c.tree c.files = .ok s)
    (hkey : t.nodeAt? c.files.keyFile = c.tree.nodeAt? c.files.keyFile)
    (h : c.tree.Replaced t c.files.stateFile SignState.cleared) :
    ∃ t', ({ c with tree := t } : FileCheckpoint).reset = (.ok (), { c with tree := t' }) ∧
      ChangesOnly (fun _ => False) t t' := by
  obtain ⟨hkeyFile, -⟩ := Signer.load_eq_ok.mp hload
  have hload' : Signer.load c.prim t c.files = .ok ⟨s.key, {}⟩ := Signer.load_eq_ok.mpr
    ⟨ValidatorKey.load_of_nodeAt?_eq hkey hkeyFile, SignState.load_cleared h.content⟩
  obtain ⟨a, ha, hnone⟩ := h.moved
  obtain ⟨t', hreset, h'⟩ :=
    exists_reset (c := { c with tree := t }) hload' ha (by simp [hnone])
  exact ⟨t', hreset, h.changes_again h'⟩

/-- A reset that is stopped has left the key file, and the sign state in full or cleared. -/
theorem nodeAt?_of_stopped {ops : List FileOp}
    (hkey : c.tree.Apart c.files.keyFile c.files.stateFile)
    (htemp : c.tree.Apart c.files.keyFile (temporary c.files.stateFile))
    (h : StoppedIn c.resetOps ops) :
    (c.tree.applyOps ops).2.nodeAt? c.files.keyFile = c.tree.nodeAt? c.files.keyFile ∧
      ((c.tree.applyOps ops).2.nodeAt? c.files.stateFile = c.tree.nodeAt? c.files.stateFile ∨
        (c.tree.applyOps ops).2.nodeAt? c.files.stateFile = some (.file SignState.cleared)) := by
  have hstate : c.tree.Apart c.files.stateFile (temporary c.files.stateFile) :=
    (c.tree.apart_temporary _).symm
  unfold resetOps at h
  cases hload : Signer.load c.prim c.tree c.files with
  | error e =>
    rw [hload] at h
    cases h
    exact ⟨rfl, .inl rfl⟩
  | ok s =>
    rw [hload] at h
    rcases stopped_replace c.tree h with hchanges | rfl
    · exact ⟨hchanges.nodeAt?_eq htemp, .inl (hchanges.nodeAt?_eq hstate)⟩
    have hall : c.tree.applyOps (replaceOps c.files.stateFile SignState.cleared) =
      c.tree.replace c.files.stateFile SignState.cleared := rfl
    rw [hall]
    rcases c.tree.replace_cases c.files.stateFile SignState.cleared with
      ⟨e, t, hreplace, hchanges⟩ | ⟨t, hreplace, hreplaced⟩
    · rw [hreplace]
      exact ⟨hchanges.nodeAt?_eq htemp, .inl (hchanges.nodeAt?_eq hstate)⟩
    · rw [hreplace]
      exact ⟨(cleared_of_replaced hkey htemp hreplaced).keyFile, .inr hreplaced.content⟩

end FileCheckpoint

/-- A reset of a checkpoint whose key file is another place than the file of the sign state and its
temporary fails with both files as they were, or clears the sign state and nothing else, and then a
second reset succeeds and changes nothing. It works by operations on the temporary of the sign
state, the last of which moves it into place: stopped after any of them, or inside the write, it has
left the key file and one of the two sign states in full. -/
theorem reset_is_atomic (c : FileCheckpoint)
    (hkey : c.tree.Apart c.files.keyFile c.files.stateFile)
    (htemp : c.tree.Apart c.files.keyFile (temporary c.files.stateFile)) :
    c.Settles c.reset.1 c.reset.2 ∧
    (∀ left, c.reset = (.ok (), left) → ∃ again, left.reset = (.ok (), again) ∧
      ∀ p, again.tree.nodeAt? p = left.tree.nodeAt? p) ∧
    c.reset.2.tree = (c.tree.applyOps c.resetOps).2 ∧
    ∀ ops, StoppedIn c.resetOps ops →
      (c.tree.applyOps ops).2.nodeAt? c.files.keyFile = c.tree.nodeAt? c.files.keyFile ∧
        ((c.tree.applyOps ops).2.nodeAt? c.files.stateFile = c.tree.nodeAt? c.files.stateFile ∨
          (c.tree.applyOps ops).2.nodeAt? c.files.stateFile = some (.file SignState.cleared)) := by
  have hstate : c.tree.Apart c.files.stateFile (temporary c.files.stateFile) :=
    (c.tree.apart_temporary _).symm
  refine ⟨?_, ?_, c.tree_reset, fun ops => FileCheckpoint.nodeAt?_of_stopped hkey htemp⟩
  · rcases c.reset_cases with ⟨e, h⟩ | ⟨e, t, h, hchanges⟩ | ⟨s, t, -, h, hreplaced⟩
    · rw [h]
      exact .notLoaded e
    · rw [h]
      exact .notReset e (hchanges.nodeAt?_eq htemp) (hchanges.nodeAt?_eq hstate)
    · rw [h]
      exact .cleared (FileCheckpoint.cleared_of_replaced hkey htemp hreplaced)
  · intro left hleft
    rcases c.reset_cases with ⟨e, h⟩ | ⟨e, t, h, -⟩ | ⟨s, t, hload, h, hreplaced⟩
    · cases h.symm.trans hleft
    · cases h.symm.trans hleft
    · cases h.symm.trans hleft
      have hkeyFile := (FileCheckpoint.cleared_of_replaced hkey htemp hreplaced).keyFile
      obtain ⟨t', hagain, hsame⟩ := FileCheckpoint.exists_reset_again hload hkeyFile hreplaced
      exact ⟨_, hagain, fun p => hsame.nodeAt?_eq fun _ _ => id⟩

/-! A validator in the root directory that has signed, with a temporary left by an earlier reset. -/

namespace SignedOnce

/-- The public key of the seed of zeros. -/
def publicKey : Bytes32 where
  bytes := [0x3B, 0x6A, 0x27, 0xBC, 0xCE, 0xB6, 0xA4, 0x2D, 0x62, 0xA3, 0xA8, 0xD0, 0x2A, 0x6F,
    0x0D, 0x73, 0x65, 0x32, 0x15, 0x77, 0x1D, 0xE2, 0x43, 0xA6, 0x3A, 0xC0, 0x48, 0xA1, 0x8B, 0x59,
    0xDA, 0x29]
  length_eq := rfl

/-- The digest of that public key. -/
def digest : Bytes32 where
  bytes := [0x13, 0x9E, 0x39, 0x40, 0xE6, 0x4B, 0x54, 0x91, 0x72, 0x20, 0x88, 0xD9, 0xA0, 0xD7,
    0x41, 0x62, 0x8F, 0xC8, 0x26, 0xE0, 0x94, 0x75, 0xD3, 0x41, 0xA7, 0x80, 0xAC, 0xDE, 0x3C, 0x4B,
    0x80, 0x70]
  length_eq := rfl

/-- The standard primitives where they are used here. -/
def prim : Primitives := ⟨fun _ => digest, fun _ => publicKey⟩

def key : ValidatorKey := .ofPrivate prim default

def signed : SignState := { height := 7, step := .precommit }

def files : SignerFiles := ⟨"/key", "/state"⟩

def tree : FileTree where
  nodes := [([], .directory), (["key"], .file (Utf8.encode key.pretty)),
    (["state"], .file (Utf8.encode signed.pretty)), (["state.tmp"], .file [])]
  cwd := []

def checkpoint : FileCheckpoint := ⟨prim, tree, files⟩

theorem keyFile_leadsTo : tree.LeadsTo files.keyFile ["key"] := rfl

theorem stateFile_leadsTo : tree.LeadsTo files.stateFile ["state"] := rfl

theorem temporary_leadsTo : tree.LeadsTo (temporary files.stateFile) ["state.tmp"] := rfl

theorem apart_stateFile : tree.Apart files.keyFile files.stateFile :=
  apart_of_ne keyFile_leadsTo stateFile_leadsTo (by decide)

theorem apart_temporary : tree.Apart files.keyFile (temporary files.stateFile) :=
  apart_of_ne keyFile_leadsTo temporary_leadsTo (by decide)

theorem load_eq_ok : Signer.load prim tree files = .ok ⟨key, signed⟩ := by
  have hrecord : KeyRecord.parse (Utf8.encode key.pretty) =
      .ok ⟨key.address, key.publicKey.bytes, key.privateKey.bytes⟩ :=
    parse_encode (by decide +kernel)
  have hkey : ValidatorKey.ofRecord prim ⟨key.address, key.publicKey.bytes, key.privateKey.bytes⟩ =
      .ok key := toOption_eq_some.mp (by decide +kernel)
  have hstate : SignState.parse (Utf8.encode signed.pretty) = .ok signed :=
    parse_encode (by decide +kernel)
  apply Signer.load_eq_ok.mpr
  constructor
  · have hread := readRecord_eq_ok.mpr ⟨_, nodeAt?_of_leadsTo keyFile_leadsTo, hrecord⟩
    exact ValidatorKey.load_eq_ok.mpr ⟨_, hread, hkey⟩
  · exact readRecord_eq_ok.mpr ⟨_, nodeAt?_of_leadsTo stateFile_leadsTo, hstate⟩

end SignedOnce

theorem reset_is_atomic_of_signed : ∃ left, SignedOnce.checkpoint.reset = (.ok (), left) ∧
    SignedOnce.checkpoint.Cleared left ∧
    (∃ again, left.reset = (.ok (), again) ∧
      ∀ p, again.tree.nodeAt? p = left.tree.nodeAt? p) ∧
    ∀ ops, StoppedIn SignedOnce.checkpoint.resetOps ops →
      (SignedOnce.tree.applyOps ops).2.nodeAt? SignedOnce.files.keyFile =
          SignedOnce.tree.nodeAt? SignedOnce.files.keyFile ∧
        ((SignedOnce.tree.applyOps ops).2.nodeAt? SignedOnce.files.stateFile =
            SignedOnce.tree.nodeAt? SignedOnce.files.stateFile ∨
          (SignedOnce.tree.applyOps ops).2.nodeAt? SignedOnce.files.stateFile =
            some (.file SignState.cleared)) := by
  obtain ⟨hsettles, hagain, -, hstopped⟩ := reset_is_atomic SignedOnce.checkpoint
    SignedOnce.apart_stateFile SignedOnce.apart_temporary
  obtain ⟨t, hleft, -⟩ := FileCheckpoint.exists_reset (c := SignedOnce.checkpoint)
    SignedOnce.load_eq_ok SignedOnce.temporary_leadsTo (fun h => by cases h)
  rw [hleft] at hsettles
  cases hsettles with
  | cleared h => exact ⟨_, hleft, h, hagain _ hleft, hstopped⟩

end ChainRollback
