import ChainRollback.Proofs.Signer.Saving

/-! # A key file is accepted when it agrees with itself

The private key decides what the other two members have to be. A file in which they are something
else is refused for the first thing that is wrong with it, and a key that was accepted or made from
a private key is saved and loaded without a change.
-/
namespace ChainRollback
open FileTree

namespace KeyRecord
open Json

/-- What a validator key states in its file. -/
def ofKey (k : ValidatorKey) : KeyRecord := ⟨k.address, k.publicKey.bytes, k.privateKey.bytes⟩

theorem reads_hexInto {s : String} {b : Bytes} (h : Hex.Spells s.toList b)
    (put : Draft → Bytes → Draft) (d : Draft) :
    Reads (hexInto put d) (.text s) (.ok (put d b)) := by
  have hread := reads_readHex s
  rw [hexOutcome_of_spells h] at hread
  exact hread.map (put d)

theorem fills_members (k : ValidatorKey) : format.Fills {} (k.members.map memberOf)
    (.ok ⟨some k.address, some k.publicKey.bytes, some k.privateKey.bytes⟩) := by
  have hspells := Hex.spells_encode
  refine .cons (.taken rfl rfl (reads_hexInto (hspells k.address)
    (fun d v => { d with address := some v }) _)) ?_
  refine .cons (.taken rfl rfl (reads_hexInto (hspells k.publicKey.bytes)
    (fun d v => { d with publicKey := some v }) _)) ?_
  refine .cons (.taken rfl rfl (reads_hexInto (hspells k.privateKey.bytes)
    (fun d v => { d with privateKey := some v }) _)) ?_
  exact .nil _

theorem isPlainText_members (k : ValidatorKey) : ∀ m ∈ k.members, IsPlainText m.1 := by
  have hnames : ∀ n ∈ k.members.map Prod.fst, IsPlainText n := by
    change ∀ n ∈ ["address", "pub_key", "priv_key"], IsPlainText n
    decide
  exact fun m hm => hnames m.1 (List.mem_map_of_mem hm)

theorem parse_pretty (k : ValidatorKey) : parse (Utf8.encode k.pretty) = .ok (ofKey k) := by
  have htext := objectText_pretty (isPlainText_members k)
  rw [parse, Utf8.encode_eq_bytes, ValidatorKey.pretty,
    RecordFormat.parse_of_fills htext (fills_members k)]
  rfl

end KeyRecord

namespace ValidatorKey

/-- The members of a record agree with each other. -/
structure IsConsistent (prim : Primitives) (r : KeyRecord) : Prop where
  length : r.privateKey.length = 32
  publicKey : r.publicKey = (prim.publicKey ⟨r.privateKey, length⟩).bytes
  address : r.address = (prim.digest r.publicKey).bytes.take 20

/-- What is wrong with a record, the first of four things in their order. -/
inductive FirstFault (prim : Primitives) (r : KeyRecord) : KeyFault → Prop where
  | privateLength (h : r.privateKey.length ≠ 32) :
    FirstFault prim r (.privateLength (.invalidLength r.privateKey.length))
  | publicLength (hpriv : r.privateKey.length = 32) (h : r.publicKey.length ≠ 32) :
    FirstFault prim r (.publicLength (.invalidLength r.publicKey.length))
  | publicMismatch (hpriv : r.privateKey.length = 32) (hpub : r.publicKey.length = 32)
    (h : r.publicKey ≠ (prim.publicKey ⟨r.privateKey, hpriv⟩).bytes) :
    FirstFault prim r .publicMismatch
  | addressMismatch (hpriv : r.privateKey.length = 32)
    (hpub : r.publicKey = (prim.publicKey ⟨r.privateKey, hpriv⟩).bytes)
    (h : r.address ≠ (prim.digest r.publicKey).bytes.take 20) :
    FirstFault prim r (.addressMismatch r.address ((prim.digest r.publicKey).bytes.take 20))

section
variable {prim : Primitives} {r : KeyRecord} {k : ValidatorKey} {fault : KeyFault}

theorem IsConsistent.ofKey_eq (h : IsConsistent prim r) :
    .ofKey (ofPrivate prim ⟨r.privateKey, h.length⟩) = r := by
  obtain ⟨address, publicKey, privateKey⟩ := r
  have hpub : publicKey = (prim.publicKey ⟨privateKey, h.length⟩).bytes := h.publicKey
  have haddr : address = (prim.digest publicKey).bytes.take 20 := h.address
  rw [KeyRecord.ofKey, KeyRecord.mk.injEq]
  have hderived := congrArg (fun b => (prim.digest b).bytes.take 20) hpub.symm
  exact ⟨hderived.trans haddr.symm, hpub.symm, rfl⟩

theorem ofSlice_of_length {b : Bytes} (h : b.length = 32) : Bytes32.ofSlice b = .ok ⟨b, h⟩ := by
  rw [Bytes32.ofSlice, Bytes32.ofBytes?, dif_pos h]

theorem ofSlice_of_length_ne {b : Bytes} (h : b.length ≠ 32) :
    Bytes32.ofSlice b = .error (.invalidLength b.length) := by
  rw [Bytes32.ofSlice, Bytes32.ofBytes?, dif_neg h]

theorem FirstFault.not_isConsistent (h : FirstFault prim r fault) : ¬IsConsistent prim r := by
  rintro ⟨hpriv, hpub, haddr⟩
  cases h with
  | privateLength h => exact h hpriv
  | publicLength _ h => exact h (hpub ▸ (prim.publicKey _).length_eq)
  | publicMismatch _ _ h => exact h hpub
  | addressMismatch _ _ h => exact h haddr

/-- The two comparisons, once both keys have the right length. -/
theorem ofRecord_of_lengths (privateKey stated : Bytes32) (hpriv : r.privateKey = privateKey.bytes)
    (hpub : r.publicKey = stated.bytes) :
    ofRecord prim r =
      if (ofPrivate prim privateKey).publicKey ≠ stated then .error .publicMismatch
      else if (ofPrivate prim privateKey).address ≠ r.address then
        .error (.addressMismatch r.address (ofPrivate prim privateKey).address)
      else .ok (ofPrivate prim privateKey) := by
  rw [ofRecord, hpriv, hpub, ofSlice_of_length privateKey.length_eq,
    ofSlice_of_length stated.length_eq]
  simp only [mapError_ok, bind, Except.bind]
  by_cases hne : (ofPrivate prim privateKey).publicKey ≠ stated
  · rw [if_pos hne, if_pos hne]
    rfl
  rw [if_neg hne, if_neg hne]
  by_cases haddr : (ofPrivate prim privateKey).address ≠ r.address
  · rw [if_pos haddr, if_pos haddr]
    rfl
  · rw [if_neg haddr, if_neg haddr]
    rfl

/-- The key of a record that agrees with itself, or what is wrong with it first. -/
theorem ofRecord_cases (prim : Primitives) (r : KeyRecord) :
    (∃ h : IsConsistent prim r,
      ofRecord prim r = .ok (ofPrivate prim ⟨r.privateKey, h.length⟩)) ∨
    ∃ fault, ofRecord prim r = .error fault ∧ FirstFault prim r fault := by
  by_cases hpriv : r.privateKey.length = 32
  case neg =>
    refine .inr ⟨_, ?_, .privateLength hpriv⟩
    rw [ofRecord, ofSlice_of_length_ne hpriv]
    rfl
  by_cases hlength : r.publicKey.length = 32
  case neg =>
    refine .inr ⟨_, ?_, .publicLength hpriv hlength⟩
    rw [ofRecord, ofSlice_of_length hpriv, ofSlice_of_length_ne hlength]
    rfl
  have hrecord : ofRecord prim r = _ := ofRecord_of_lengths ⟨_, hpriv⟩ ⟨_, hlength⟩ rfl rfl
  have haddress (hpub : r.publicKey = (prim.publicKey ⟨r.privateKey, hpriv⟩).bytes) :
      (ofPrivate prim ⟨r.privateKey, hpriv⟩).address =
        (prim.digest r.publicKey).bytes.take 20 := by
    rw [hpub]
    rfl
  split at hrecord
  case isTrue hne =>
    refine .inr ⟨_, hrecord, .publicMismatch hpriv hlength fun hpub => hne ?_⟩
    exact Bytes32.ext hpub.symm
  rename_i heq
  have hpub : r.publicKey = (prim.publicKey ⟨r.privateKey, hpriv⟩).bytes :=
    (congrArg Bytes32.bytes (Decidable.not_not.mp heq)).symm
  rw [haddress hpub] at hrecord
  split at hrecord
  case isTrue hne => exact .inr ⟨_, hrecord, .addressMismatch hpriv hpub hne.symm⟩
  case isFalse haddr =>
    exact .inl ⟨⟨hpriv, hpub, (Decidable.not_not.mp haddr).symm⟩, hrecord⟩

/-- A key made from its private key is stated consistently. -/
theorem ofRecord_ofKey (prim : Primitives) (privateKey : Bytes32) :
    ofRecord prim (.ofKey (ofPrivate prim privateKey)) = .ok (ofPrivate prim privateKey) := by
  have hconsistent : IsConsistent prim (.ofKey (ofPrivate prim privateKey)) :=
    ⟨privateKey.length_eq, rfl, rfl⟩
  rcases ofRecord_cases prim (.ofKey (ofPrivate prim privateKey)) with ⟨_, h⟩ | ⟨fault, -, hfault⟩
  · exact h
  · exact absurd hconsistent hfault.not_isConsistent

end

/-- A key that is saved in a file can be loaded from it. Saving works through the temporary of the
file, and no other place than these two is touched. -/
structure IsKept (prim : Primitives) (k : ValidatorKey) (t : FileTree) (p : String) : Prop where
  succeeds : t.CanReplace p → ∃ t', k.save t p = (.ok (), t')
  operations : (k.save t p).2 = (t.applyOps (replaceOps p (Utf8.encode k.pretty))).2
  outcome : (∃ e t', k.save t p = (.error e, t') ∧ ChangesOnly (t.LeadsTo (temporary p)) t t') ∨
    ∃ t', k.save t p = (.ok (), t') ∧ load prim t' p = .ok k ∧
      ChangesOnly (fun l => t.LeadsTo p l ∨ t.LeadsTo (temporary p) l) t t' ∧
      t'.nodeAt? (temporary p) = none

section
variable {prim : Primitives} {r : KeyRecord} {k : ValidatorKey} {t t' : FileTree} {p : String}

theorem load_of_save {privateKey : Bytes32}
    (h : (ofPrivate prim privateKey).save t p = (.ok (), t')) :
    load prim t' p = .ok (ofPrivate prim privateKey) :=
  load_eq_ok.mpr ⟨_, readRecord_of_writeText h (KeyRecord.parse_pretty _),
    ofRecord_ofKey prim privateKey⟩

theorem isKept_ofPrivate (prim : Primitives) (privateKey : Bytes32) (t : FileTree) (p : String) :
    IsKept prim (ofPrivate prim privateKey) t p where
  succeeds h := h.exists_writeText _
  operations := rfl
  outcome := by
    rcases t.writeText_cases p (ofPrivate prim privateKey).pretty with
      hfailed | ⟨t', hsave, hreplaced⟩
    · exact .inl hfailed
    · exact .inr ⟨t', hsave, load_of_save hsave, hreplaced.changes, hreplaced.nodeAt?_temporary⟩

theorem load_of_readRecord (h : t.readRecord p KeyRecord.parse = .ok r) :
    load prim t p = (ofRecord prim r).mapError (.invalidKey p) := by
  rw [load, h]
  rfl

end

/-- A key file is accepted exactly if its three members agree with each other, and then its key is
what it states; otherwise it is refused for the first thing that is wrong. Accepted keys, and keys
made from any private key, are saved and loaded again without a change. -/
theorem load_iff_isConsistent (prim : Primitives) :
    (∀ t p r, t.readRecord p KeyRecord.parse = .ok r →
      ((∃ k, load prim t p = .ok k) ↔ IsConsistent prim r) ∧
      (∀ k, load prim t p = .ok k → .ofKey k = r ∧ ∀ t' p', IsKept prim k t' p') ∧
      (¬IsConsistent prim r →
        ∃ fault, load prim t p = .error (.invalidKey p fault) ∧ FirstFault prim r fault)) ∧
    ∀ privateKey, (ofPrivate prim privateKey).privateKey = privateKey ∧
      ∀ t p, IsKept prim (ofPrivate prim privateKey) t p := by
  refine ⟨fun t p r hread => ?_, fun privateKey => ⟨rfl, isKept_ofPrivate prim privateKey⟩⟩
  rw [load_of_readRecord hread]
  rcases ofRecord_cases prim r with ⟨hconsistent, hrecord⟩ | ⟨fault, hrecord, hfault⟩
  · rw [hrecord]
    refine ⟨⟨fun _ => hconsistent, fun _ => ⟨_, rfl⟩⟩, ?_, fun h => absurd hconsistent h⟩
    rintro k ⟨⟩
    refine ⟨?_, isKept_ofPrivate prim _⟩
    exact hconsistent.ofKey_eq
  · rw [hrecord]
    refine ⟨⟨?_, fun h => absurd h hfault.not_isConsistent⟩, ?_, fun _ => ⟨fault, rfl, hfault⟩⟩
    · rintro ⟨k, hk⟩
      cases hk
    · intro k hk
      cases hk

end ValidatorKey

/-! The key of a validator that has signed, and one whose address was edited. -/

namespace SignedOnce

def editedKey : ValidatorKey := { key with address := [] }

def editedTree : FileTree where
  nodes := [([], .directory), (["key"], .file (Utf8.encode editedKey.pretty))]
  cwd := []

theorem editedTree_leadsTo : editedTree.LeadsTo files.keyFile ["key"] := rfl

end SignedOnce

theorem ValidatorKey.load_iff_isConsistent_of_signed :
    (∃ k, load SignedOnce.prim SignedOnce.tree SignedOnce.files.keyFile = .ok k ∧
      .ofKey k = KeyRecord.ofKey SignedOnce.key) ∧
    ∃ fault, load SignedOnce.prim SignedOnce.editedTree SignedOnce.files.keyFile =
        .error (.invalidKey SignedOnce.files.keyFile fault) ∧
      FirstFault SignedOnce.prim (.ofKey SignedOnce.editedKey) fault := by
  have hread := readRecord_eq_ok.mpr ⟨_, nodeAt?_of_leadsTo SignedOnce.keyFile_leadsTo,
    KeyRecord.parse_pretty SignedOnce.key⟩
  have hread' := readRecord_eq_ok.mpr ⟨_, nodeAt?_of_leadsTo SignedOnce.editedTree_leadsTo,
    KeyRecord.parse_pretty SignedOnce.editedKey⟩
  have hconsistent : IsConsistent SignedOnce.prim (.ofKey SignedOnce.key) :=
    ⟨rfl, rfl, rfl⟩
  have hnot : ¬IsConsistent SignedOnce.prim (.ofKey SignedOnce.editedKey) :=
    fun h => absurd h.address (by decide)
  obtain ⟨hiff, hloaded, -⟩ := (load_iff_isConsistent SignedOnce.prim).1 _ _ _ hread
  obtain ⟨-, -, hrefused⟩ := (load_iff_isConsistent SignedOnce.prim).1 _ _ _ hread'
  obtain ⟨k, hk⟩ := hiff.mpr hconsistent
  exact ⟨⟨k, hk, (hloaded k hk).1⟩, hrefused hnot⟩

end ChainRollback
