import ChainRollback.Proofs.Store.FiledBlocks
import ChainRollback.Proofs.Store.Layout
import ChainRollback.Store.Files

/-! # Opening a store in an environment

Whatever an environment holds, whether a store can be opened in it depends on one record, that of
the version of the layout. A version that is missing is written, and the tables of the store are
made, and nothing else changes. Any other version than the current one is refused. No operation of
an open store undoes this, so in its environment the store is opened as it is.
-/
namespace ChainRollback
open Std

namespace Environment

variable {e e' e'' : Environment} {name : TableName} {tables : List TableName}

/-- The record of the version of the layout. -/
def version? (e : Environment) : Option Bytes := (e.table .layout).find? schemaKey

/-- The version is missing, or it is the current one to the byte. -/
def IsAccepted (e : Environment) : Prop := e.version? = none ∨ e.version? = some schemaBytes

instance (e : Environment) : Decidable e.IsAccepted := inferInstanceAs (Decidable (_ ∨ _))

/-- What is wrong with a version that is refused: its length, or the number that it is. -/
def VersionFault (bytes : Bytes) (fault : DiskError) : Prop :=
  if bytes.length = 4 then ∃ found : UInt32,
    bytes = Bytes.littleEndian 4 found.toNat ∧ fault = .schemaMismatch found schemaVersion
  else fault = .serialization "schema_version has unexpected byte length"

theorem put_version_of_isCurrent (h : e.IsCurrent) :
    e.put .layout schemaKey schemaBytes = e.create .layout := by
  have hsame : (e.table .layout).insert schemaKey schemaBytes = e.table .layout := by
    refine OrderedMap.ext_find? fun key => ?_
    rw [OrderedMap.find?_insert]
    split
    · rename_i hkey
      rw [LawfulEqCmp.eq_of_compare hkey]
      exact h.symm
    · rfl
  rw [put, hsame]
  rfl

theorem checkSchema_of_isAccepted (h : e.IsAccepted) :
    e.checkSchema = .ok (e.put .layout schemaKey schemaBytes) := by
  rcases h with h | h
  · unfold checkSchema
    unfold version? at h
    rw [h]
  · have hlength : ¬schemaBytes.length ≠ 4 := by decide
    have hversion : UInt32.ofNat (Bytes.ofLittleEndian schemaBytes) = schemaVersion := by decide
    rw [put_version_of_isCurrent h]
    unfold checkSchema
    unfold version? at h
    rw [h]
    dsimp only
    rw [if_neg hlength, if_pos hversion]

theorem checkSchema_of_not_isAccepted (h : ¬e.IsAccepted) :
    ∃ bytes fault, e.version? = some bytes ∧ VersionFault bytes fault ∧
      e.checkSchema = .error fault := by
  cases hbytes : e.version? with
  | none => exact absurd (.inl hbytes) h
  | some bytes =>
    have hne : bytes ≠ schemaBytes := fun he => h (.inr (he ▸ hbytes))
    have hcheck : (e.table .layout).find? schemaKey = some bytes := hbytes
    by_cases hlength : bytes.length = 4
    · have hversion : UInt32.ofNat (Bytes.ofLittleEndian bytes) ≠ schemaVersion := fun he =>
        hne (eq_schemaBytes hlength he)
      refine ⟨bytes, .schemaMismatch (UInt32.ofNat (Bytes.ofLittleEndian bytes)) schemaVersion,
        rfl, ?_, ?_⟩
      · rw [VersionFault, if_pos hlength]
        exact ⟨_, (littleEndian_version hlength).symm, rfl⟩
      · unfold checkSchema
        rw [hcheck]
        dsimp only
        rw [if_neg (not_not.mpr hlength), if_neg hversion]
    · refine ⟨bytes, .serialization "schema_version has unexpected byte length", rfl, ?_, ?_⟩
      · rw [VersionFault, if_neg hlength]
      · unfold checkSchema
        rw [hcheck]
        dsimp only
        rw [if_pos hlength]

theorem table_foldl_create (tables : List TableName) (e : Environment) (name : TableName) :
    (tables.foldl create e).table name = e.table name := by
  induction tables generalizing e with
  | nil => rfl
  | cons first tables ih => rw [List.foldl_cons, ih, table_create]

theorem isSome_table?_set {t : Table} {other : TableName} :
    ((e.set name t).table? other).isSome ↔ (e.table? other).isSome ∨ other = name := by
  by_cases h : other = name <;> simp [set, h]

theorem isSome_table?_foldl_create (tables : List TableName) (e : Environment) (name : TableName) :
    ((tables.foldl create e).table? name).isSome ↔
      (e.table? name).isSome ∨ name ∈ tables := by
  induction tables generalizing e with
  | nil => simp
  | cons first tables ih =>
    rw [List.foldl_cons, ih, create, isSome_table?_set, List.mem_cons, or_assoc]

/-- A table that exists need not be made. -/
theorem create_of_isSome (h : (e.table? name).isSome) : e.create name = e := by
  obtain ⟨t, ht⟩ := Option.isSome_iff_exists.mp h
  have hsame : (e.create name).table? = e.table? := by
    funext other
    by_cases ho : other = name
    · simp [create, set, table, ho, ht]
    · simp [create, set, ho]
  exact congrArg Environment.mk hsame

theorem foldl_create_of_isSome (h : ∀ name ∈ tables, (e.table? name).isSome) :
    tables.foldl create e = e := by
  induction tables with
  | nil => rfl
  | cons first tables ih =>
    obtain ⟨hfirst, hrest⟩ := List.forall_mem_cons.mp h
    rw [List.foldl_cons, create_of_isSome hfirst]
    exact ih hrest

/-- No other tables are written than these, and none is lost. -/
def WritesOnly (tables : List TableName) (e e' : Environment) : Prop :=
  ∀ name, e'.table? name = e.table? name ∨ name ∈ tables ∧ (e'.table? name).isSome

theorem WritesOnly.refl (tables : List TableName) (e : Environment) : WritesOnly tables e e :=
  fun _ => .inl rfl

theorem WritesOnly.trans (h : WritesOnly tables e e') (h' : WritesOnly tables e' e'') :
    WritesOnly tables e e'' := by
  intro name
  rcases h' name with heq | hwritten
  · rw [heq]
    exact h name
  · exact .inr hwritten

theorem writesOnly_set (hname : name ∈ tables) (e : Environment) (t : Table) :
    WritesOnly tables e (e.set name t) := by
  intro other
  by_cases h : other = name
  · exact .inr ⟨h ▸ hname, isSome_table?_set.mpr (.inr h)⟩
  · exact .inl (by simp [set, h])

end Environment

namespace StoreName
open Environment

variable {name : StoreName} {e e' e'' : Environment}

/-- The tables of a store, besides that of the layout. -/
def tables : StoreName → List TableName
  | block => [.blockMetas]
  | state => [.state, .validators, .consensusParams]

/-- The environment of a store that is opened in another one. -/
def openIn : StoreName → Environment → Except DiskError Environment
  | block, e => (DiskBlockStore.openIn e).map DiskBlockStore.env
  | state, e => (DiskStateStore.openIn e).map DiskStateStore.env

theorem openIn_eq (name : StoreName) (e : Environment) :
    name.openIn e = e.checkSchema.map fun e => name.tables.foldl create e := by
  cases name with
  | block =>
    rw [openIn, DiskBlockStore.openIn]
    cases e.checkSchema <;> rfl
  | state =>
    rw [openIn, DiskStateStore.openIn]
    cases e.checkSchema <;> rfl

theorem layout_not_mem (name : StoreName) : TableName.layout ∉ name.tables := by
  cases name <;> decide

/-- What opening a store makes of an environment. -/
structure Opened (name : StoreName) (e e' : Environment) : Prop where
  version : e'.version? = some schemaBytes
  records : ∀ table key, ¬(table = .layout ∧ key = schemaKey) →
    (e'.table table).find? key = (e.table table).find? key
  tables : ∀ table, (e'.table? table).isSome ↔
    (e.table? table).isSome ∨ table = .layout ∨ table ∈ name.tables

theorem openIn_of_isAccepted (name : StoreName) (h : e.IsAccepted) :
    ∃ e', name.openIn e = .ok e' ∧ name.Opened e e' := by
  rw [openIn_eq, checkSchema_of_isAccepted h]
  refine ⟨_, rfl, ?_, fun table key hkey => ?_, fun table => ?_⟩
  · rw [version?, table_foldl_create, put, table_set_self, OrderedMap.find?_insert_self]
  · rw [table_foldl_create, put]
    by_cases htable : table = .layout
    · have hne : key ≠ schemaKey := fun he => hkey ⟨htable, he⟩
      rw [htable, table_set_self, OrderedMap.find?_insert_of_ne _ _ hne]
    · rw [table_set_of_ne _ _ htable]
  · rw [isSome_table?_foldl_create, put, isSome_table?_set, or_assoc]

theorem openIn_of_not_isAccepted (name : StoreName) (h : ¬e.IsAccepted) :
    ∃ bytes fault, e.version? = some bytes ∧ VersionFault bytes fault ∧
      name.openIn e = .error fault := by
  obtain ⟨bytes, fault, hbytes, hfault, hcheck⟩ := checkSchema_of_not_isAccepted h
  refine ⟨bytes, fault, hbytes, hfault, ?_⟩
  rw [openIn_eq, hcheck]
  rfl

/-- An environment that a store is open in: of the current layout, with all tables of the store. -/
structure IsOpen (name : StoreName) (e : Environment) : Prop where
  current : e.IsCurrent
  layout : (e.table? .layout).isSome
  tables : ∀ table ∈ name.tables, (e.table? table).isSome

theorem isOpen_of_openIn (h : name.openIn e = .ok e') : name.IsOpen e' := by
  by_cases hacc : e.IsAccepted
  · obtain ⟨opened, hopen, hspec⟩ := openIn_of_isAccepted name hacc
    cases h.symm.trans hopen
    exact ⟨hspec.version, (hspec.tables _).mpr (.inr (.inl rfl)),
      fun table htable => (hspec.tables table).mpr (.inr (.inr htable))⟩
  · obtain ⟨bytes, fault, -, -, hopen⟩ := openIn_of_not_isAccepted name hacc
    cases h.symm.trans hopen

/-- A store is opened as it is in an environment that it has been open in. -/
theorem IsOpen.openIn_eq_self (h : name.IsOpen e) : name.openIn e = .ok e := by
  rw [openIn_eq, checkSchema_of_isAccepted (.inr h.current), put_version_of_isCurrent h.current,
    create_of_isSome h.layout]
  exact congrArg Except.ok (foldl_create_of_isSome h.tables)

theorem IsOpen.of_writesOnly (h : name.IsOpen e) (hw : WritesOnly name.tables e e') :
    name.IsOpen e' := by
  have hkept : ∀ table, (e.table? table).isSome → (e'.table? table).isSome := fun table ht =>
    (hw table).elim (fun heq => heq ▸ ht) And.right
  have hlayout : e'.table? .layout = e.table? .layout :=
    (hw .layout).resolve_right fun hwritten => name.layout_not_mem hwritten.1
  refine ⟨?_, hkept _ h.layout, fun table htable => hkept table (h.tables table htable)⟩
  have hcurrent := h.current
  rw [IsCurrent, table] at hcurrent ⊢
  rw [hlayout]
  exact hcurrent

/-- The operations of an open store that change its environment. -/
inductive Changes : StoreName → Environment → Environment → Prop where
  | append {e e' : Environment} {b : BlockMeta} (h : DiskBlockStore.append ⟨e⟩ b = .ok ⟨e'⟩) :
    Changes .block e e'
  | deleteLatest {e e' : Environment} (h : DiskBlockStore.deleteLatest ⟨e⟩ = .ok ⟨e'⟩) :
    Changes .block e e'
  | save {e e' : Environment} {s : State} (h : DiskStateStore.save ⟨e⟩ s = .ok ⟨e'⟩) :
    Changes .state e e'
  | putValidators {e : Environment} (h : Height) (set : ValidatorSet) :
    Changes .state e (DiskStateStore.putValidators ⟨e⟩ h set).env
  | putParams {e : Environment} (h : Height) (p : ConsensusParams) :
    Changes .state e (DiskStateStore.putParams ⟨e⟩ h p).env

theorem writesOnly_putValidators (d : DiskStateStore) (h : Height) (set : ValidatorSet) :
    WritesOnly (tables .state) d.env (d.putValidators h set).env :=
  writesOnly_set (by decide) d.env _

theorem writesOnly_putParams (d : DiskStateStore) (h : Height) (p : ConsensusParams) :
    WritesOnly (tables .state) d.env (d.putParams h p).env :=
  writesOnly_set (by decide) d.env _

theorem writesOnly_foldl_putValidators (records : List (Height × ValidatorSet))
    (d : DiskStateStore) : WritesOnly (tables .state) d.env
      (records.foldl (fun d r => d.putValidators r.1 r.2) d).env := by
  induction records generalizing d with
  | nil => exact .refl _ _
  | cons r records ih => exact (writesOnly_putValidators d r.1 r.2).trans (ih _)

theorem Changes.writesOnly (h : name.Changes e e') : WritesOnly name.tables e e' := by
  cases h with
  | append h =>
    cases DiskBlockStore.eq_put_of_append h
    exact writesOnly_set (by decide) e _
  | deleteLatest h =>
    obtain ⟨tip, record, -, he⟩ := DiskBlockStore.deleteLatest_eq_ok_iff.mp h
    cases he
    exact writesOnly_set (by decide) e _
  | save h =>
    simp only [DiskStateStore.save, bind_eq_ok, pure_eq_ok] at h
    obtain ⟨records, -, height, -, h⟩ := h
    cases h
    have hstate : TableName.state ∈ tables .state := by decide
    exact ((writesOnly_foldl_putValidators records ⟨e⟩).trans (writesOnly_putParams _ _ _)).trans
      (writesOnly_set hstate _ _)
  | putValidators h set => exact writesOnly_putValidators ⟨e⟩ h set
  | putParams h p => exact writesOnly_putParams ⟨e⟩ h p

end StoreName
end ChainRollback
