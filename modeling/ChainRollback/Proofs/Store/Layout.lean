import ChainRollback.Proofs.Outcome
import ChainRollback.Store.Disk

/-! # Environments of the current layout

An environment that was opened carries the current version of the layout, stamped then or before.
It can be opened again, since no table of records holds the version.
-/
namespace ChainRollback

namespace Environment

variable {e e' : Environment} {name : TableName}

/-- The environment carries the current version of the layout. -/
def IsCurrent (e : Environment) : Prop := (e.table .layout).find? schemaKey = some schemaBytes

/-- Four bytes are the written form of the version that they read as. -/
theorem littleEndian_version {bytes : Bytes} (hlength : bytes.length = 4) :
    Bytes.littleEndian 4 (UInt32.ofNat (Bytes.ofLittleEndian bytes)).toNat = bytes := by
  have hlt : Bytes.ofLittleEndian bytes < UInt32.size := by
    have hcapacity := Bytes.ofLittleEndian_lt bytes
    rwa [hlength] at hcapacity
  have hnat : (UInt32.ofNat (Bytes.ofLittleEndian bytes)).toNat = Bytes.ofLittleEndian bytes :=
    UInt32.toNat_ofNat_of_lt hlt
  have hback := Bytes.littleEndian_ofLittleEndian bytes
  rw [hlength] at hback
  rw [hnat, hback]

theorem eq_schemaBytes {bytes : Bytes} (hlength : bytes.length = 4)
    (h : UInt32.ofNat (Bytes.ofLittleEndian bytes) = schemaVersion) : bytes = schemaBytes := by
  rw [← littleEndian_version hlength, h]
  rfl

theorem isCurrent_of_checkSchema (h : e.checkSchema = .ok e') : e'.IsCurrent := by
  unfold checkSchema at h
  split at h
  · cases h
    rw [IsCurrent, put, table_set_self, OrderedMap.find?_insert_self]
  · rename_i bytes hbytes
    split at h
    · cases h
    · rename_i hlength
      dsimp only at h
      split at h
      · rename_i hversion
        cases h
        rw [IsCurrent, table_create, hbytes, eq_schemaBytes (Decidable.not_not.mp hlength) hversion]
      · cases h

theorem IsCurrent.exists_checkSchema (h : e.IsCurrent) : ∃ e', e.checkSchema = .ok e' := by
  have hlength : ¬schemaBytes.length ≠ 4 := by decide
  have hversion : UInt32.ofNat (Bytes.ofLittleEndian schemaBytes) = schemaVersion := by decide
  refine ⟨e.create .layout, ?_⟩
  unfold checkSchema
  rw [h]
  dsimp only
  rw [if_neg hlength, if_pos hversion]

theorem IsCurrent.create (h : e.IsCurrent) (name : TableName) : (e.create name).IsCurrent := by
  rw [IsCurrent, table_create]
  exact h

theorem IsCurrent.set (h : e.IsCurrent) (t : Table) (hname : name ≠ .layout) :
    (e.set name t).IsCurrent := by
  rw [IsCurrent, table_set_of_ne e t hname.symm]
  exact h

end Environment

namespace DiskBlockStore

variable {e : Environment} {d d' : DiskBlockStore}

theorem isCurrent_of_openIn (h : openIn e = .ok d) : d.env.IsCurrent := by
  obtain ⟨e', he, rfl⟩ := map_eq_ok.mp h
  exact (Environment.isCurrent_of_checkSchema he).create .blockMetas

theorem exists_openIn (h : e.IsCurrent) : ∃ d, openIn e = .ok d := by
  obtain ⟨e', he⟩ := h.exists_checkSchema
  exact ⟨_, map_eq_ok.mpr ⟨e', he, rfl⟩⟩

theorem isCurrent_put (h : d.env.IsCurrent) (b : BlockMeta) : (d.put b).env.IsCurrent :=
  h.set _ (by decide)

theorem isCurrent_of_deleteLatest (h : d.env.IsCurrent) (hd : d.deleteLatest = .ok d') :
    d'.env.IsCurrent := by
  unfold deleteLatest at hd
  split at hd
  · cases hd
  · simp only [bind_eq_ok, pure_eq_ok] at hd
    obtain ⟨-, -, rfl⟩ := hd
    exact h.set _ (by decide)

end DiskBlockStore

namespace DiskStateStore

variable {e : Environment} {d : DiskStateStore}

theorem isCurrent_of_openIn (h : openIn e = .ok d) : d.env.IsCurrent := by
  obtain ⟨e', he, rfl⟩ := map_eq_ok.mp h
  exact (((Environment.isCurrent_of_checkSchema he).create .state).create .validators).create
    .consensusParams

theorem exists_openIn (h : e.IsCurrent) : ∃ d, openIn e = .ok d := by
  obtain ⟨e', he⟩ := h.exists_checkSchema
  exact ⟨_, map_eq_ok.mpr ⟨e', he, rfl⟩⟩

end DiskStateStore
end ChainRollback
