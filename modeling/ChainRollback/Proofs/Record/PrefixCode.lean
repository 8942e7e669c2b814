import ChainRollback.Proofs.Record.Chain
import ChainRollback.Proofs.Store.HeightKey

/-! # Records are a prefix code

A record is accepted exactly if it begins with the written form of a value. So every value has one
written form, no written form is the beginning of another, and a record that is cut short is refused.
-/
namespace ChainRollback

namespace Codec

variable {α : Type} {c : Codec α} {fits : α → Prop}

/-- What is written of the values that fit is a code in which none begins another, and reading
accepts the written forms with anything behind them, and nothing else. -/
structure IsPrefixCode (c : Codec α) (fits : α → Prop) : Prop where
  fromDisk_eq_ok : ∀ b v, c.fromDisk b = .ok v ↔ fits v ∧ c.encode v <+: b
  fromDisk_encode : ∀ v, fits v → c.fromDisk (c.encode v) = .ok v
  eq_of_encode_eq : ∀ v w, fits v → fits w → c.encode v = c.encode w → v = w
  eq_of_encode_begins : ∀ v w, fits v → fits w → c.encode v <+: c.encode w → v = w
  refused_of_cutOff : ∀ v b, fits v → b <+: c.encode v → b ≠ c.encode v →
    ∃ reason, c.fromDisk b = .error (.serialization reason)
  encode_append_rest : ∀ b v rest, c.decode b = .ok (v, rest) → c.encode v ++ rest = b

theorem fromDisk_eq_error {b : Bytes} {e : StoreError} (h : c.fromDisk b = .error e) :
    ∃ reason, e = .serialization reason := by
  obtain ⟨fault, -, rfl⟩ := mapError_eq_error.mp h
  exact ⟨fault.message, rfl⟩

theorem Exact.fromDisk_eq_ok (hc : c.Exact fits) {b : Bytes} {v : α} :
    c.fromDisk b = .ok v ↔ fits v ∧ c.encode v <+: b := by
  rw [Codec.fromDisk, mapError_eq_ok, hc.read_eq_ok]
  constructor
  · rintro ⟨hfits, rest, rfl⟩
    exact ⟨hfits, List.prefix_append _ rest⟩
  · rintro ⟨hfits, rest, rfl⟩
    exact ⟨hfits, rest, rfl⟩

theorem Exact.fits_of_recordAt (hc : c.Exact fits) {t : Table} {h : Height} {v : α}
    (hr : t.recordAt c h = .ok (some v)) : fits v := by
  unfold Table.recordAt at hr
  split at hr
  · obtain ⟨w, hw, he⟩ := map_eq_ok.mp hr
    exact Option.some.inj he ▸ (hc.fromDisk_eq_ok.mp hw).1
  · cases hr

theorem Exact.eq_of_encode_begins (hc : c.Exact fits) {v w : α} (hv : fits v) (hw : fits w)
    (h : c.encode v <+: c.encode w) : v = w := by
  have hreads : c.fromDisk (c.encode w) = .ok v := hc.fromDisk_eq_ok.mpr ⟨hv, h⟩
  rw [hc.fromDisk_encode hw] at hreads
  exact (Except.ok.inj hreads).symm

/-- If a shorter beginning could be read, it would begin with a written form that begins the
whole, which can only be the whole. -/
theorem Exact.refused_of_cutOff (hc : c.Exact fits) {v : α} {b : Bytes} (hv : fits v)
    (hb : b <+: c.encode v) (hne : b ≠ c.encode v) :
    ∃ reason, c.fromDisk b = .error (.serialization reason) := by
  cases hread : c.fromDisk b with
  | error e =>
    obtain ⟨reason, rfl⟩ := fromDisk_eq_error hread
    exact ⟨reason, rfl⟩
  | ok w =>
    obtain ⟨hw, hbegins⟩ := hc.fromDisk_eq_ok.mp hread
    have hwv : w = v := hc.eq_of_encode_begins hw hv (hbegins.trans hb)
    subst hwv
    exact absurd (hb.eq_of_length_le hbegins.length_le) hne

theorem Exact.isPrefixCode (hc : c.Exact fits) : c.IsPrefixCode fits where
  fromDisk_eq_ok _ _ := hc.fromDisk_eq_ok
  fromDisk_encode _ hv := hc.fromDisk_encode hv
  eq_of_encode_eq _ _ hv hw h := hc.eq_of_encode_begins hv hw (h ▸ List.prefix_rfl)
  eq_of_encode_begins _ _ hv hw h := hc.eq_of_encode_begins hv hw h
  refused_of_cutOff _ _ hv hb hne := hc.refused_of_cutOff hv hb hne
  encode_append_rest _ _ _ h := (hc.decode_eq_ok.mp h).2.symm

end Codec

/-- Every type that is kept on disk is written in a prefix code, on the values whose parts a length
can count. -/
theorem records_are_prefix_codes :
    State.codec.IsPrefixCode State.Fits ∧ BlockMeta.codec.IsPrefixCode BlockMeta.Fits ∧
      ValidatorSet.codec.IsPrefixCode ValidatorSet.Fits ∧
      ConsensusParams.codec.IsPrefixCode ConsensusParams.Fits :=
  ⟨State.codec_exact.isPrefixCode, BlockMeta.codec_exact.isPrefixCode,
    ValidatorSet.codec_exact.isPrefixCode, ConsensusParams.codec_exact.isPrefixCode⟩

end ChainRollback
