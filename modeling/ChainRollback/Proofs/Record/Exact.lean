import ChainRollback.Proofs.Outcome
import ChainRollback.Proofs.Text.Utf8
import ChainRollback.Record.Codec

/-! # Reading is the inverse of writing

A codec is exact on the values that fit its length prefixes if it reads those from their written
form, whatever follows it, and reads nothing from any other input. Every combinator hands this on
from its parts, so a record is exact once its smallest parts are.
-/
namespace ChainRollback

namespace Codec

variable {α β : Type} {c : Codec α} {d : Codec β} {fits : α → Prop} {fits' : β → Prop}

structure Exact (c : Codec α) (fits : α → Prop) : Prop where
  decode_eq_ok : ∀ {b : Bytes} {v : α} {rest : Bytes},
    c.decode b = .ok (v, rest) ↔ fits v ∧ b = c.encode v ++ rest

theorem takeBytes_eq_ok {fault : RecordFault} {n : Nat} {b front rest : Bytes} :
    takeBytes fault n b = .ok (front, rest) ↔ front.length = n ∧ b = front ++ rest := by
  unfold takeBytes
  split
  · rename_i h
    constructor
    · intro e
      cases e
      exact ⟨List.length_take_of_le h, (List.take_append_drop n b).symm⟩
    · rintro ⟨rfl, rfl⟩
      simp
  · rename_i h
    constructor
    · intro e
      cases e
    · rintro ⟨rfl, rfl⟩
      simp at h

theorem natural_exact (width : Nat) : (natural width).Exact (· < Bytes.capacity width) := by
  refine ⟨fun {b n rest} => ?_⟩
  simp only [natural, map_eq_ok, Prod.exists, takeBytes_eq_ok, Prod.mk.injEq]
  constructor
  · rintro ⟨front, rest', ⟨rfl, rfl⟩, rfl, rfl⟩
    exact ⟨Bytes.ofLittleEndian_lt front, by rw [Bytes.littleEndian_ofLittleEndian]⟩
  · rintro ⟨hn, rfl⟩
    refine ⟨Bytes.littleEndian width n, rest, ⟨by simp, rfl⟩, ?_, rfl⟩
    rw [Bytes.ofLittleEndian_littleEndian, Nat.mod_eq_of_lt hn]

/-- The same layout seen as another type is exact if the two views determine each other. -/
theorem Exact.iso (hc : c.Exact fits) {make : α → β} {back : β → α}
    (make_back : ∀ w, make (back w) = w) (back_make : ∀ v, fits v → back (make v) = v)
    (hfits : ∀ w, fits (back w) ↔ fits' w) : (c.iso make back).Exact fits' := by
  refine ⟨fun {b w rest} => ?_⟩
  simp only [Codec.iso, map_eq_ok, Prod.exists, Prod.mk.injEq, ← hfits]
  constructor
  · rintro ⟨v, rest', h, rfl, rfl⟩
    have hv := hc.decode_eq_ok.mp h
    rw [back_make v hv.1]
    exact hv
  · intro h
    exact ⟨back w, rest, hc.decode_eq_ok.mpr h, make_back w, rfl⟩

theorem Exact.pair (hc : c.Exact fits) (hd : d.Exact fits') :
    (c.pair d).Exact fun p => fits p.1 ∧ fits' p.2 := by
  refine ⟨fun {b p rest} => ?_⟩
  obtain ⟨v, w⟩ := p
  simp only [Codec.pair, bind_eq_ok, Prod.exists, pure_eq_ok, Prod.mk.injEq]
  constructor
  · rintro ⟨v', b', hv, w', rest', hw, ⟨rfl, rfl⟩, rfl⟩
    obtain ⟨hfv, rfl⟩ := hc.decode_eq_ok.mp hv
    obtain ⟨hfw, rfl⟩ := hd.decode_eq_ok.mp hw
    exact ⟨⟨hfv, hfw⟩, by rw [List.append_assoc]⟩
  · rintro ⟨⟨hfv, hfw⟩, rfl⟩
    refine ⟨v, d.encode w ++ rest, hc.decode_eq_ok.mpr ⟨hfv, by rw [List.append_assoc]⟩, w, rest,
      hd.decode_eq_ok.mpr ⟨hfw, rfl⟩, ⟨rfl, rfl⟩, rfl⟩

/-- A byte string whose length its prefix can count. -/
def BytesFit (b : Bytes) : Prop := b.length < Bytes.capacity 8

def TextFits (s : String) : Prop := BytesFit (Utf8.encode s)

instance (b : Bytes) : Decidable (BytesFit b) := inferInstanceAs (Decidable (_ < _))

instance (s : String) : Decidable (TextFits s) := inferInstanceAs (Decidable (BytesFit _))

theorem bytesFit_nil : BytesFit [] := by decide

theorem u8_exact : u8.Exact fun _ => True :=
  (natural_exact 1).iso (fun _ => UInt8.ofNat_toNat) (fun _ hn => UInt8.toNat_ofNat_of_lt hn)
    fun w => ⟨fun _ => trivial, fun _ => w.toNat_lt⟩

theorem u32_exact : u32.Exact fun _ => True :=
  (natural_exact 4).iso (fun _ => UInt32.ofNat_toNat) (fun _ hn => UInt32.toNat_ofNat_of_lt hn)
    fun w => ⟨fun _ => trivial, fun _ => w.toNat_lt⟩

theorem u64_exact : u64.Exact fun _ => True :=
  (natural_exact 8).iso (fun _ => UInt64.ofNat_toNat) (fun _ hn => UInt64.toNat_ofNat_of_lt hn)
    fun w => ⟨fun _ => trivial, fun _ => w.toNat_lt⟩

theorem i64_exact : i64.Exact fun _ => True :=
  u64_exact.iso (fun _ => Int64.toInt64_toUInt64 _) (fun _ _ => UInt64.toUInt64_toInt64 _)
    fun _ => Iff.rfl

theorem bytes_exact : bytes.Exact BytesFit := by
  refine ⟨fun {b v rest} => ?_⟩
  simp only [bytes, bind_eq_ok, Prod.exists, takeBytes_eq_ok]
  constructor
  · rintro ⟨n, b', hn, rfl, rfl⟩
    obtain ⟨hfits, rfl⟩ := (natural_exact 8).decode_eq_ok.mp hn
    exact ⟨hfits, by rw [List.append_assoc]⟩
  · rintro ⟨hfits, rfl⟩
    exact ⟨v.length, v ++ rest,
      (natural_exact 8).decode_eq_ok.mpr ⟨hfits, by rw [List.append_assoc]⟩, rfl, rfl⟩

theorem text_exact : text.Exact TextFits := by
  refine ⟨fun {b s rest} => ?_⟩
  simp only [text, bind_eq_ok, Prod.exists, takeBytes_eq_ok]
  constructor
  · rintro ⟨n, b', hn, front, rest', ⟨rfl, rfl⟩, h⟩
    obtain ⟨hfits, rfl⟩ := (natural_exact 8).decode_eq_ok.mp hn
    cases hs : Utf8.decode front with
    | error fault => simp [hs] at h
    | ok s' =>
      simp only [hs, pure_eq_ok, Prod.mk.injEq] at h
      obtain ⟨rfl, rfl⟩ := h
      rw [Utf8.decode_eq_ok] at hs
      subst hs
      exact ⟨hfits, by rw [List.append_assoc]⟩
  · rintro ⟨hfits, rfl⟩
    refine ⟨(Utf8.encode s).length, Utf8.encode s ++ rest,
      (natural_exact 8).decode_eq_ok.mpr ⟨hfits, by rw [List.append_assoc]⟩, Utf8.encode s, rest,
      ⟨rfl, rfl⟩, ?_⟩
    rw [Utf8.decode_eq_ok.mpr rfl]
    rfl

theorem bytes32_exact : bytes32.Exact fun _ => True := by
  refine ⟨fun {b v rest} => ?_⟩
  simp only [bytes32, true_and]
  split
  · rename_i h
    simp only [Except.ok.injEq, Prod.mk.injEq]
    constructor
    · rintro ⟨rfl, rfl⟩
      exact (List.take_append_drop 32 b).symm
    · rintro rfl
      exact ⟨Bytes32.ext (by simp [v.length_eq]), by simp [v.length_eq]⟩
  · rename_i h
    simp only [reduceCtorEq, false_iff]
    rintro rfl
    simp [v.length_eq] at h

theorem Exact.option (hc : c.Exact fits) : c.option.Exact fun o => ∀ v, o = some v → fits v := by
  refine ⟨fun {b o rest} => ?_⟩
  simp only [Codec.option, bind_eq_ok, Prod.exists]
  constructor
  · rintro ⟨tag, b', htag, h⟩
    obtain ⟨-, rfl⟩ := u8_exact.decode_eq_ok.mp htag
    split at h
    · rename_i ht
      cases h
      subst ht
      exact ⟨fun v hv => (by cases hv), rfl⟩
    · split at h
      · rename_i ht
        simp only [bind_eq_ok, Prod.exists, pure_eq_ok, Prod.mk.injEq] at h
        obtain ⟨v, b'', hv, rfl, rfl⟩ := h
        obtain ⟨hfits, rfl⟩ := hc.decode_eq_ok.mp hv
        subst ht
        exact ⟨fun w hw => Option.some.inj hw ▸ hfits, by rw [List.append_assoc]⟩
      · simp at h
  · rintro ⟨hfits, rfl⟩
    cases o with
    | none => exact ⟨0, rest, u8_exact.decode_eq_ok.mpr ⟨trivial, rfl⟩, by simp⟩
    | some v =>
      refine ⟨1, c.encode v ++ rest,
        u8_exact.decode_eq_ok.mpr ⟨trivial, by rw [List.append_assoc]⟩, ?_⟩
      exact bind_eq_ok.mpr ⟨(v, rest), hc.decode_eq_ok.mpr ⟨hfits v rfl, rfl⟩, rfl⟩

theorem Exact.decodeMany (hc : c.Exact fits) {n : Nat} {b : Bytes} {vs : List α} {rest : Bytes} :
    c.decodeMany n b = .ok (vs, rest) ↔
      vs.length = n ∧ (∀ v ∈ vs, fits v) ∧ b = vs.flatMap c.encode ++ rest := by
  induction n generalizing b vs rest with
  | zero =>
    simp only [Codec.decodeMany, Except.ok.injEq, Prod.mk.injEq]
    constructor
    · rintro ⟨rfl, rfl⟩
      simp
    · rintro ⟨hlen, -, rfl⟩
      cases List.length_eq_zero_iff.mp hlen
      simp
  | succ n ih =>
    simp only [Codec.decodeMany, bind_eq_ok, Prod.exists, pure_eq_ok, Prod.mk.injEq, ih]
    constructor
    · rintro ⟨v, b', hv, vs', rest', ⟨rfl, hfits, rfl⟩, rfl, rfl⟩
      obtain ⟨hfv, rfl⟩ := hc.decode_eq_ok.mp hv
      exact ⟨rfl, List.forall_mem_cons.mpr ⟨hfv, hfits⟩, by simp⟩
    · rintro ⟨hlen, hfits, rfl⟩
      cases vs with
      | nil => simp at hlen
      | cons v vs =>
        obtain ⟨hfv, hfits⟩ := List.forall_mem_cons.mp hfits
        exact ⟨v, vs.flatMap c.encode ++ rest, hc.decode_eq_ok.mpr ⟨hfv, by simp⟩, vs, rest,
          ⟨Nat.succ.inj hlen, hfits, rfl⟩, rfl, rfl⟩

theorem Exact.list (hc : c.Exact fits) :
    c.list.Exact fun vs => vs.length < Bytes.capacity 8 ∧ ∀ v ∈ vs, fits v := by
  refine ⟨fun {b vs rest} => ?_⟩
  simp only [Codec.list, bind_eq_ok, Prod.exists, hc.decodeMany]
  constructor
  · rintro ⟨n, b', hn, rfl, hfits, rfl⟩
    obtain ⟨hlen, rfl⟩ := (natural_exact 8).decode_eq_ok.mp hn
    exact ⟨⟨hlen, hfits⟩, by rw [List.append_assoc]⟩
  · rintro ⟨⟨hlen, hfits⟩, rfl⟩
    exact ⟨vs.length, vs.flatMap c.encode ++ rest,
      (natural_exact 8).decode_eq_ok.mpr ⟨hlen, by rw [List.append_assoc]⟩, rfl, hfits, rfl⟩

/-- What is read from a whole record is what was written, and it fits. -/
theorem Exact.read_eq_ok (hc : c.Exact fits) {b : Bytes} {v : α} :
    c.read b = .ok v ↔ fits v ∧ ∃ rest, b = c.encode v ++ rest := by
  simp only [Codec.read, map_eq_ok, Prod.exists]
  constructor
  · rintro ⟨v', rest, h, rfl⟩
    have hv := hc.decode_eq_ok.mp h
    exact ⟨hv.1, rest, hv.2⟩
  · rintro ⟨hfits, rest, rfl⟩
    exact ⟨v, rest, hc.decode_eq_ok.mpr ⟨hfits, rfl⟩, rfl⟩

theorem Exact.read_encode (hc : c.Exact fits) {v : α} (hv : fits v) :
    c.read (c.encode v) = .ok v :=
  hc.read_eq_ok.mpr ⟨hv, [], (List.append_nil _).symm⟩

end Codec
end ChainRollback
