import ChainRollback.Proofs.Record.Exact
import ChainRollback.Record.Chain
import Mathlib.Tactic.MkIffOfInductiveProp

/-! # The records of the chain are exact

A value fits if no byte string, text or sequence in it is longer than its length prefix can count,
which no value in memory is. Each stored type is exact on the values that fit.
-/
namespace ChainRollback
open Codec

def Validator.Fits (v : Validator) : Prop := BytesFit v.address

@[mk_iff]
structure ValidatorSet.Fits (s : ValidatorSet) : Prop where
  length : s.validators.length < Bytes.capacity 8
  validators : ∀ v ∈ s.validators, v.Fits
  proposer : ∀ v, s.proposer = some v → v.Fits

@[mk_iff]
structure ConsensusParams.Fits (p : ConsensusParams) : Prop where
  length : p.validator.pubKeyTypes.length < Bytes.capacity 8
  pubKeyTypes : ∀ t ∈ p.validator.pubKeyTypes, TextFits t

@[mk_iff]
structure BlockId.Fits (id : BlockId) : Prop where
  hash : BytesFit id.hash
  parts : BytesFit id.partSetHeader.hash

@[mk_iff]
structure Header.Fits (h : Header) : Prop where
  chainId : TextFits h.chainId
  lastBlockId : h.lastBlockId.Fits
  lastCommitHash : BytesFit h.lastCommitHash
  dataHash : BytesFit h.dataHash
  validatorsHash : BytesFit h.validatorsHash
  nextValidatorsHash : BytesFit h.nextValidatorsHash
  consensusHash : BytesFit h.consensusHash
  appHash : BytesFit h.appHash
  lastResultsHash : BytesFit h.lastResultsHash
  evidenceHash : BytesFit h.evidenceHash
  proposerAddress : BytesFit h.proposerAddress

@[mk_iff]
structure BlockMeta.Fits (b : BlockMeta) : Prop where
  blockId : b.blockId.Fits
  header : b.header.Fits

@[mk_iff]
structure State.Fits (s : State) : Prop where
  software : TextFits s.version.software
  chainId : TextFits s.chainId
  lastBlockId : s.lastBlockId.Fits
  nextValidators : s.nextValidators.Fits
  validators : s.validators.Fits
  lastValidators : s.lastValidators.Fits
  consensusParams : s.consensusParams.Fits
  lastResultsHash : BytesFit s.lastResultsHash
  appHash : BytesFit s.appHash

theorem Validator.codec_exact : Validator.codec.Exact Validator.Fits :=
  (bytes_exact.pair <| bytes32_exact.pair <| i64_exact.pair i64_exact).iso
    (fun _ => rfl) (fun _ _ => rfl) fun v => by simp [Validator.Fits]

theorem ValidatorSet.codec_exact : ValidatorSet.codec.Exact ValidatorSet.Fits :=
  (Validator.codec_exact.list.pair Validator.codec_exact.option).iso
    (fun _ => rfl) (fun _ _ => rfl) fun s => by simp [ValidatorSet.fits_iff, and_assoc]

theorem ValidatorParams.codec_exact : ValidatorParams.codec.Exact fun p =>
    p.pubKeyTypes.length < Bytes.capacity 8 ∧ ∀ t ∈ p.pubKeyTypes, TextFits t :=
  text_exact.list.iso (fun _ => rfl) (fun _ _ => rfl) fun _ => Iff.rfl

theorem BlockParams.codec_exact : BlockParams.codec.Exact fun _ => True :=
  (i64_exact.pair i64_exact).iso (fun _ => rfl) (fun _ _ => rfl) fun _ => by simp

theorem EvidenceParams.codec_exact : EvidenceParams.codec.Exact fun _ => True :=
  (i64_exact.pair <| u64_exact.pair i64_exact).iso (fun _ => rfl) (fun _ _ => rfl)
    fun _ => by simp

theorem VersionParams.codec_exact : VersionParams.codec.Exact fun _ => True :=
  u64_exact.iso (fun _ => rfl) (fun _ _ => rfl) fun _ => Iff.rfl

theorem ConsensusParams.codec_exact : ConsensusParams.codec.Exact ConsensusParams.Fits :=
  (BlockParams.codec_exact.pair <| EvidenceParams.codec_exact.pair <|
    ValidatorParams.codec_exact.pair VersionParams.codec_exact).iso
    (fun _ => rfl) (fun _ _ => rfl) fun p => by simp [ConsensusParams.fits_iff]

theorem Timestamp.codec_exact : Timestamp.codec.Exact fun _ => True :=
  u64_exact.iso (fun _ => rfl) (fun _ _ => rfl) fun _ => Iff.rfl

theorem PartSetHeader.codec_exact : PartSetHeader.codec.Exact fun h => BytesFit h.hash :=
  (u32_exact.pair bytes_exact).iso (fun _ => rfl) (fun _ _ => rfl) fun _ => by simp

theorem BlockId.codec_exact : BlockId.codec.Exact BlockId.Fits :=
  (bytes_exact.pair PartSetHeader.codec_exact).iso (fun _ => rfl) (fun _ _ => rfl)
    fun id => by simp [BlockId.fits_iff]

theorem ConsensusVersion.codec_exact : ConsensusVersion.codec.Exact fun _ => True :=
  (u64_exact.pair u64_exact).iso (fun _ => rfl) (fun _ _ => rfl) fun _ => by simp

theorem Header.codec_exact : Header.codec.Exact Header.Fits :=
  (ConsensusVersion.codec_exact.pair <| text_exact.pair <| i64_exact.pair <|
    Timestamp.codec_exact.pair <| BlockId.codec_exact.pair <| bytes_exact.pair <|
    bytes_exact.pair <| bytes_exact.pair <| bytes_exact.pair <| bytes_exact.pair <|
    bytes_exact.pair <| bytes_exact.pair <| bytes_exact.pair bytes_exact).iso
    (fun _ => rfl) (fun _ _ => rfl) fun h => by simp [Header.fits_iff]

theorem BlockMeta.codec_exact : BlockMeta.codec.Exact BlockMeta.Fits :=
  (BlockId.codec_exact.pair <| u64_exact.pair <| Header.codec_exact.pair u64_exact).iso
    (fun _ => rfl) (fun _ _ => rfl) fun b => by simp [BlockMeta.fits_iff]

theorem Version.codec_exact : Version.codec.Exact fun v => TextFits v.software :=
  (ConsensusVersion.codec_exact.pair text_exact).iso (fun _ => rfl) (fun _ _ => rfl)
    fun _ => by simp

theorem State.codec_exact : State.codec.Exact State.Fits :=
  (Version.codec_exact.pair <| text_exact.pair <| i64_exact.pair <| i64_exact.pair <|
    BlockId.codec_exact.pair <| Timestamp.codec_exact.pair <| ValidatorSet.codec_exact.pair <|
    ValidatorSet.codec_exact.pair <| ValidatorSet.codec_exact.pair <| i64_exact.pair <|
    ConsensusParams.codec_exact.pair <| i64_exact.pair <| bytes_exact.pair bytes_exact).iso
    (fun _ => rfl) (fun _ _ => rfl) fun s => by simp [State.fits_iff]

end ChainRollback
