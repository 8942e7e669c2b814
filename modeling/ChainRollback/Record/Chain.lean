import ChainRollback.Chain.State
import ChainRollback.Record.Codec

/-! # Records of the chain

The layout of each stored type: its fields in the order of its definition.
-/
namespace ChainRollback
open Codec

def Validator.codec : Codec Validator :=
  (bytes.pair <| bytes32.pair <| i64.pair i64).iso
    (fun (address, key, power, priority) => ⟨address, key, power, priority⟩)
    (fun v => (v.address, v.pubKey, v.votingPower, v.proposerPriority))

def ValidatorSet.codec : Codec ValidatorSet :=
  (Validator.codec.list.pair Validator.codec.option).iso
    (fun (validators, proposer) => ⟨validators, proposer⟩)
    (fun s => (s.validators, s.proposer))

def BlockParams.codec : Codec BlockParams :=
  (i64.pair i64).iso (fun (size, gas) => ⟨size, gas⟩) (fun p => (p.maxBytes, p.maxGas))

def EvidenceParams.codec : Codec EvidenceParams :=
  (i64.pair <| u64.pair i64).iso (fun (blocks, nanos, size) => ⟨blocks, nanos, size⟩)
    (fun p => (p.maxAgeNumBlocks, p.maxAgeDurationNanos, p.maxBytes))

def ValidatorParams.codec : Codec ValidatorParams :=
  text.list.iso (fun types => ⟨types⟩) (fun p => p.pubKeyTypes)

def VersionParams.codec : Codec VersionParams :=
  u64.iso (fun app => ⟨app⟩) (fun p => p.appVersion)

def ConsensusParams.codec : Codec ConsensusParams :=
  (BlockParams.codec.pair <| EvidenceParams.codec.pair <|
    ValidatorParams.codec.pair VersionParams.codec).iso
    (fun (block, evidence, validator, version) => ⟨block, evidence, validator, version⟩)
    (fun p => (p.block, p.evidence, p.validator, p.version))

def Timestamp.codec : Codec Timestamp := u64.iso (fun nanos => ⟨nanos⟩) (fun t => t.nanos)

def PartSetHeader.codec : Codec PartSetHeader :=
  (u32.pair bytes).iso (fun (total, hash) => ⟨total, hash⟩) (fun h => (h.total, h.hash))

def BlockId.codec : Codec BlockId :=
  (bytes.pair PartSetHeader.codec).iso (fun (hash, parts) => ⟨hash, parts⟩)
    (fun id => (id.hash, id.partSetHeader))

def ConsensusVersion.codec : Codec ConsensusVersion :=
  (u64.pair u64).iso (fun (block, app) => ⟨block, app⟩) (fun v => (v.block, v.app))

def Header.codec : Codec Header :=
  (ConsensusVersion.codec.pair <| text.pair <| i64.pair <| Timestamp.codec.pair <|
    BlockId.codec.pair <| bytes.pair <| bytes.pair <| bytes.pair <| bytes.pair <| bytes.pair <|
    bytes.pair <| bytes.pair <| bytes.pair bytes).iso
    (fun (version, chainId, height, time, lastBlockId, commit, data, validators, next, consensus,
        app, results, evidence, proposer) =>
      ⟨version, chainId, height, time, lastBlockId, commit, data, validators, next, consensus,
        app, results, evidence, proposer⟩)
    (fun h => (h.version, h.chainId, h.height, h.time, h.lastBlockId, h.lastCommitHash,
      h.dataHash, h.validatorsHash, h.nextValidatorsHash, h.consensusHash, h.appHash,
      h.lastResultsHash, h.evidenceHash, h.proposerAddress))

def BlockMeta.codec : Codec BlockMeta :=
  (BlockId.codec.pair <| u64.pair <| Header.codec.pair u64).iso
    (fun (id, size, header, txs) => ⟨id, size, header, txs⟩)
    (fun m => (m.blockId, m.blockSize, m.header, m.numTxs))

def Version.codec : Codec Version :=
  (ConsensusVersion.codec.pair text).iso (fun (consensus, software) => ⟨consensus, software⟩)
    (fun v => (v.consensus, v.software))

def State.codec : Codec State :=
  (Version.codec.pair <| text.pair <| i64.pair <| i64.pair <| BlockId.codec.pair <|
    Timestamp.codec.pair <| ValidatorSet.codec.pair <| ValidatorSet.codec.pair <|
    ValidatorSet.codec.pair <| i64.pair <| ConsensusParams.codec.pair <| i64.pair <|
    bytes.pair bytes).iso
    (fun (version, chainId, initial, last, id, time, next, current, previous, changed, params,
        paramsChanged, results, app) =>
      ⟨version, chainId, initial, last, id, time, next, current, previous, changed, params,
        paramsChanged, results, app⟩)
    (fun s => (s.version, s.chainId, s.initialHeight, s.lastBlockHeight, s.lastBlockId,
      s.lastBlockTime, s.nextValidators, s.validators, s.lastValidators,
      s.lastHeightValidatorsChanged, s.consensusParams, s.lastHeightConsensusParamsChanged,
      s.lastResultsHash, s.appHash))

end ChainRollback
