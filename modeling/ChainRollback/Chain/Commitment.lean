import ChainRollback.Chain.State
import ChainRollback.Hash.Merkle
import ChainRollback.Keys.Primitives

/-! # Commitments to chain data

The hashes by which a header refers to a validator set and to the parameters. A set is committed
to by the keys and powers of its validators in order, and by nothing else.
-/
namespace ChainRollback

def Validator.leaf (v : Validator) : Bytes :=
  v.pubKey.bytes ++ Bytes.bigEndian 8 v.votingPower.toUInt64.toNat

def ValidatorSet.hash (digest : Bytes → Bytes32) (s : ValidatorSet) : Bytes32 :=
  Merkle.root digest (s.validators.map Validator.leaf)

def ConsensusParams.preimage (p : ConsensusParams) : Bytes :=
  Bytes.bigEndian 8 p.block.maxBytes.toUInt64.toNat ++
    Bytes.bigEndian 8 p.block.maxGas.toUInt64.toNat ++
    Bytes.bigEndian 8 p.version.appVersion.toNat

def ConsensusParams.hash (digest : Bytes → Bytes32) (p : ConsensusParams) : Bytes32 :=
  digest p.preimage

end ChainRollback
