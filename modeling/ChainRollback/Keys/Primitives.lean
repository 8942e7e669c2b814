import ChainRollback.Keys.Ed25519

/-! # The two primitives

Everything that hashes or derives a key takes these two functions as a parameter, so that what is
proved of it holds for every choice of them.
-/
namespace ChainRollback

structure Primitives where
  digest : Bytes → Bytes32
  publicKey : (seed : Bytes32) → Bytes32

namespace Primitives

def standard : Primitives := ⟨sha256, Ed25519.publicKey⟩

variable (prim : Primitives)

/-- The address of a public key: the first twenty bytes of its digest. -/
def address (key : Bytes32) : Bytes := (prim.digest key.bytes).bytes.take 20

end Primitives
end ChainRollback
