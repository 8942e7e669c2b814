import ChainRollback.Keys.Primitives

/-! # Remembered keys

Deriving a public key is slow, and the seeds of synthetic validators are one byte, repeated. Their
keys are derived at most once each. This changes nothing but the time it takes.
-/
namespace ChainRollback.Primitives

variable (prim : Primitives)

/-- The keys of the seeds that repeat one byte, each derived when it is first asked for. -/
def repeatedKeys : Array (Thunk Bytes32) :=
  Array.ofFn fun (i : Fin 256) => Thunk.mk fun _ => prim.publicKey (.replicate (UInt8.ofNat i))

def lookUp (table : Array (Thunk Bytes32)) (seed : Bytes32) : Bytes32 :=
  match if seed = .replicate (seed.bytes.headD 0) then table[(seed.bytes.headD 0).toNat]? else none
  with
  | some key => key.get
  | none => prim.publicKey seed

def remember : Primitives :=
  let table := prim.repeatedKeys
  ⟨prim.digest, prim.lookUp table⟩

theorem lookUp_repeatedKeys (seed : Bytes32) :
    prim.lookUp prim.repeatedKeys seed = prim.publicKey seed := by
  unfold lookUp
  split
  · rename_i key h
    split at h
    · rename_i hseed
      simp only [repeatedKeys, Array.getElem?_ofFn] at h
      split at h
      · cases h
        simp only [Thunk.get, UInt8.ofNat_toNat]
        rw [← hseed]
      · simp at h
    · simp at h
  · rfl

@[simp] theorem remember_eq : prim.remember = prim := by
  have h : prim.lookUp prim.repeatedKeys = prim.publicKey := funext prim.lookUp_repeatedKeys
  simp [remember, h]

end ChainRollback.Primitives
