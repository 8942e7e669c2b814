import ChainRollback.Bytes

/-! # Validators and validator sets

The proposer of a fresh set is the last of the validators with the greatest priority. Powers add
up to a total that stops at the ends of the 64-bit range.
-/
namespace ChainRollback

structure Validator where
  address : Bytes
  pubKey : Bytes32
  votingPower : Int64
  proposerPriority : Int64
  deriving DecidableEq, Inhabited

structure ValidatorSet where
  validators : List Validator
  proposer : Option Validator
  deriving DecidableEq, Inhabited

/-- The sum, or the end of the range that it lies beyond. -/
def saturatingSum (a b : Int64) : Int64 :=
  if a.toInt + b.toInt < -0x8000000000000000 then Int64.minValue
  else if 0x8000000000000000 ≤ a.toInt + b.toInt then Int64.maxValue
  else a + b

/-- The later of two validators unless the earlier has strictly greater priority. -/
def Validator.prefer (best next : Validator) : Validator :=
  if next.proposerPriority < best.proposerPriority then best else next

namespace ValidatorSet

def empty : ValidatorSet := ⟨[], none⟩

def ofList (validators : List Validator) : ValidatorSet where
  validators := validators
  proposer := match validators with
    | [] => none
    | v :: rest => some (rest.foldl Validator.prefer v)

def size (s : ValidatorSet) : Nat := s.validators.length

def isEmpty (s : ValidatorSet) : Bool := s.validators.isEmpty

def totalVotingPower (s : ValidatorSet) : Int64 :=
  s.validators.foldl (fun total v => saturatingSum total v.votingPower) 0

def find? (s : ValidatorSet) (address : Bytes) : Option Validator :=
  s.validators.find? fun v => v.address == address

end ValidatorSet
end ChainRollback
