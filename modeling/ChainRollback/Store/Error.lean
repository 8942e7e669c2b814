import ChainRollback.Height

/-! # Errors of the stores -/
namespace ChainRollback

inductive StoreError where
  | notFound (what : String)
  | empty
  /-- A block was offered at height `got` to a store that ends at `height`. -/
  | nonContiguous (height got : Height)
  | backend (reason : String)
  | serialization (reason : String)
  | corruption (reason : String)
  deriving DecidableEq

namespace StoreError

def message : StoreError → String
  | notFound what => "not found: " ++ what
  | empty => "block store is empty"
  | nonContiguous height got =>
    "block at height " ++ toString got ++ " does not extend store height " ++ toString height
  | backend reason => "storage backend error: " ++ reason
  | serialization reason => "serialization error: " ++ reason
  | corruption reason => "database is corrupted: " ++ reason

def isNotFound : StoreError → Bool
  | notFound _ => true
  | _ => false

def noValidators (h : Height) : StoreError :=
  .notFound ("validator set at height " ++ toString h)

def noParams (h : Height) : StoreError :=
  .notFound ("consensus params at height " ++ toString h)

end StoreError
end ChainRollback
