import ChainRollback.FileTree.Basic
import ChainRollback.Json.Fault
import ChainRollback.Signer.Key
import ChainRollback.Signer.SignState

/-! # Errors of the validator files -/
namespace ChainRollback

inductive SignerError where
  | read (path : String) (error : IoError)
  | write (path : String) (error : IoError)
  | json (path : String) (fault : Json.Fault)
  | invalidKey (path : String) (fault : KeyFault)
  | invalidStep (value : UInt8)
  deriving DecidableEq

/-- What a fault says for itself. -/
def Json.Fault.message : Json.Fault → String
  | .malformed => "malformed text"
  | .truncated => "unexpected end of text"
  | .data fault => fault.message

namespace SignerError

/-- The error without the account of what is wrong inside a JSON text. -/
def headline : SignerError → String
  | read path error => "failed to read " ++ path ++ ": " ++ error.message
  | write path error => "failed to write " ++ path ++ ": " ++ error.message
  | json path _ => "invalid JSON in " ++ path
  | invalidKey path fault => "invalid key file " ++ path ++ ": " ++ fault.message
  | invalidStep value => SignStep.refusal value

def message : SignerError → String
  | e@(json _ fault) => e.headline ++ ": " ++ fault.message
  | e => e.headline

/-- The error it stems from, in words, if it has one of its own. -/
def causes : SignerError → List String
  | read _ error => [error.message]
  | write _ error => [error.message]
  | json _ fault => [fault.message]
  | invalidKey .. => []
  | invalidStep _ => []

end SignerError

/-- Which half of a reset failed. -/
inductive CheckpointError where
  | load (error : SignerError)
  | reset (error : SignerError)
  deriving DecidableEq

namespace CheckpointError

def error : CheckpointError → SignerError
  | load e => e
  | reset e => e

def headline : CheckpointError → String
  | load _ => "failed to load private validator file"
  | reset _ => "failed to reset private validator file"

def message (e : CheckpointError) : String := e.headline ++ ": " ++ e.error.message

end CheckpointError
end ChainRollback
