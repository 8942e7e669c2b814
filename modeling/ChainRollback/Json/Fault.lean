import ChainRollback.Bytes
import ChainRollback.Text.Quoted
import ChainRollback.Text.Shortest

/-! # Faults in JSON text

A text fails to be a record in one of three ways: it breaks the grammar, it ends too early, or it
is well formed so far and says something the record cannot hold. Only the last has a text of its
own.
-/
namespace ChainRollback.Json

inductive Found where
  | integer (value : Int)
  /-- A number with a fraction or an exponent, or outside the integers of 64 bits: a double, by
  its bits. -/
  | floating (bits : UInt64)
  | boolean (value : Bool)
  | text (value : String)
  | null
  | sequence
  | map
  deriving DecidableEq, Repr

inductive DataFault where
  | wrongType (found : Found) (expected : String)
  | outOfRange (value : Int) (expected : String)
  /-- A list in place of a record, with too few elements. -/
  | tooShort (length : Nat) (expected : String)
  | missing (field : String)
  | duplicate (field : String)
  /-- The value is of the right type and the record refuses it. -/
  | refused (reason : String)
  deriving DecidableEq, Repr

inductive Fault where
  | malformed
  | truncated
  | data (fault : DataFault)
  deriving DecidableEq, Repr

def Found.describe : Found → String
  | integer value => "integer `" ++ toString value ++ "`"
  | floating bits => "floating point `" ++ Text.renderDouble bits ++ "`"
  | boolean value => "boolean `" ++ toString value ++ "`"
  | text value => "string " ++ Text.quote value
  | null => "null"
  | sequence => "sequence"
  | map => "map"

def DataFault.message : DataFault → String
  | wrongType found expected => "invalid type: " ++ found.describe ++ ", expected " ++ expected
  | outOfRange value expected =>
    "invalid value: " ++ (Found.integer value).describe ++ ", expected " ++ expected
  | tooShort length expected =>
    "invalid length " ++ toString length ++ ", expected " ++ expected
  | missing field => "missing field `" ++ field ++ "`"
  | duplicate field => "duplicate field `" ++ field ++ "`"
  | refused reason => reason

def Fault.category : Fault → String
  | .malformed => "syntax"
  | .truncated => "eof"
  | .data _ => "data"

abbrev Reader (α : Type) := Bytes → Except Fault (α × Bytes)

def isBlank (b : UInt8) : Bool := b == 0x20 || b == 0x0A || b == 0x09 || b == 0x0D

def skipBlank (text : Bytes) : Bytes := text.dropWhile isBlank

/-- Reads the rest of a word that began with its first letter. -/
def skipWord : (word : Bytes) → Bytes → Except Fault Bytes
  | [], text => .ok text
  | _ :: _, [] => .error .truncated
  | w :: word, b :: text => if b = w then skipWord word text else .error .malformed

/-- The bytes of `ull`, `rue` and `alse`, what is left of the three words. -/
def afterN : Bytes := [0x75, 0x6C, 0x6C]

def afterT : Bytes := [0x72, 0x75, 0x65]

def afterF : Bytes := [0x61, 0x6C, 0x73, 0x65]

end ChainRollback.Json
