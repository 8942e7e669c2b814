import ChainRollback.Json.Printer
import ChainRollback.Json.Record
import ChainRollback.Keys.Primitives

/-! # Validator keys

A key file states a private key, the public key and the address. It is accepted when the public
key and the address are those of the private key.
-/
namespace ChainRollback

structure ValidatorKey where
  address : Bytes
  publicKey : Bytes32
  privateKey : Bytes32
  deriving DecidableEq

/-- The three members of a key file. -/
structure KeyRecord where
  address : Bytes
  publicKey : Bytes
  privateKey : Bytes
  deriving DecidableEq

/-- Why a key file is refused. -/
inductive KeyFault where
  | privateLength (error : FormatError)
  | publicLength (error : FormatError)
  | publicMismatch
  | addressMismatch (stated derived : Bytes)
  deriving DecidableEq

def KeyFault.message : KeyFault → String
  | privateLength error => error.message
  | publicLength error => error.message
  | publicMismatch => "public key does not match private key"
  | addressMismatch stated derived =>
    "address " ++ Hex.encode stated ++ " does not match public key (expected "
      ++ Hex.encode derived ++ ")"

namespace ValidatorKey

variable (prim : Primitives)

def ofPrivate (privateKey : Bytes32) : ValidatorKey :=
  let publicKey := prim.publicKey privateKey
  ⟨prim.address publicKey, publicKey, privateKey⟩

/-- The key that a record states, if it is consistent. -/
def ofRecord (r : KeyRecord) : Except KeyFault ValidatorKey := do
  let privateKey ← (Bytes32.ofSlice r.privateKey).mapError .privateLength
  let stated ← (Bytes32.ofSlice r.publicKey).mapError .publicLength
  let key := ofPrivate prim privateKey
  if key.publicKey ≠ stated then throw .publicMismatch
  if key.address ≠ r.address then throw (.addressMismatch r.address key.address)
  return key

def members (k : ValidatorKey) : List (String × Json.Scalar) :=
  [("address", .hex k.address), ("pub_key", .hex k.publicKey.bytes),
    ("priv_key", .hex k.privateKey.bytes)]

def pretty (k : ValidatorKey) : String := Json.pretty k.members

end ValidatorKey

namespace KeyRecord

/-- A key record of which some members have been read. -/
structure Draft where
  address : Option Bytes := none
  publicKey : Option Bytes := none
  privateKey : Option Bytes := none
  deriving DecidableEq

open Json

def hexInto (put : Draft → Bytes → Draft) (d : Draft) : Reader Draft := fun text =>
  (readHex text).map fun (v, rest) => (put d v, rest)

def format : RecordFormat Draft where
  title := "struct KeyFile"
  blank := {}
  fields := [
    ⟨"address", true, (·.address.isSome), hexInto fun d v => { d with address := some v }⟩,
    ⟨"pub_key", true, (·.publicKey.isSome), hexInto fun d v => { d with publicKey := some v }⟩,
    ⟨"priv_key", true, (·.privateKey.isSome), hexInto fun d v => { d with privateKey := some v }⟩]

def Draft.record (d : Draft) : KeyRecord where
  address := d.address.getD []
  publicKey := d.publicKey.getD []
  privateKey := d.privateKey.getD []

def parse (text : Bytes) : Except Json.Fault KeyRecord := (format.parse text).map Draft.record

end KeyRecord
end ChainRollback
