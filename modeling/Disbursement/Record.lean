import Disbursement.Check
import Disbursement.Codec
import Disbursement.Digest.Sha256
import Disbursement.EntryError

/-!
# Records

A record is a value that fills the data of an account: eight bytes that name its type, then its
fields. Bytes behind the fields are ignored when a record is read and kept when one is written, so a
record may become shorter without its account being cleared.

* `discriminator` names a type, an instruction or an event by the start of a digest.
* `Record.load` reads a record, `Record.store` writes one over the data of an account.
-/

namespace Disbursement

/-- Eight bytes that name a member of a family: the start of the digest of `family:name`. -/
def discriminator (family name : String) : Bytes :=
  (Sha256.digestText (family ++ ":" ++ name)).toList.take 8

/-- A type whose values fill the data of an account. -/
class Record (α : Type) where
  /-- The name from which the discriminator comes. -/
  typeName : String
  /-- The format of the fields. -/
  fields : Codec α

namespace Record

variable {α : Type} [Record α]

/-- The eight bytes in front of every record of a type. -/
def mark (α : Type) [Record α] : Bytes :=
  discriminator "account" (typeName α)

/-- The bytes of a record. -/
def encode (value : α) : Bytes :=
  mark α ++ fields.encode value

/-- The record at the start of some account data. -/
def load (data : Bytes) : Except EntryError α := do
  ensure (8 ≤ data.length) .discriminatorMissing
  ensure (data.take 8 = mark α) .discriminatorMismatch
  match fields.decode (data.drop 8) with
  | .ok (value, _) => return value
  | .error _ => throw .recordInvalid

/-- The account data after a record is written over it, as far as it fits. -/
def writeOver (data : Bytes) (value : α) : Bytes :=
  data.writeOver (encode value)

/-- The account data after a record is written over it, if it fits. -/
def store (data : Bytes) (value : α) : Except EntryError Bytes := do
  ensure ((encode value).length ≤ data.length) .recordTooLong
  return writeOver data value

end Record

end Disbursement
