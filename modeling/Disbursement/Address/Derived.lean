import Disbursement.Address.Known
import Disbursement.Check
import Disbursement.Curve.Edwards25519
import Disbursement.Digest.Sha256
import Disbursement.Refusal

/-!
# Derived addresses

A program has addresses of its own, which it derives from seeds and which no private key can sign
for. A derived address is a SHA-256 digest that is not a point of the curve; a one-byte bump behind
the seeds is searched until that holds.

* `DerivedAddress.preimage` is what is hashed, `DerivedAddress.create` the address for given seeds
  if it is off the curve, `DerivedAddress.find` the search over the bumps from 255 down to 1.
* `Identity` lists what this program keeps at derived addresses; `Identity.seeds` are its seeds.
* `tokenAccountOf` and `metadataOf` are the addresses that two other programs derive for a mint.
-/

namespace Disbursement

/-! ## Derivation -/

namespace DerivedAddress

/-- The text that keeps these preimages apart from other hash inputs. -/
def domainMark : Bytes :=
  Bytes.ofText "ProgramDerivedAddress"

/-- What is hashed: the seeds one after another, the program and the domain mark. -/
def preimage (seeds : List Bytes) (program : Address) : Bytes :=
  seeds.flatten ++ program.toList ++ domainMark

/-- The address for these seeds, unless it is a point of the curve. -/
def create (seeds : List Bytes) (program : Address) : Option Address :=
  let digest := Sha256.digest (preimage seeds program)
  if Edwards25519.isPoint digest then none else some digest

/-- The bumps in the order they are tried. -/
def bumps : List UInt8 :=
  (List.range 255).map fun tried => 255 - UInt8.ofNat tried

/-- The first address off the curve and its bump. -/
def find (seeds : List Bytes) (program : Address) : Option (Address × UInt8) :=
  bumps.findSome? fun bump =>
    (create (seeds ++ [[bump]]) program).map fun address => (address, bump)

end DerivedAddress

/-! ## The addresses of this program -/

/-- What lives at a derived address. -/
inductive Identity where
  /-- The vault whose name hashes to `path`. -/
  | vault (path : Digest)
  /-- The signer that holds custody for a vault, or is published for a schedule. -/
  | signer (account : Address)
  /-- The schedule with this event identifier. -/
  | schedule (eventId : UInt64)
  /-- The marker of one claim slot. -/
  | marker (eventId : UInt64) (index : UInt16) (key : Address)
  deriving DecidableEq

namespace Identity

/-- First seed of a vault. -/
def vaultSeed : Bytes :=
  [93, 85, 196, 21, 227, 86, 221, 123]

/-- First seed of a signer. -/
def signerSeed : Bytes :=
  [2, 151, 229, 53, 244, 77, 229, 7]

/-- First seed of a schedule. -/
def scheduleSeed : Bytes :=
  [244, 131, 10, 29, 174, 41, 128, 68]

/-- First seed of a marker. -/
def markerSeed : Bytes :=
  Bytes.ofText "redeem_index"

/-- The seeds in front of the bump. -/
def seeds : Identity → List Bytes
  | vault path => [vaultSeed, path.toList]
  | signer account => [signerSeed, account.toList]
  | schedule eventId => [scheduleSeed, Bytes.ofNatLE 8 eventId.toNat]
  | marker eventId index key =>
    [markerSeed, Bytes.ofNatLE 8 eventId.toNat, Bytes.ofNatLE 2 index.toNat, key.toList]

/-- All seeds of the address with a known bump. -/
def seedsWith (identity : Identity) (bump : UInt8) : List Bytes :=
  identity.seeds ++ [[bump]]

/-- The address of an identity with a known bump, unless it is a point of the curve. -/
def addressWith (identity : Identity) (bump : UInt8) (program : Address) : Option Address :=
  DerivedAddress.create (identity.seedsWith bump) program

/-- The address of an identity and its bump. -/
def find (identity : Identity) (program : Address) : Option (Address × UInt8) :=
  DerivedAddress.find identity.seeds program

end Identity

/-- Go on only if a supplied address is the derived one. -/
def verifyAddress (supplied expected : Address) : Except Refusal Unit :=
  ensure (supplied = expected) .invalidDerivedAddress

/-- The path of a vault with a human-readable name. -/
def vaultPath (name : String) : Digest :=
  Sha256.digestText name

/-! ## Addresses of other programs -/

/-- The token account of `holder` for a mint. -/
def tokenAccountOf (holder mint : Address) : Option Address :=
  (DerivedAddress.find [holder.toList, Address.tokenProgram.toList, mint.toList]
    Address.associatedTokenProgram).map Prod.fst

/-- First seed of a metadata account. -/
def metadataSeed : Bytes :=
  Bytes.ofText "metadata"

/-- The metadata account of a mint and its bump. -/
def metadataOf (mint : Address) : Option (Address × UInt8) :=
  DerivedAddress.find [metadataSeed, Address.metadataProgram.toList, mint.toList]
    Address.metadataProgram

end Disbursement
