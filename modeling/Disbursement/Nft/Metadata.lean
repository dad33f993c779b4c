import Disbursement.Codec
import Disbursement.Check

/-!
# Token metadata

What the metadata program keeps about a token. Of the account only the beginning is read: the core
fields, which must be there, and an optional tail, which counts only if all of it can be read.

* `Metadata.load` reads an account and refuses one whose core is not well formed.
-/

namespace Disbursement

/-- The collection a token says it belongs to. -/
structure Collection where
  /-- Whether the collection confirms it. -/
  verified : Bool
  /-- The mint that stands for the collection. -/
  key : Address
  deriving DecidableEq

/-- Someone who made a token. -/
structure Creator where
  address : Address
  verified : Bool
  /-- Percentage of the royalties. -/
  share : UInt8
  deriving DecidableEq

/-- The fields that every metadata account has, behind its first byte. -/
structure MetadataCore where
  updateAuthority : Address
  mint : Address
  name : String
  symbol : String
  uri : String
  sellerFee : UInt16
  creators : Option (List Creator)
  primarySale : Bool
  isMutable : Bool
  editionNonce : Option UInt8
  deriving DecidableEq

/-- What may still be used of a consumable token. -/
structure TokenUses where
  method : UInt8
  remaining : UInt64
  total : UInt64
  deriving DecidableEq

/-- The fields behind the core, as far as they are read. -/
structure MetadataTail where
  tokenStandard : Option UInt8
  collection : Option Collection
  uses : Option TokenUses
  deriving DecidableEq

/-- The metadata of a token, as far as it is read. -/
structure Metadata where
  core : MetadataCore
  tail : MetadataTail
  deriving DecidableEq

namespace Metadata

/-! ## Layout -/

/-- The format of a collection. -/
def collectionCodec : Codec Collection :=
  (Codec.bool.pair .bytes32).imap (fun (verified, key) => { verified, key })
    fun c => (c.verified, c.key)

/-- The format of a creator. -/
def creatorCodec : Codec Creator :=
  (Codec.bytes32.pair <| Codec.bool.pair .u8).imap
    (fun (address, verified, share) => { address, verified, share })
    fun c => (c.address, c.verified, c.share)

/-- The format of the core fields. -/
def coreCodec : Codec MetadataCore :=
  (Codec.bytes32.pair <| Codec.bytes32.pair <| Codec.text.pair <| Codec.text.pair <|
    Codec.text.pair <| Codec.u16.pair <| (Codec.option (.list creatorCodec)).pair <|
    Codec.bool.pair <| Codec.bool.pair <| Codec.option .u8).imap
    (fun (updateAuthority, mint, name, symbol, uri, sellerFee, creators, primarySale, isMutable,
        editionNonce) =>
      { updateAuthority, mint, name, symbol, uri, sellerFee, creators, primarySale, isMutable,
        editionNonce })
    fun m => (m.updateAuthority, m.mint, m.name, m.symbol, m.uri, m.sellerFee, m.creators,
      m.primarySale, m.isMutable, m.editionNonce)

/-- The format of the uses of a token; there are three methods. -/
def usesCodec : Codec TokenUses :=
  ((Codec.enumeration [0, 1, 2]).pair <| Codec.u64.pair .u64).imap
    (fun (method, remaining, total) => { method, remaining, total })
    fun u => (u.method, u.remaining, u.total)

/-- The format of the tail; there are six token standards. -/
def tailCodec : Codec MetadataTail :=
  ((Codec.option (.enumeration [0, 1, 2, 3, 4, 5])).pair <| (Codec.option collectionCodec).pair <|
    Codec.option usesCodec).imap
    (fun (tokenStandard, collection, uses) => { tokenStandard, collection, uses })
    fun t => (t.tokenStandard, t.collection, t.uses)

/-! ## Reading -/

/-- The first byte of a metadata account. -/
def mark : UInt8 := 4

/-- The tail at the start of the input; one that cannot be read whole counts as empty. -/
def loadTail (input : Bytes) : MetadataTail :=
  match tailCodec.decode input with
  | .ok (tail, _) => tail
  | .error _ => { tokenStandard := none, collection := none, uses := none }

/-- The metadata in the given data, if its mark and its core are well formed. -/
def load (data : Bytes) : Option Metadata :=
  match data with
  | [] => none
  | first :: rest =>
    if first = mark then
      match coreCodec.decode rest with
      | .ok (core, rest) => some { core, tail := loadTail rest }
      | .error _ => none
    else none

end Metadata

end Disbursement
