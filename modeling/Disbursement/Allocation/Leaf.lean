import Disbursement.Address.Known
import Disbursement.Allocation.Basic
import Disbursement.Check
import Disbursement.Merkle.Hash
import Disbursement.Refusal

/-!
# Leaves

An allocation is committed as bytes whose layout the schedule chooses, never the claimant.

* `LeafEncoding` lists the layouts; `LeafEncoding.tag` is the byte that keeps their hashes apart.
* `Allocation.leafBytes` writes an allocation in a layout and refuses one that does not fit it.
* `Allocation.leafHash` is the hash that the tree holds.
-/

namespace Disbursement

/-- The layout of a leaf. -/
inductive LeafEncoding where
  /-- Index, wallet, amounts. -/
  | legacy
  /-- Index, time, wallet, amounts. -/
  | timestamped
  /-- Index, wallet, mint, amounts. -/
  | multiLegacy
  /-- Index, time, wallet, mint, amounts. -/
  | multiTimestamped
  /-- The text `specific`, index, time, mint, collection, amounts. -/
  | nftSpecific
  /-- The text `collection`, index, time, native mint, collection, amounts. -/
  | nftCollection
  deriving DecidableEq

namespace LeafEncoding

/-- Every layout, in the order of their tags. -/
def all : List LeafEncoding :=
  [legacy, timestamped, multiLegacy, multiTimestamped, nftSpecific, nftCollection]

/-- The byte that is hashed with a leaf of this layout. -/
def tag : LeafEncoding → UInt8
  | legacy => 0
  | timestamped => 1
  | multiLegacy => 2
  | multiTimestamped => 3
  | nftSpecific => 4
  | nftCollection => 5

/-- The wire format of a layout. -/
def codec : Codec LeafEncoding :=
  .enumeration all

/-- The name of a layout. -/
def label : LeafEncoding → String
  | legacy => "legacy"
  | timestamped => "timestamped"
  | multiLegacy => "multi_legacy"
  | multiTimestamped => "multi_timestamped"
  | nftSpecific => "nft_specific"
  | nftCollection => "nft_collection"

end LeafEncoding

namespace Allocation

/-- The bytes of an allocation in a layout. Each layout takes one kind of beneficiary, and the two
that name a mint take an allocation that has one. -/
def leafBytes (a : Allocation) (encoding : LeafEncoding) : Except Refusal Bytes :=
  let index := Codec.u16.encode a.index
  let time := Codec.i64.encode a.timestamp
  let amounts := Codec.u64.encode a.receivingAmount ++ Codec.u64.encode a.sendingAmount
  match encoding, a.beneficiary, a.receivingMint with
  | .legacy, .wallet address, none => .ok (index ++ address.toList ++ amounts)
  | .timestamped, .wallet address, none => .ok (index ++ time ++ address.toList ++ amounts)
  | .multiLegacy, .wallet address, some mint =>
    .ok (index ++ address.toList ++ mint.toList ++ amounts)
  | .multiTimestamped, .wallet address, some mint =>
    .ok (index ++ time ++ address.toList ++ mint.toList ++ amounts)
  | .nftSpecific, .nft mint collection, none =>
    .ok (Codec.text.encode "specific" ++ index ++ time ++ mint.toList ++ collection.toList
      ++ amounts)
  | .nftCollection, .collection collection, none =>
    .ok (Codec.text.encode "collection" ++ index ++ time ++ Address.nativeMint.toList
      ++ collection.toList ++ amounts)
  | _, _, _ => .error .leafMismatch

/-- The hash of an allocation as a leaf. -/
def leafHash (a : Allocation) (encoding : LeafEncoding) : Except Refusal Digest :=
  (a.leafBytes encoding).map (Merkle.hashLeaf encoding.tag)

end Allocation

end Disbursement
