import Disbursement.Codec

/-!
# Allocations

An allocation is one entry of a distribution: who is paid, how much, and what is asked in return.
`Allocation.codec` and `Beneficiary.codec` are the wire formats; how an allocation is committed in a
tree is the subject of `Disbursement.Allocation.Leaf`.
-/

namespace Disbursement

/-- Who an allocation pays. -/
inductive Beneficiary where
  /-- A wallet, which signs the claim. -/
  | wallet (address : Address)
  /-- Whoever holds this token of the collection. -/
  | nft (mint collection : Address)
  /-- Whoever holds any token of the collection. -/
  | collection (collection : Address)
  deriving DecidableEq

/-- One entry of a distribution. -/
structure Allocation where
  /-- Place in the tree, and the slot that a claim uses up. -/
  index : UInt16
  /-- Unlock time of this entry. -/
  timestamp : Int64
  beneficiary : Beneficiary
  /-- The mint paid out, where the schedule leaves it to the entry. -/
  receivingMint : Option Address
  /-- What the beneficiary receives. -/
  receivingAmount : UInt64
  /-- What the beneficiary pays. -/
  sendingAmount : UInt64
  deriving DecidableEq

/-- The wire format of a beneficiary: a tag and the addresses of its case. -/
def Beneficiary.codec : Codec Beneficiary where
  encode
    | .wallet address => 0 :: address.toList
    | .nft mint group => 1 :: (mint.toList ++ group.toList)
    | .collection group => 2 :: group.toList
  decode input := do
    let (tag, rest) ← Codec.u8.decode input
    match tag with
    | 0 =>
      let (address, rest) ← Codec.bytes32.decode rest
      return (.wallet address, rest)
    | 1 =>
      let ((mint, group), rest) ← (Codec.bytes32.pair .bytes32).decode rest
      return (.nft mint group, rest)
    | 2 =>
      let (group, rest) ← Codec.bytes32.decode rest
      return (.collection group, rest)
    | _ => throw (.unknownVariant tag)

/-- The wire format of an allocation. -/
def Allocation.codec : Codec Allocation :=
  (Codec.u16.pair <| Codec.i64.pair <| Beneficiary.codec.pair <|
    (Codec.option .bytes32).pair <| Codec.u64.pair .u64).imap
    (fun (index, timestamp, beneficiary, receivingMint, receivingAmount, sendingAmount) =>
      { index, timestamp, beneficiary, receivingMint, receivingAmount, sendingAmount })
    fun a => (a.index, a.timestamp, a.beneficiary, a.receivingMint, a.receivingAmount,
      a.sendingAmount)

end Disbursement
