import Disbursement.Record
import Disbursement.Refusal

/-!
# Markers

A distribution to a whole collection keeps no bitmap: each claim slot has an account of its own, the
marker, which is created before the claim. That the marker exists stops a second creation, and its
flag stops a second claim.
-/

namespace Disbursement

/-- The account of one claim slot. -/
structure Marker where
  /-- Bump of the address of the marker. -/
  bump : UInt8
  /-- The schedule it belongs to. -/
  schedule : Address
  /-- The leaf it guards. -/
  index : UInt16
  /-- The token it is for, or the native mint if the slot is shared by all tokens. -/
  key : Address
  isRedeemed : Bool
  deriving DecidableEq

namespace Marker

/-- The marker of a slot that nobody has claimed. -/
def create (bump : UInt8) (schedule : Address) (index : UInt16) (key : Address) : Marker where
  bump
  schedule
  index
  key
  isRedeemed := false

/-- Go on only if the marker is the one of this slot. -/
def requireSlot (m : Marker) (schedule : Address) (index : UInt16) (key : Address) :
    Except Refusal Unit := do
  ensure (m.schedule = schedule) .invalidAccount
  ensure (m.key = key) .invalidAccount
  ensure (m.index = index) .invalidAccount

/-- Whether the leaf is redeemed, for the leaf this marker guards. -/
def redeemed? (m : Marker) (index : UInt16) : Except Refusal Bool := do
  ensure (m.index = index) .invalidAccount
  return m.isRedeemed

/-- Redeem the leaf this marker guards. -/
def mark (m : Marker) (index : UInt16) : Except Refusal Marker := do
  ensure (m.index = index) .invalidAccount
  ensure (m.isRedeemed = false) .alreadyRedeemed
  return { m with isRedeemed := true }

/-- The wire format of the fields. -/
def codec : Codec Marker :=
  (Codec.u8.pair <| Codec.bytes32.pair <| Codec.u16.pair <| Codec.bytes32.pair .bool).imap
    (fun (bump, schedule, index, key, isRedeemed) => { bump, schedule, index, key, isRedeemed })
    fun m => (m.bump, m.schedule, m.index, m.key, m.isRedeemed)

instance : Record Marker where
  typeName := "RedeemIndex"
  fields := codec

/-- The data length of a marker account. -/
def space : Nat :=
  8 + 1 + 32 + 2 + 32 + 1

end Marker

end Disbursement
