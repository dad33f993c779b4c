import Disbursement.Record

/-!
# Events

What the program reports about a change, for readers outside it: eight bytes that name the kind of
event, then its fields.

* `Event` lists the events with their fields in wire order; `EventKind` names them.
* `Event.encode` writes an event. `Event.decode` recognises one by its first eight bytes and returns
  what follows it.
-/

namespace Disbursement

/-- The kinds of event. -/
inductive EventKind where
  | vaultCreated
  | vaultAdminsUpdated
  | ownershipTransferInitiated
  | ownershipTransferCompleted
  | ownershipTransferCancelled
  | scheduleCreated
  | scheduleStatusChanged
  | redeemIndexInitialized
  | redeemed
  | solWithdrawn
  | tokenWithdrawn
  deriving DecidableEq

namespace EventKind

/-- Every kind of event. -/
def all : List EventKind := [
  vaultCreated, vaultAdminsUpdated, ownershipTransferInitiated, ownershipTransferCompleted,
  ownershipTransferCancelled, scheduleCreated, scheduleStatusChanged, redeemIndexInitialized,
  redeemed, solWithdrawn, tokenWithdrawn]

/-- The name of a kind, from which its first eight bytes come. -/
def label : EventKind → String
  | vaultCreated => "VaultCreated"
  | vaultAdminsUpdated => "VaultAdminsUpdated"
  | ownershipTransferInitiated => "OwnershipTransferInitiated"
  | ownershipTransferCompleted => "OwnershipTransferCompleted"
  | ownershipTransferCancelled => "OwnershipTransferCancelled"
  | scheduleCreated => "ScheduleCreated"
  | scheduleStatusChanged => "ScheduleStatusChanged"
  | redeemIndexInitialized => "RedeemIndexInitialized"
  | redeemed => "Redeemed"
  | solWithdrawn => "SolWithdrawn"
  | tokenWithdrawn => "TokenWithdrawn"

/-- The first eight bytes of every event of a kind. -/
def mark (kind : EventKind) : Bytes :=
  discriminator "event" kind.label

end EventKind

/-- A reported change. The last field of every event is the time. -/
inductive Event where
  | vaultCreated (vault owner vaultSigner : Address) (timestamp : Int64)
  | vaultAdminsUpdated (vault owner : Address) (adminCount : UInt8) (timestamp : Int64)
  | ownershipTransferInitiated (vault currentOwner pendingOwner : Address) (timestamp : Int64)
  | ownershipTransferCompleted (vault oldOwner newOwner : Address) (timestamp : Int64)
  | ownershipTransferCancelled (vault owner cancelledPending : Address) (timestamp : Int64)
  | scheduleCreated (vault schedule scheduleSigner : Address) (eventId : UInt64)
      (scheduleType : UInt8) (userCount : UInt16) (root : Digest) (timestamp : Int64)
  | scheduleStatusChanged (schedule admin : Address) (isActive : Bool) (timestamp : Int64)
  | redeemIndexInitialized (schedule marker : Address) (index : UInt16)
      (nftMint markerKey : Address) (timestamp : Int64)
  | redeemed (schedule : Address) (index : UInt16) (recipient receivingMint : Address)
      (receivingAmount sendingAmount : UInt64) (timestamp : Int64)
  | solWithdrawn (vault admin recipient : Address) (amount : UInt64) (timestamp : Int64)
  | tokenWithdrawn (vault admin source recipient : Address) (amount : UInt64) (timestamp : Int64)
  deriving DecidableEq

namespace Event

/-! ## Fields -/

/-- Three addresses and a time, the fields of most events on vaults. -/
def addressFields : Codec (Address × Address × Address × Int64) :=
  Codec.bytes32.pair <| Codec.bytes32.pair <| Codec.bytes32.pair .i64

/-- The fields of a change of admins. -/
def adminFields : Codec (Address × Address × UInt8 × Int64) :=
  Codec.bytes32.pair <| Codec.bytes32.pair <| Codec.u8.pair .i64

/-- The fields of a new schedule. -/
def scheduleFields :
    Codec (Address × Address × Address × UInt64 × UInt8 × UInt16 × Digest × Int64) :=
  Codec.bytes32.pair <| Codec.bytes32.pair <| Codec.bytes32.pair <| Codec.u64.pair <|
    Codec.u8.pair <| Codec.u16.pair <| Codec.bytes32.pair .i64

/-- The fields of a change of activity. -/
def statusFields : Codec (Address × Address × Bool × Int64) :=
  Codec.bytes32.pair <| Codec.bytes32.pair <| Codec.bool.pair .i64

/-- The fields of a new marker. -/
def markerFields : Codec (Address × Address × UInt16 × Address × Address × Int64) :=
  Codec.bytes32.pair <| Codec.bytes32.pair <| Codec.u16.pair <| Codec.bytes32.pair <|
    Codec.bytes32.pair .i64

/-- The fields of a redemption. -/
def redemptionFields :
    Codec (Address × UInt16 × Address × Address × UInt64 × UInt64 × Int64) :=
  Codec.bytes32.pair <| Codec.u16.pair <| Codec.bytes32.pair <| Codec.bytes32.pair <|
    Codec.u64.pair <| Codec.u64.pair .i64

/-- The fields of a withdrawal of lamports. -/
def lamportFields : Codec (Address × Address × Address × UInt64 × Int64) :=
  Codec.bytes32.pair <| Codec.bytes32.pair <| Codec.bytes32.pair <| Codec.u64.pair .i64

/-- The fields of a withdrawal of tokens. -/
def tokenFields : Codec (Address × Address × Address × Address × UInt64 × Int64) :=
  Codec.bytes32.pair <| Codec.bytes32.pair <| Codec.bytes32.pair <| Codec.bytes32.pair <|
    Codec.u64.pair .i64

/-! ## Events as bytes -/

/-- The kind of an event. -/
def kind : Event → EventKind
  | vaultCreated .. => .vaultCreated
  | vaultAdminsUpdated .. => .vaultAdminsUpdated
  | ownershipTransferInitiated .. => .ownershipTransferInitiated
  | ownershipTransferCompleted .. => .ownershipTransferCompleted
  | ownershipTransferCancelled .. => .ownershipTransferCancelled
  | scheduleCreated .. => .scheduleCreated
  | scheduleStatusChanged .. => .scheduleStatusChanged
  | redeemIndexInitialized .. => .redeemIndexInitialized
  | redeemed .. => .redeemed
  | solWithdrawn .. => .solWithdrawn
  | tokenWithdrawn .. => .tokenWithdrawn

/-- The bytes of the fields. -/
def encodeFields : Event → Bytes
  | vaultCreated vault owner signer time => addressFields.encode (vault, owner, signer, time)
  | vaultAdminsUpdated vault owner count time => adminFields.encode (vault, owner, count, time)
  | ownershipTransferInitiated vault current pending time =>
    addressFields.encode (vault, current, pending, time)
  | ownershipTransferCompleted vault old new time => addressFields.encode (vault, old, new, time)
  | ownershipTransferCancelled vault owner dropped time =>
    addressFields.encode (vault, owner, dropped, time)
  | scheduleCreated vault schedule signer eventId type count root time =>
    scheduleFields.encode (vault, schedule, signer, eventId, type, count, root, time)
  | scheduleStatusChanged schedule admin active time =>
    statusFields.encode (schedule, admin, active, time)
  | redeemIndexInitialized schedule marker index mint key time =>
    markerFields.encode (schedule, marker, index, mint, key, time)
  | redeemed schedule index recipient mint receiving sending time =>
    redemptionFields.encode (schedule, index, recipient, mint, receiving, sending, time)
  | solWithdrawn vault admin recipient amount time =>
    lamportFields.encode (vault, admin, recipient, amount, time)
  | tokenWithdrawn vault admin source recipient amount time =>
    tokenFields.encode (vault, admin, source, recipient, amount, time)

/-- The event of a kind whose fields stand at the start of the input, and the rest. -/
def decodeFields (input : Bytes) : EventKind → Except DecodeError (Event × Bytes)
  | .vaultCreated => (addressFields.decode input).map fun ((vault, owner, signer, time), rest) =>
    (vaultCreated vault owner signer time, rest)
  | .vaultAdminsUpdated => (adminFields.decode input).map fun ((vault, owner, count, time), rest) =>
    (vaultAdminsUpdated vault owner count time, rest)
  | .ownershipTransferInitiated =>
    (addressFields.decode input).map fun ((vault, current, pending, time), rest) =>
      (ownershipTransferInitiated vault current pending time, rest)
  | .ownershipTransferCompleted =>
    (addressFields.decode input).map fun ((vault, old, new, time), rest) =>
      (ownershipTransferCompleted vault old new time, rest)
  | .ownershipTransferCancelled =>
    (addressFields.decode input).map fun ((vault, owner, dropped, time), rest) =>
      (ownershipTransferCancelled vault owner dropped time, rest)
  | .scheduleCreated =>
    (scheduleFields.decode input).map
      fun ((vault, schedule, signer, eventId, type, count, root, time), rest) =>
        (scheduleCreated vault schedule signer eventId type count root time, rest)
  | .scheduleStatusChanged =>
    (statusFields.decode input).map fun ((schedule, admin, active, time), rest) =>
      (scheduleStatusChanged schedule admin active time, rest)
  | .redeemIndexInitialized =>
    (markerFields.decode input).map fun ((schedule, marker, index, mint, key, time), rest) =>
      (redeemIndexInitialized schedule marker index mint key time, rest)
  | .redeemed =>
    (redemptionFields.decode input).map
      fun ((schedule, index, recipient, mint, receiving, sending, time), rest) =>
        (redeemed schedule index recipient mint receiving sending time, rest)
  | .solWithdrawn =>
    (lamportFields.decode input).map fun ((vault, admin, recipient, amount, time), rest) =>
      (solWithdrawn vault admin recipient amount time, rest)
  | .tokenWithdrawn =>
    (tokenFields.decode input).map fun ((vault, admin, source, recipient, amount, time), rest) =>
      (tokenWithdrawn vault admin source recipient amount time, rest)

/-- The bytes of an event. -/
def encode (event : Event) : Bytes :=
  event.kind.mark ++ event.encodeFields

/-- The event at the start of the input and the rest, or `none` if no kind of event starts so. -/
def decode (input : Bytes) : Except DecodeError (Option (Event × Bytes)) :=
  match EventKind.all.find? fun kind => kind.mark.isPrefixOf input with
  | some kind => (decodeFields (input.drop 8) kind).map some
  | none => .ok none

end Event

end Disbursement
