import Disbursement.Event

/-!
# Named fields of events

`Event.namedFields` shows an event as a list of names and values, for readers that know the names
but not the layout. `Event.encodeFields_eq_flatMap` says that the bytes of an event are the bytes of
these values, one after another.
-/

namespace Disbursement

/-- The value of a field. -/
inductive EventField where
  /-- An address or a digest. -/
  | key (value : Bytes32)
  | byte (value : UInt8)
  | short (value : UInt16)
  | long (value : UInt64)
  | flag (value : Bool)
  | time (value : Int64)
  deriving DecidableEq

/-- The bytes of a field. -/
def EventField.encode : EventField → Bytes
  | key value => Codec.bytes32.encode value
  | byte value => Codec.u8.encode value
  | short value => Codec.u16.encode value
  | long value => Codec.u64.encode value
  | flag value => Codec.bool.encode value
  | time value => Codec.i64.encode value

namespace Event

/-- The fields of an event with their names, in the order of the wire. -/
def namedFields : Event → List (String × EventField)
  | vaultCreated vault owner signer time =>
    [("vault", .key vault), ("owner", .key owner), ("vault_signer", .key signer),
      ("timestamp", .time time)]
  | vaultAdminsUpdated vault owner count time =>
    [("vault", .key vault), ("owner", .key owner), ("admin_count", .byte count),
      ("timestamp", .time time)]
  | ownershipTransferInitiated vault current pending time =>
    [("vault", .key vault), ("current_owner", .key current), ("pending_owner", .key pending),
      ("timestamp", .time time)]
  | ownershipTransferCompleted vault old new time =>
    [("vault", .key vault), ("old_owner", .key old), ("new_owner", .key new),
      ("timestamp", .time time)]
  | ownershipTransferCancelled vault owner dropped time =>
    [("vault", .key vault), ("owner", .key owner), ("cancelled_pending", .key dropped),
      ("timestamp", .time time)]
  | scheduleCreated vault schedule signer eventId type count root time =>
    [("vault", .key vault), ("schedule", .key schedule), ("schedule_signer", .key signer),
      ("event_id", .long eventId), ("schedule_type", .byte type), ("user_count", .short count),
      ("merkle_root", .key root), ("timestamp", .time time)]
  | scheduleStatusChanged schedule admin active time =>
    [("schedule", .key schedule), ("admin", .key admin), ("is_active", .flag active),
      ("timestamp", .time time)]
  | redeemIndexInitialized schedule marker index mint markerKey time =>
    [("schedule", .key schedule), ("redeem_index", .key marker), ("index", .short index),
      ("nft_mint", .key mint), ("marker_key", .key markerKey), ("timestamp", .time time)]
  | redeemed schedule index recipient mint receiving sending time =>
    [("schedule", .key schedule), ("index", .short index), ("recipient", .key recipient),
      ("receiving_token_mint", .key mint), ("receiving_amount", .long receiving),
      ("sending_amount", .long sending), ("timestamp", .time time)]
  | solWithdrawn vault admin recipient amount time =>
    [("vault", .key vault), ("admin", .key admin), ("recipient", .key recipient),
      ("amount", .long amount), ("timestamp", .time time)]
  | tokenWithdrawn vault admin source recipient amount time =>
    [("vault", .key vault), ("admin", .key admin), ("source", .key source),
      ("recipient", .key recipient), ("amount", .long amount), ("timestamp", .time time)]

theorem encodeFields_eq_flatMap (event : Event) :
    event.encodeFields = event.namedFields.flatMap fun field => field.2.encode := by
  cases event <;>
    simp [encodeFields, namedFields, EventField.encode, Codec.pair, addressFields, adminFields,
      scheduleFields, statusFields, markerFields, redemptionFields, lamportFields, tokenFields]

end Event

end Disbursement
