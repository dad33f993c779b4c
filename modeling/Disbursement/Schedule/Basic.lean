import Disbursement.Record
import Disbursement.Redemption.Bitmap
import Disbursement.Schedule.Kind

/-!
# Schedules

A schedule binds the root of one commitment tree to a vault, together with the assets that are paid
and asked for. Everything but its activity and its bitmap is fixed when it is created.

* `Schedule.create` makes a schedule from its terms.
* `Schedule.requireActive`, `requireKind`, `requireIndex` and `requireUnlocked` are the checks that
  a claim passes one after another.
* `Schedule.space` is the exact length of its account.
-/

namespace Disbursement

/-- What is laid down for a schedule besides its kind. -/
structure ScheduleTerms where
  /-- Identifier that no two schedules share. -/
  eventId : UInt64
  /-- Number of committed leaves. -/
  userCount : UInt16
  /-- Unlock time of the whole schedule; zero leaves it to the leaves. -/
  unlock : Int64
  /-- Root of the commitment tree. -/
  root : Digest
  scope : MarkerScope
  /-- Mint of what is paid. -/
  receivingMint : Address
  /-- Custody token account from which it is paid. -/
  receivingAccount : Address
  /-- Mint of what is asked for. -/
  sendingMint : Address
  /-- Account into which that is paid. -/
  sendingAccount : Address
  deriving DecidableEq

/-- A distribution of a vault. -/
structure Schedule where
  /-- Bump of the address of the schedule. -/
  bump : UInt8
  /-- The vault it belongs to. -/
  vault : Address
  eventId : UInt64
  /-- Time of creation. -/
  createdAt : Int64
  unlock : Int64
  root : Digest
  kind : ScheduleKind
  scope : MarkerScope
  receivingMint : Address
  receivingAccount : Address
  sendingMint : Address
  sendingAccount : Address
  isActive : Bool
  userCount : UInt16
  /-- The redeemed leaves; empty where markers remember them. -/
  redemptions : RedemptionBitmap
  deriving DecidableEq

namespace Schedule

/-! ## Creation -/

/-- The number of leaves to reserve bits for, given the wire value of a kind. An unknown value
reserves none. -/
def trackedLeaves (kind : UInt8) (userCount : UInt16) : UInt16 :=
  match (ScheduleKind.ofByte kind).map ScheduleKind.trackingMode with
  | .ok .bitmap => userCount
  | _ => 0

/-- A new schedule, active and without redemptions. It commits at least one leaf, and has bits for
its leaves unless markers remember them. -/
def create (vault : Address) (bump : UInt8) (now : Int64) (kind : ScheduleKind)
    (terms : ScheduleTerms) : Except Refusal Schedule := do
  ensure (0 < terms.userCount) .invalidUserCount
  return {
    bump, vault, kind
    eventId := terms.eventId
    createdAt := now
    unlock := terms.unlock
    root := terms.root
    scope := terms.scope
    receivingMint := terms.receivingMint
    receivingAccount := terms.receivingAccount
    sendingMint := terms.sendingMint
    sendingAccount := terms.sendingAccount
    isActive := true
    userCount := terms.userCount
    redemptions := .empty <|
      match kind.trackingMode with
      | .bitmap => terms.userCount
      | .marker => 0 }

/-- The schedule that zero bytes describe. -/
def blank : Schedule where
  bump := 0
  vault := Bytes32.zero
  eventId := 0
  createdAt := 0
  unlock := 0
  root := Bytes32.zero
  kind := .distribution
  scope := .perMint
  receivingMint := Bytes32.zero
  receivingAccount := Bytes32.zero
  sendingMint := Bytes32.zero
  sendingAccount := Bytes32.zero
  isActive := false
  userCount := 0
  redemptions := .empty 0

/-! ## Checks of a claim -/

/-- The layout of the leaves. -/
def leafEncoding (s : Schedule) : LeafEncoding :=
  s.kind.leafEncoding s.unlock

/-- The key of the marker for a token. -/
def markerKey (s : Schedule) (mint : Address) : Address :=
  s.scope.markerKey mint

/-- Go on only if the schedule is active. -/
def requireActive (s : Schedule) : Except Refusal Unit :=
  ensure (s.isActive = true) .scheduleInactive

/-- Go on only for a schedule of this kind. -/
def requireKind (s : Schedule) (kind : ScheduleKind) : Except Refusal Unit :=
  ensure (s.kind = kind) .wrongScheduleType

/-- Go on only for an index that the schedule declares. -/
def requireIndex (s : Schedule) (index : UInt16) : Except Refusal Unit :=
  ensure (index < s.userCount) .indexOutOfRange

/-- When a leaf with this time unlocks. Layouts without a time know only the schedule, timestamped
wallet leaves only their own time, and token leaves wait for both. -/
def unlockTime (s : Schedule) (leafTime : Int64) : Int64 :=
  match s.leafEncoding with
  | .legacy | .multiLegacy => s.unlock
  | .timestamped | .multiTimestamped => leafTime
  | .nftSpecific | .nftCollection => if s.unlock ≤ leafTime then leafTime else s.unlock

/-- Go on only from the unlock time on. -/
def requireUnlocked (s : Schedule) (leafTime now : Int64) : Except Refusal Unit :=
  ensure (s.unlockTime leafTime ≤ now) .scheduleLocked

/-! ## The record -/

/-- The wire format of the fields. -/
def codec : Codec Schedule :=
  (Codec.u8.pair <| Codec.bytes32.pair <| Codec.u64.pair <| Codec.i64.pair <| Codec.i64.pair <|
    Codec.bytes32.pair <| ScheduleKind.codec.pair <| MarkerScope.codec.pair <|
    Codec.bytes32.pair <| Codec.bytes32.pair <| Codec.bytes32.pair <| Codec.bytes32.pair <|
    Codec.bool.pair <| Codec.u16.pair RedemptionBitmap.codec).imap
    (fun (bump, vault, eventId, createdAt, unlock, root, kind, scope, receivingMint,
        receivingAccount, sendingMint, sendingAccount, isActive, userCount, redemptions) =>
      { bump, vault, eventId, createdAt, unlock, root, kind, scope, receivingMint,
        receivingAccount, sendingMint, sendingAccount, isActive, userCount, redemptions })
    fun s => (s.bump, s.vault, s.eventId, s.createdAt, s.unlock, s.root, s.kind, s.scope,
      s.receivingMint, s.receivingAccount, s.sendingMint, s.sendingAccount, s.isActive, s.userCount,
      s.redemptions)

instance : Record Schedule where
  typeName := "Schedule"
  fields := codec

/-- The data length of a schedule account with room for so many bits. -/
def space (trackedLeaves : UInt16) : Nat :=
  8 + 1 + 32 + 8 + 8 + 8 + 32 + 1 + 1 + 32 * 4 + 1 + 2 + 4
    + RedemptionBitmap.byteLength trackedLeaves

end Schedule

end Disbursement
