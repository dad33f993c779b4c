import Disbursement.Allocation.Leaf

/-!
# Kinds of schedule

A schedule is of one of four kinds. The kind decides which instruction redeems from it, how its
leaves are laid out and where redemption is remembered.
-/

namespace Disbursement

/-- Where redemption is remembered. -/
inductive TrackingMode where
  /-- A bit per leaf in the schedule. -/
  | bitmap
  /-- A marker account per claim slot. -/
  | marker
  deriving DecidableEq

/-- The name of a mode. -/
def TrackingMode.label : TrackingMode → String
  | bitmap => "bitmap"
  | marker => "marker_account"

/-- The kind of a distribution. -/
inductive ScheduleKind where
  /-- One asset, paid to wallets. -/
  | distribution
  /-- An asset per leaf, paid to wallets. -/
  | multi
  /-- Paid to the holders of single tokens. -/
  | nft
  /-- Paid to the holders of any token of a collection. -/
  | collection
  deriving DecidableEq

namespace ScheduleKind

/-- Every kind, in the order of their wire values. -/
def all : List ScheduleKind :=
  [distribution, multi, nft, collection]

/-- The kind with a wire value. -/
def ofByte (value : UInt8) : Except Refusal ScheduleKind :=
  demand all[value.toNat]? .invalidScheduleType

/-- The wire format of a kind. -/
def codec : Codec ScheduleKind :=
  .enumeration all

/-- The name of a kind. -/
def label : ScheduleKind → String
  | distribution => "distribution"
  | multi => "distribution_multi"
  | nft => "nft_distribution"
  | collection => "nft_collection_distribution"

/-- Where a schedule of this kind remembers redemption. -/
def trackingMode : ScheduleKind → TrackingMode
  | collection => .marker
  | _ => .bitmap

/-- The layout of the leaves. A schedule-wide unlock time selects the layouts without a time of
their own. -/
def leafEncoding (kind : ScheduleKind) (unlock : Int64) : LeafEncoding :=
  match kind with
  | distribution => if 0 < unlock then .legacy else .timestamped
  | multi => if 0 < unlock then .multiLegacy else .multiTimestamped
  | nft => .nftSpecific
  | collection => .nftCollection

/-- Whether a claim is made by the holder of a token. -/
def isNft : ScheduleKind → Bool
  | nft | collection => true
  | _ => false

end ScheduleKind

/-- How far a marker of a collection schedule reaches. -/
inductive MarkerScope where
  /-- Every token of the collection may claim each leaf once. -/
  | perMint
  /-- The first holder uses up the leaf. -/
  | perIndex
  deriving DecidableEq, Inhabited

namespace MarkerScope

/-- Both scopes, in the order of their wire values. -/
def all : List MarkerScope :=
  [perMint, perIndex]

/-- The wire format of a scope. -/
def codec : Codec MarkerScope :=
  .enumeration all

/-- The name of a scope. -/
def label : MarkerScope → String
  | perMint => "per_mint"
  | perIndex => "per_index"

/-- The key under which the marker for a token is kept. -/
def markerKey (scope : MarkerScope) (mint : Address) : Address :=
  match scope with
  | perMint => mint
  | perIndex => Address.nativeMint

end MarkerScope

end Disbursement
