import Disbursement.Merkle.Proof
import Disbursement.Redemption.Tracker
import Disbursement.Schedule.Basic

/-!
# Claims

Every way to redeem goes through `Claim.settle`, which decides whether a claim holds against a
schedule, uses up its slot and says what is owed. Moving the assets is left to the caller.

The checks run in this order, and the first that fails decides the refusal: activity, kind, index,
proof length, unlock time, fit of the leaf layout, proof, and last the slot.
-/

namespace Disbursement

/-! ## What is owed -/

/-- What an amount is counted in. -/
inductive Asset where
  /-- Lamports. -/
  | native
  /-- The token of a mint. -/
  | token (mint : Address)
  deriving DecidableEq

namespace Asset

/-- The asset of a mint. -/
def ofMint (mint : Address) : Asset :=
  if mint = Address.nativeMint then native else token mint

/-- The mint of an asset. -/
def mint : Asset → Address
  | native => Address.nativeMint
  | token mint => mint

end Asset

/-- An amount of an asset that changes hands. -/
structure Leg where
  asset : Asset
  amount : UInt64
  deriving DecidableEq

/-- What an accepted claim moves. -/
structure Payout where
  /-- From custody to the claimant. -/
  receiving : Leg
  /-- From the claimant to the schedule's sending account, if the leaf asks for it. -/
  sending : Option Leg
  deriving DecidableEq

/-- What an allocation of a schedule moves. -/
def Payout.ofAllocation (s : Schedule) (a : Allocation) : Payout where
  receiving :=
    { asset := .ofMint (a.receivingMint.getD s.receivingMint), amount := a.receivingAmount }
  sending :=
    if 0 < a.sendingAmount then some { asset := .ofMint s.sendingMint, amount := a.sendingAmount }
    else none

/-! ## Claims -/

/-- A claim on a schedule of the given kind. -/
structure Claim where
  kind : ScheduleKind
  allocation : Allocation
  proof : List ProofNode
  deriving DecidableEq

/-- The outcome of an accepted claim. -/
structure Settlement where
  payout : Payout
  /-- The schedule afterwards. -/
  schedule : Schedule
  /-- The marker afterwards, where one was given. -/
  marker : Option Marker
  deriving DecidableEq

namespace Claim

/-- Where the redemption of this claim is remembered: the bitmap of the schedule, or the marker. -/
def tracker (s : Schedule) (marker : Option Marker) : Except Refusal Tracker :=
  match s.kind.trackingMode with
  | .bitmap => .ok (.bitmap s.redemptions)
  | .marker => (demand marker .indexNotInitialized).map .marker

/-- The schedule and the marker after the tracker changed. -/
def withTracker (s : Schedule) (marker : Option Marker) : Tracker → Schedule × Option Marker
  | .bitmap redemptions => ({ s with redemptions }, marker)
  | .marker slot => (s, some slot)

/-- Accept a claim and use up its slot, or refuse it. -/
def settle (s : Schedule) (marker : Option Marker) (claim : Claim) (now : Int64) :
    Except Refusal Settlement := do
  s.requireActive
  s.requireKind claim.kind
  s.requireIndex claim.allocation.index
  ensure (claim.proof.length ≤ Merkle.maxProofLength) .invalidProofLength
  s.requireUnlocked claim.allocation.timestamp now
  let leaf ← claim.allocation.leafHash s.leafEncoding
  Merkle.verify s.root leaf claim.proof
  let slots ← tracker s marker
  let slots ← slots.mark claim.allocation.index
  let (schedule, marker) := withTracker s marker slots
  return { payout := .ofAllocation s claim.allocation, schedule, marker }

end Claim

end Disbursement
