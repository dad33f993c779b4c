import Disbursement.Claim

/-!
# Requests to redeem

What a claimant submits: the entitlement that is relied on, the numbers of the leaf and its proof.
The leaf itself is not submitted; `RedeemRequest.allocation` rebuilds it from the claimant and the
request, so that only the entitled claimant can arrive at a committed one.
-/

namespace Disbursement

/-- What a claimant relies on. -/
inductive Entitlement where
  /-- The wallet is named in the leaf. -/
  | wallet
  /-- The wallet is named in the leaf, which also names the mint that is paid. -/
  | walletMint (mint : Address)
  /-- The claimant holds this token of the collection, and the leaf names it. -/
  | nft (mint collection : Address)
  /-- The claimant holds this token, and the leaf names its collection. -/
  | collection (mint collection : Address)
  deriving DecidableEq

namespace Entitlement

/-- The kind of schedule that is redeemed from. -/
def kind : Entitlement → ScheduleKind
  | wallet => .distribution
  | walletMint _ => .multi
  | nft .. => .nft
  | collection .. => .collection

/-- The token that must be held, and its collection. -/
def token? : Entitlement → Option (Address × Address)
  | nft mint group => some (mint, group)
  | collection mint group => some (mint, group)
  | _ => none

/-- Who the leaf pays. -/
def beneficiary (user : Address) : Entitlement → Beneficiary
  | wallet => .wallet user
  | walletMint _ => .wallet user
  | nft mint group => .nft mint group
  | collection _ group => .collection group

/-- The mint that the leaf names. -/
def receivingMint? : Entitlement → Option Address
  | walletMint mint => some mint
  | _ => none

/-- Only claims by collection use markers. -/
theorem exists_eq_collection {e : Entitlement} (h : e.kind.trackingMode = .marker) :
    ∃ mint group, e = .collection mint group := by
  cases e with
  | collection mint group => exact ⟨mint, group, rfl⟩
  | wallet | walletMint mint | nft mint group =>
    exact absurd h (by simp [kind, ScheduleKind.trackingMode])

/-- Claims on the schedules for wallets need no token and pay the claimant. -/
theorem wallet_of_kind {e : Entitlement} (h : e.kind = .distribution ∨ e.kind = .multi) :
    e.token? = none ∧ ∀ user, e.beneficiary user = .wallet user := by
  cases e with
  | wallet | walletMint mint => exact ⟨rfl, fun _ => rfl⟩
  | nft mint group | collection mint group => exact absurd h (by simp [kind])

end Entitlement

/-- A request to redeem. -/
structure RedeemRequest where
  entitlement : Entitlement
  index : UInt16
  timestamp : Int64
  receivingAmount : UInt64
  sendingAmount : UInt64
  proof : List ProofNode
  deriving DecidableEq

namespace RedeemRequest

/-- The leaf that the request claims for a user. -/
def allocation (r : RedeemRequest) (user : Address) : Allocation where
  index := r.index
  timestamp := r.timestamp
  beneficiary := r.entitlement.beneficiary user
  receivingMint := r.entitlement.receivingMint?
  receivingAmount := r.receivingAmount
  sendingAmount := r.sendingAmount

/-- The claim of a user. -/
def claim (r : RedeemRequest) (user : Address) : Claim where
  kind := r.entitlement.kind
  allocation := r.allocation user
  proof := r.proof

end RedeemRequest

end Disbursement
