import Disbursement.Address.Derived
import Disbursement.Amount
import Disbursement.Failure
import Disbursement.Ledger.Arena
import Disbursement.Nft.Gate
import Disbursement.Redemption.Request

/-!
# Ledgers

The rules of the vault without accounts, signatures and programs: records by address, balances by
owner and mint, single tokens by mint, and a clock. Every operation returns the ledger afterwards or
fails, and then the ledger is what it was.

* Administration: `Ledger.createVault`, `setVault`, `transferOwnership`, `acceptOwnership`,
  `cancelOwnershipTransfer`, `createSchedule`, `setScheduleStatus`, `withdraw`.
* Claims: `Ledger.initRedeemIndex`, `Ledger.redeem`.
* Surroundings: `Ledger.fund`, `mintNft`, `transferNft`, and the field `now`.
-/

namespace Disbursement

/-- A single token. -/
structure NftHolding where
  holder : Address
  amount : UInt64
  collection : Option Collection
  deriving DecidableEq

/-- Records, balances, single tokens and a clock. -/
structure Ledger where
  /-- The time. -/
  now : Int64
  arena : Arena
  /-- The balance of an owner in a mint. -/
  balance : Address → Address → UInt64
  /-- The token of a mint. -/
  nft? : Address → Option NftHolding

namespace Ledger

/-- A ledger without records and balances. -/
def new : Ledger where
  now := 1700000000
  arena := .empty
  balance _ _ := 0
  nft? _ := none

/-! ## Records -/

/-- The vault at an address. -/
def vault? (l : Ledger) (address : Address) : Option Vault :=
  match l.arena.get? address with
  | some (.vault vault) => some vault
  | _ => none

/-- The schedule at an address. -/
def schedule? (l : Ledger) (address : Address) : Option Schedule :=
  match l.arena.get? address with
  | some (.schedule schedule) => some schedule
  | _ => none

/-- The marker at an address. -/
def marker? (l : Ledger) (address : Address) : Option Marker :=
  match l.arena.get? address with
  | some (.marker marker) => some marker
  | _ => none

/-- The vault that must be at an address. -/
def vault (l : Ledger) (address : Address) : Except Refusal Vault :=
  demand (l.vault? address) .invalidAccount

/-- The schedule that must be at an address. -/
def schedule (l : Ledger) (address : Address) : Except Refusal Schedule :=
  demand (l.schedule? address) .invalidAccount

/-- Add a record. -/
def create (l : Ledger) (address : Address) (record : LedgerRecord) : Except Refusal Ledger := do
  let arena ← l.arena.create address record
  return { l with arena }

/-- Replace a record. -/
def update (l : Ledger) (address : Address) (record : LedgerRecord) : Ledger :=
  { l with arena := l.arena.update address record }

/-- The address of an identity and its bump. -/
def addressOf (identity : Identity) : Except Failure (Address × UInt8) :=
  demand (identity.find Address.program) .unaddressable

/-- The custody signer of a vault. -/
def signerOf (vault : Address) : Except Failure Address :=
  (addressOf (.signer vault)).map Prod.fst

/-! ## Balances and tokens -/

/-- Replace a balance. -/
def putBalance (l : Ledger) (owner mint : Address) (amount : UInt64) : Ledger :=
  { l with balance := fun other otherMint =>
      if other = owner ∧ otherMint = mint then amount else l.balance other otherMint }

/-- Give an owner an amount out of nothing. -/
def fund (l : Ledger) (owner mint : Address) (amount : UInt64) : Ledger :=
  l.putBalance owner mint (l.balance owner mint + amount)

/-- Move an amount between owners, who may be the same. -/
def move (l : Ledger) (source target mint : Address) (amount : UInt64) : Except Refusal Ledger := do
  let left ← demand (Amount.sub? (l.balance source mint) amount) .insufficientVaultBalance
  let l := l.putBalance source mint left
  let grown ← demand (Amount.add? (l.balance target mint) amount) .arithmeticOverflow
  return l.putBalance target mint grown

/-- Mint a token under a key that the caller has generated. -/
def mintNft (l : Ledger) (mint holder : Address) (collection : Option Collection) : Ledger :=
  { l with nft? := fun other =>
      if other = mint then some { holder, amount := 1, collection } else l.nft? other }

/-- Hand a token over; nothing happens if there is no such token. -/
def transferNft (l : Ledger) (mint target : Address) : Ledger :=
  { l with nft? := fun other =>
      if other = mint then (l.nft? mint).map fun token => { token with holder := target }
      else l.nft? other }

/-! ## Administration -/

/-- Open the vault of a name. -/
def createVault (l : Ledger) (owner : Address) (name : String) :
    Except Failure (Address × Ledger) := do
  let (address, bump) ← addressOf (.vault (vaultPath name))
  let (_, signerNonce) ← addressOf (.signer address)
  let l ← l.create address (.vault (Vault.create owner bump signerNonce))
  return (address, l)

/-- The owner replaces the admins. -/
def setVault (l : Ledger) (caller address : Address) (admins : List Address) :
    Except Refusal Ledger := do
  let vault ← l.vault address
  vault.requireOwner caller
  let vault ← vault.setAdmins admins
  return l.update address (.vault vault)

/-- The owner proposes a successor. -/
def transferOwnership (l : Ledger) (caller address newOwner : Address) :
    Except Refusal Ledger := do
  let vault ← l.vault address
  vault.requireOwner caller
  let vault ← vault.propose newOwner
  return l.update address (.vault vault)

/-- The proposed successor becomes the owner. -/
def acceptOwnership (l : Ledger) (caller address : Address) : Except Refusal Ledger := do
  let vault ← l.vault address
  let (_, vault) ← vault.accept caller
  return l.update address (.vault vault)

/-- The owner drops a proposal. -/
def cancelOwnershipTransfer (l : Ledger) (caller address : Address) : Except Refusal Ledger := do
  let vault ← l.vault address
  vault.requireOwner caller
  let (_, vault) ← vault.cancel
  return l.update address (.vault vault)

/-- Publish a schedule. -/
def createSchedule (l : Ledger) (caller vaultAddress : Address) (kind : ScheduleKind)
    (terms : ScheduleTerms) : Except Failure (Address × Ledger) := do
  let vault ← l.vault vaultAddress
  vault.requireAdmin caller
  let (address, bump) ← addressOf (.schedule terms.eventId)
  let schedule ← Schedule.create vaultAddress bump l.now kind terms
  let l ← l.create address (.schedule schedule)
  return (address, l)

/-- Open or close a schedule for claims. -/
def setScheduleStatus (l : Ledger) (caller vaultAddress address : Address) (isActive : Bool) :
    Except Refusal Ledger := do
  let vault ← l.vault vaultAddress
  vault.requireAdmin caller
  let schedule ← l.schedule address
  ensure (schedule.vault = vaultAddress) .invalidVault
  return l.update address (.schedule { schedule with isActive })

/-- Take an amount out of custody. -/
def withdraw (l : Ledger) (caller vaultAddress mint recipient : Address) (amount : UInt64) :
    Except Failure Ledger := do
  let signer ← signerOf vaultAddress
  let vault ← l.vault vaultAddress
  vault.requireAdmin caller
  ensure (0 < amount) Refusal.invalidAmount
  l.move signer recipient mint amount

/-! ## Claims -/

/-- Create the marker of a claim slot. -/
def initRedeemIndex (l : Ledger) (scheduleAddress : Address) (index : UInt16) (nftMint : Address) :
    Except Failure (Address × Ledger) := do
  let schedule ← l.schedule scheduleAddress
  schedule.requireActive
  schedule.requireKind .collection
  schedule.requireIndex index
  let key := schedule.markerKey nftMint
  let (address, bump) ← addressOf (.marker schedule.eventId index key)
  let l ← l.create address (.marker (Marker.create bump scheduleAddress index key))
  return (address, l)

/-- The gate for token holders. -/
def passGate (l : Ledger) (user : Address) (e : Entitlement) : Except Refusal Unit :=
  match e.token? with
  | none => return
  | some (mint, group) => do
    let token ← demand (l.nft? mint) .invalidTokenAccount
    Nft.verifyHolding user mint token.holder mint token.amount
    Nft.verifyCollection token.collection group

/-- The marker of the claim slot and its address, where the schedule uses markers. A claim without a
token looks under the native mint. -/
def findMarker (l : Ledger) (schedule : Schedule) (r : RedeemRequest) :
    Except Failure (Option (Address × Marker)) :=
  match schedule.kind.trackingMode with
  | .bitmap => return none
  | .marker => do
    let mint := (r.entitlement.token?.map Prod.fst).getD Address.nativeMint
    let (address, _) ← addressOf (.marker schedule.eventId r.index (schedule.markerKey mint))
    return (l.marker? address).map fun marker => (address, marker)

/-- Move both legs of a payout, the sending one first. -/
def payOut (l : Ledger) (user signer sendingAccount : Address) (payout : Payout) :
    Except Refusal Ledger := do
  let l ← match payout.sending with
    | some leg => l.move user sendingAccount leg.asset.mint leg.amount
    | none => pure l
  l.move signer user payout.receiving.asset.mint payout.receiving.amount

/-- Redeem a leaf. -/
def redeem (l : Ledger) (user scheduleAddress : Address) (r : RedeemRequest) :
    Except Failure (Payout × Ledger) := do
  l.passGate user r.entitlement
  let schedule ← l.schedule scheduleAddress
  let found ← l.findMarker schedule r
  let settlement ← (r.claim user).settle schedule (found.map Prod.snd) l.now
  let signer ← signerOf schedule.vault
  let l ← l.payOut user signer schedule.sendingAccount settlement.payout
  let l := l.update scheduleAddress (.schedule settlement.schedule)
  let l := match found, settlement.marker with
    | some (address, _), some marker => l.update address (.marker marker)
    | _, _ => l
  return (settlement.payout, l)

end Ledger

end Disbursement
