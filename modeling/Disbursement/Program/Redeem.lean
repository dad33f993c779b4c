import Disbursement.Nft.Gate
import Disbursement.Program.Custody
import Disbursement.Redemption.Request

/-!
# Redeeming

One procedure for the four entitlements: take the accounts, let a token holder through the gate,
find the marker of the claim slot where there is one, settle the claim, and move what is owed. Any
failure leaves the chain as it was, so a slot is used up only together with its payout.
-/

namespace Disbursement.Program

/-! ## Accounts -/

/-- The accounts of a token holder. -/
structure HolderAccounts where
  /-- The token account for the held token. -/
  token : Address
  /-- The metadata of the held token. -/
  metadata : Address

/-- The accounts of a redemption. -/
structure RedeemAccounts where
  vault : Loaded Vault
  schedule : Loaded Schedule
  /-- The marker of the claim slot, for an entitlement by collection. -/
  marker : Option Address
  signer : Address
  /-- Custody token account that pays. -/
  vaultToken : Address
  user : Address
  /-- Token account of the user that is paid. -/
  userToken : Address
  /-- For an entitlement by token. -/
  holder : Option HolderAccounts
  /-- What follows: where the sending leg goes, and the token account it comes from. -/
  fees : List Address

/-- Whether a redemption takes a marker. -/
def usesMarker (e : Entitlement) : Bool :=
  e.kind.trackingMode = .marker

/-- Take the accounts of a redemption. -/
def takeRedeemAccounts (c : Chain) (call : Call) (e : Entitlement) : Intake RedeemAccounts := do
  let vault ← nextRecord Vault c
  let schedule ← nextRecord Schedule c
  let marker ← if usesMarker e then some <$> nextAccount else pure none
  let signer ← nextAccount
  let vaultToken ← nextAccount
  let user ← nextSigner call
  let userToken ← nextAccount
  let holder ← if e.token?.isSome then do
      let token ← nextAccount
      let metadata ← nextAccount
      pure (some { token, metadata })
    else pure none
  nextProgram c Address.tokenProgram
  nextProgram c Address.systemProgram
  let rest ← get
  return {
    vault, schedule, marker, signer, vaultToken, user, userToken, holder
    fees := rest.map AccountMeta.address }

/-- The accounts of a token holder are at the addresses derived for user and token. -/
def requireHolderAccounts (a : RedeemAccounts) (e : Entitlement) : Except Failure Unit :=
  match e.token?, a.holder with
  | some (mint, _), some holder => do
    let token ← demand (tokenAccountOf a.user mint) Failure.unaddressable
    ensure (holder.token = token) Refusal.invalidAccount
    let (metadata, _) ← demand (metadataOf mint) Failure.unaddressable
    ensure (holder.metadata = metadata) Refusal.invalidMetadata
  | _, _ => return

/-- What the accounts must satisfy together. An entitlement that names its mint may be paid from any
token account of custody, every other from the one the schedule names. -/
def requireRedeemAccounts (call : Call) (a : RedeemAccounts) (e : Entitlement) :
    Except Failure Unit := do
  let s := a.schedule.record
  requireSeeds (.schedule s.eventId) s.bump a.schedule.address
  requireWritable call a.schedule.address
  requireVaultOf s a.vault.address
  if let some marker := a.marker then requireWritable call marker
  requireSeeds (.signer a.vault.address) a.vault.record.signerNonce a.signer
  requireWritable call a.signer
  requireWritable call a.vaultToken
  ensure (e.kind = .multi ∨ a.vaultToken = s.receivingAccount) Refusal.invalidAccount
  requireWritable call a.user
  requireWritable call a.userToken
  requireHolderAccounts a e

/-! ## The claim slot -/

/-- The gate for token holders. -/
def passGate (c : Chain) (a : RedeemAccounts) (e : Entitlement) : Except Refusal Unit :=
  match e.token?, a.holder with
  | some (mint, group), some holder =>
    Nft.verifyClaim a.user mint group (c.account holder.token) (c.account holder.metadata)
  | _, _ => return

/-- The marker at the address derived for the claim slot, if it was created. -/
def findMarker (c : Chain) (a : RedeemAccounts) (r : RedeemRequest) :
    Except Failure (Option Marker) :=
  match r.entitlement.token?, a.marker with
  | some (mint, _), some address => do
    let s := a.schedule.record
    let key := s.markerKey mint
    let (expected, _) ←
      demand ((Identity.marker s.eventId r.index key).find Address.program) Failure.unaddressable
    verifyAddress address expected
    let marker ← (c.account address).loadMarker Address.program
    if let some marker := marker then marker.requireSlot a.schedule.address r.index key
    return marker
  | _, _ => return none

/-- Write the marker back after a claim. -/
def storeMarker (c : Chain) (a : RedeemAccounts) (marker : Option Marker) :
    Except EntryError Chain :=
  match a.marker, marker with
  | some address, some marker => c.storeRecord address marker
  | _, _ => .ok c

/-! ## Payment -/

/-- The sending leg, from the claimant to the account that the schedule names. -/
def collect (call : Call) (c : Chain) (a : RedeemAccounts) (leg : Leg) : Except Failure Chain := do
  let destination ← demand a.fees[0]? Refusal.missingFeeAccount
  ensure (destination = a.schedule.record.sendingAccount) Refusal.invalidAccount
  match leg.asset with
  | .native => transferLamports (call.privileges none) c a.user destination leg.amount
  | .token mint => do
    let source ← demand a.fees[1]? Refusal.missingFeeAccount
    let held ← (c.account source).loadToken
    ensure (held.mint = mint) Refusal.invalidMint
    let receiving ← (c.account destination).loadToken
    ensure (receiving.mint = mint) Refusal.invalidMint
    transferTokens (call.privileges none) c source destination a.user leg.amount

/-- The receiving leg, from custody to the claimant. An amount of zero moves nothing. -/
def pay (call : Call) (c : Chain) (a : RedeemAccounts) (leg : Leg) : Except Failure Chain :=
  let custody : Custody := ⟨a.vault.address, a.vault.record.signerNonce, a.signer⟩
  if leg.amount = 0 then return c
  else match leg.asset with
    | .native => custody.payLamports call c a.user leg.amount
    | .token mint => custody.payTokens call c a.vaultToken a.userToken mint leg.amount

/-- Both legs, the sending one first. -/
def payOut (call : Call) (c : Chain) (a : RedeemAccounts) (payout : Payout) :
    Except Failure Chain := do
  let c ← match payout.sending with
    | some leg => collect call c a leg
    | none => pure c
  pay call c a payout.receiving

/-! ## The instruction -/

/-- What is logged for a redemption. -/
def redeemMessage (r : RedeemRequest) : String :=
  "Redeemed index " ++ toString r.index.toNat ++
    match r.entitlement with
    | .wallet => ""
    | .walletMint mint => " of mint " ++ keyText mint
    | .nft mint _ => " with NFT " ++ keyText mint
    | .collection mint _ => " with collection NFT " ++ keyText mint

/-- Redeem a leaf. -/
def redeem (c : Chain) (call : Call) (r : RedeemRequest) : Except Failure Outcome := do
  let a ← (takeRedeemAccounts c call r.entitlement).run' call.accounts
  requireRedeemAccounts call a r.entitlement
  passGate c a r.entitlement
  let marker ← findMarker c a r
  let settlement ← (r.claim a.user).settle a.schedule.record marker call.now
  let c ← storeMarker c a settlement.marker
  let c ← payOut call c a settlement.payout
  let c ← c.storeRecord a.schedule.address settlement.schedule
  return {
    chain := c
    event := .redeemed a.schedule.address r.index a.user settlement.payout.receiving.asset.mint
      r.receivingAmount r.sendingAmount call.now
    message := redeemMessage r }

end Disbursement.Program
