import Disbursement.Program.Invoke

/-!
# Opening claim slots

A slot of a collection schedule can be claimed once its marker exists. Anyone may pay for it, and a
second creation is refused.
-/

namespace Disbursement.Program

/-- Create the marker of a claim slot. -/
def initRedeemIndex (c : Chain) (call : Call) (index : UInt16) (nftMint : Address) :
    Except Failure Outcome := do
  let take : Intake (Address × Loaded Vault × Loaded Schedule × Address) := do
    let payer ← nextSigner call
    let vault ← nextRecord Vault c
    let schedule ← nextRecord Schedule c
    let marker ← nextAccount
    nextProgram c Address.systemProgram
    return (payer, vault, schedule, marker)
  let (payer, vault, schedule, address) ← take.run' call.accounts
  let s := schedule.record
  requireWritable call payer
  requireSeeds (.schedule s.eventId) s.bump schedule.address
  requireVaultOf s vault.address
  requireWritable call address
  s.requireActive
  s.requireKind .collection
  s.requireIndex index
  let key := s.markerKey nftMint
  let identity := Identity.marker s.eventId index key
  let (expected, bump) ← demand (identity.find Address.program) Failure.unaddressable
  verifyAddress address expected
  (c.account address).requireVacant Address.program
  let c ← openAccount call c payer address identity bump Marker.space
  let c ← c.storeRecord address (Marker.create bump schedule.address index key)
  return {
    chain := c
    event := .redeemIndexInitialized schedule.address address index nftMint key call.now
    message := "Redeem index " ++ toString index.toNat ++ " initialized" }

end Disbursement.Program
