import Disbursement.Program.Invoke
import Disbursement.Text.Base58

/-!
# Instructions on vaults

Opening a vault, replacing its admins and the two-step change of its owner. The last four take the
same accounts: who signs, and the vault.
-/

namespace Disbursement.Program

/-- The printed form of an address. -/
def keyText (address : Address) : String :=
  Base58.encode address.toList

/-! ## A new vault -/

/-- Open the vault of a path; the payer becomes its owner. -/
def createVault (c : Chain) (call : Call) (path : Digest) : Except Failure Outcome := do
  let take : Intake (Address × Address) := do
    let owner ← nextSigner call
    let vault ← nextAccount
    nextProgram c Address.systemProgram
    return (owner, vault)
  let (owner, vault) ← take.run' call.accounts
  let (bump, c) ← openRecord call c owner vault (.vault path) Vault.space
  requireWritable call owner
  let (signer, signerNonce) ←
    demand ((Identity.signer vault).find Address.program) Failure.unaddressable
  let c ← c.storeRecord vault (Vault.create owner bump signerNonce)
  return {
    chain := c
    event := .vaultCreated vault owner signer call.now
    message := "Vault created, custody signer: " ++ keyText signer }

/-! ## Changes of a vault -/

/-- The accounts of a change: who signs, and the vault, which must be writable. -/
def takeVaultChange (c : Chain) (call : Call) : Except Failure (Address × Loaded Vault) := do
  let take : Intake (Address × Loaded Vault) := do
    let signer ← nextSigner call
    let vault ← nextRecord Vault c
    return (signer, vault)
  let (signer, vault) ← take.run' call.accounts
  requireWritable call vault.address
  return (signer, vault)

/-- The owner replaces the admins. -/
def setVault (c : Chain) (call : Call) (admins : List Address) : Except Failure Outcome := do
  let (owner, vault) ← takeVaultChange c call
  vault.record.requireOwner owner
  let changed ← vault.record.setAdmins admins
  let c ← c.storeRecord vault.address changed
  return {
    chain := c
    event := .vaultAdminsUpdated vault.address owner (UInt8.ofNat admins.length) call.now
    message := "Vault admins updated: " ++ toString admins.length }

/-- The owner proposes a successor. -/
def transferOwnership (c : Chain) (call : Call) (newOwner : Address) : Except Failure Outcome := do
  let (owner, vault) ← takeVaultChange c call
  vault.record.requireOwner owner
  let changed ← vault.record.propose newOwner
  let c ← c.storeRecord vault.address changed
  return {
    chain := c
    event := .ownershipTransferInitiated vault.address owner newOwner call.now
    message := "Ownership transfer initiated to: " ++ keyText newOwner }

/-- The proposed successor becomes the owner. -/
def acceptOwnership (c : Chain) (call : Call) : Except Failure Outcome := do
  let (newOwner, vault) ← takeVaultChange c call
  let (oldOwner, changed) ← vault.record.accept newOwner
  let c ← c.storeRecord vault.address changed
  return {
    chain := c
    event := .ownershipTransferCompleted vault.address oldOwner newOwner call.now
    message := "Ownership transfer completed" }

/-- The owner drops a proposal. -/
def cancelOwnershipTransfer (c : Chain) (call : Call) : Except Failure Outcome := do
  let (owner, vault) ← takeVaultChange c call
  vault.record.requireOwner owner
  let (dropped, changed) ← vault.record.cancel
  let c ← c.storeRecord vault.address changed
  return {
    chain := c
    event := .ownershipTransferCancelled vault.address owner dropped call.now
    message := "Ownership transfer cancelled" }

end Disbursement.Program
