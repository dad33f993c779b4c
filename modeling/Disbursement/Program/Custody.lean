import Disbursement.Program.Vaults

/-!
# Custody

The assets of a vault are held by its derived signer: its own lamports, and the token accounts it
owns. `Custody.payLamports` and `Custody.payTokens` pay out of them, with a signature that only this
program can give; the owner and the admins may withdraw.
-/

namespace Disbursement.Program

/-- The signer of a vault. -/
structure Custody where
  /-- The vault whose assets it holds. -/
  vault : Address
  /-- The stored bump of the signer. -/
  signerNonce : UInt8
  /-- The account of the signer. -/
  signer : Address

namespace Custody

/-- What a call allows together with the signature of custody. -/
def privileges (custody : Custody) (call : Call) : Privileges :=
  call.privileges ((Identity.signer custody.vault).addressWith custody.signerNonce Address.program)

/-- A token account can pay an amount of a mint under an authority. -/
def checkSource (source : TokenAccount) (mint authority : Address) (amount : UInt64) :
    Except Refusal Unit := do
  ensure (source.mint = mint) .invalidMint
  ensure (source.owner = authority) .invalidTokenAccount
  ensure (amount ≤ source.amount) .insufficientVaultBalance

/-- Pay lamports of the signer. -/
def payLamports (custody : Custody) (call : Call) (c : Chain) (recipient : Address)
    (amount : UInt64) : Except Failure Chain := do
  ensure (amount ≤ (c.account custody.signer).lamports) Refusal.insufficientVaultBalance
  let _ ← demand (Amount.add? (c.account recipient).lamports amount) Refusal.arithmeticOverflow
  transferLamports (custody.privileges call) c custody.signer recipient amount

/-- Pay tokens of an account that the signer owns. -/
def payTokens (custody : Custody) (call : Call) (c : Chain) (source destination mint : Address)
    (amount : UInt64) : Except Failure Chain := do
  let held ← (c.account source).loadToken
  checkSource held mint custody.signer amount
  let receiving ← (c.account destination).loadToken
  ensure (receiving.mint = mint) Refusal.invalidMint
  transferTokens (custody.privileges call) c source destination custody.signer amount

end Custody

/-! ## Withdrawals -/

/-- Take lamports out of custody. -/
def withdrawSol (c : Chain) (call : Call) (amount : UInt64) : Except Failure Outcome := do
  let take : Intake (Address × Loaded Vault × Address × Address) := do
    let admin ← nextSigner call
    let vault ← nextRecord Vault c
    let signer ← nextAccount
    let recipient ← nextAccount
    nextProgram c Address.systemProgram
    return (admin, vault, signer, recipient)
  let (admin, vault, signer, recipient) ← take.run' call.accounts
  requireSeeds (.signer vault.address) vault.record.signerNonce signer
  requireWritable call signer
  requireWritable call recipient
  ensure (0 < amount) Refusal.invalidAmount
  vault.record.requireAdmin admin
  let custody : Custody := ⟨vault.address, vault.record.signerNonce, signer⟩
  let c ← custody.payLamports call c recipient amount
  return {
    chain := c
    event := .solWithdrawn vault.address admin recipient amount call.now
    message := "Withdrew " ++ toString amount.toNat ++ " lamports" }

/-- Take tokens out of custody. -/
def withdrawToken (c : Chain) (call : Call) (amount : UInt64) : Except Failure Outcome := do
  let take : Intake (Address × Loaded Vault × Address × Address × Address) := do
    let admin ← nextSigner call
    let vault ← nextRecord Vault c
    let signer ← nextAccount
    let sender ← nextAccount
    let recipient ← nextAccount
    nextProgram c Address.tokenProgram
    return (admin, vault, signer, sender, recipient)
  let (admin, vault, signer, sender, recipient) ← take.run' call.accounts
  requireSeeds (.signer vault.address) vault.record.signerNonce signer
  requireWritable call sender
  requireWritable call recipient
  ensure (0 < amount) Refusal.invalidAmount
  vault.record.requireAdmin admin
  let held ← (c.account sender).loadToken
  let custody : Custody := ⟨vault.address, vault.record.signerNonce, signer⟩
  let c ← custody.payTokens call c sender recipient held.mint amount
  return {
    chain := c
    event := .tokenWithdrawn vault.address admin sender recipient amount call.now
    message := "Withdrew " ++ toString amount.toNat ++ " tokens of " ++ keyText held.mint }

end Disbursement.Program
