import Disbursement.Record
import Disbursement.Vault.Ownership

/-!
# Vaults

A vault has an owner and a bounded set of admins, who manage its schedules and its custody. Custody
itself is held by a derived signer of which the vault stores only the bump.

* `Vault.setAdmins` replaces the admins; `Vault.requireOwner` and `Vault.requireAdmin` are the
  checks of authority.
* `Vault.space` is the room that every vault fits in.
-/

namespace Disbursement

/-- A custodial vault. -/
structure Vault where
  /-- Bump of the address of the vault. -/
  bump : UInt8
  /-- Bump of the address of its signer. -/
  signerNonce : UInt8
  ownership : Ownership
  /-- Who may manage schedules and custody besides the owner. -/
  admins : List Address
  deriving DecidableEq

namespace Vault

/-- The greatest number of admins. -/
def maxAdmins : Nat := 16

/-- A new vault without admins. -/
def create (owner : Address) (bump signerNonce : UInt8) : Vault where
  bump
  signerNonce
  ownership := .owned owner
  admins := []

/-- The current owner. -/
def owner (v : Vault) : Address :=
  v.ownership.owner

/-- Go on only for the owner. -/
def requireOwner (v : Vault) (user : Address) : Except Refusal Unit :=
  ensure (user = v.owner) .unauthorized

/-- Go on only for the owner or an admin. -/
def requireAdmin (v : Vault) (user : Address) : Except Refusal Unit :=
  ensure (user = v.owner ∨ user ∈ v.admins) .unauthorized

/-- Go through a list and stop at the first admin who stands in it before. -/
def requireDistinct (admins : List Address) : Except Refusal Unit := do
  for (admin, i) in admins.zipIdx do
    ensure (admin ∉ admins.take i) .duplicateAdmin

/-- Replace the admins by a list that is not too long and names nobody twice. -/
def setAdmins (v : Vault) (admins : List Address) : Except Refusal Vault := do
  ensure (admins.length ≤ maxAdmins) .tooManyAdmins
  requireDistinct admins
  return { v with admins }

/-- Propose a new owner. -/
def propose (v : Vault) (candidate : Address) : Except Refusal Vault := do
  let ownership ← v.ownership.propose candidate
  return { v with ownership }

/-- Complete a change of owner; the previous owner is returned as well. -/
def accept (v : Vault) (acceptor : Address) : Except Refusal (Address × Vault) := do
  let (previous, ownership) ← v.ownership.accept acceptor
  return (previous, { v with ownership })

/-- Drop a proposed change of owner; the candidate is returned as well. -/
def cancel (v : Vault) : Except Refusal (Address × Vault) := do
  let (candidate, ownership) ← v.ownership.cancel
  return (candidate, { v with ownership })

/-- The wire format of the fields. -/
def codec : Codec Vault :=
  (Codec.u8.pair <| Codec.u8.pair <| Ownership.codec.pair <| Codec.list .bytes32).imap
    (fun (bump, signerNonce, ownership, admins) => { bump, signerNonce, ownership, admins })
    fun v => (v.bump, v.signerNonce, v.ownership, v.admins)

instance : Record Vault where
  typeName := "Vault"
  fields := codec

/-- The data length of a vault account: room for a pending owner and all admins. -/
def space : Nat :=
  8 + 1 + 1 + Ownership.maxLength + 4 + 32 * maxAdmins

end Vault

end Disbursement
