import Disbursement.Program.Accounts

/-!
# Calling other programs

The program moves assets and creates accounts only through the system program and the token program.
Each call needs privileges for its accounts, which come from the instruction or from the seeds of a
derived address; without them it does not happen.
-/

namespace Disbursement.Program

/-! ## Transfers -/

/-- Go on only if the accounts of a called instruction get what they need. -/
def requirePrivileges (p : Privileges) (needs : List AccountMeta) : Except CallError Unit :=
  ensure (p.grants needs = true) .privilegeEscalation

/-- Move lamports through the system program. -/
def transferLamports (p : Privileges) (c : Chain) (source target : Address) (amount : UInt64) :
    Except CallError Chain := do
  requirePrivileges p [⟨source, true, true⟩, ⟨target, false, true⟩]
  (SystemProgram.transfer c source target amount).mapError .system

/-- Move tokens through the token program. -/
def transferTokens (p : Privileges) (c : Chain) (source destination authority : Address)
    (amount : UInt64) : Except CallError Chain := do
  requirePrivileges p
    [⟨source, false, true⟩, ⟨destination, false, true⟩, ⟨authority, true, false⟩]
  (TokenProgram.transfer c source destination authority amount).mapError .token

/-! ## New accounts -/

/-- Create an account of this program at a derived address without lamports. -/
def createAccount (p : Privileges) (c : Chain) (payer target : Address) (space : Nat) :
    Except CallError Chain := do
  requirePrivileges p [⟨payer, true, true⟩, ⟨target, true, true⟩]
  (SystemProgram.createAccount c payer target (SystemProgram.rentMinimum space) space
    Address.program).mapError .system

/-- Make an account of this program out of an address that already has lamports: pay what is missing
to the rent minimum, give it its data, take it over. -/
def takeOverAccount (plain signed : Privileges) (c : Chain) (payer target : Address) (space : Nat) :
    Except CallError Chain := do
  let missing :=
    (Amount.sub? (SystemProgram.rentMinimum space) (c.account target).lamports).getD 0
  let c ← if 0 < missing then transferLamports plain c payer target missing else pure c
  requirePrivileges signed [⟨target, true, true⟩]
  let c ← (SystemProgram.allocate c target space).mapError .system
  return SystemProgram.assign c target Address.program

/-- Create the account of an identity, whatever lamports its address already holds. -/
def openAccount (call : Call) (c : Chain) (payer target : Address) (identity : Identity)
    (bump : UInt8) (space : Nat) : Except CallError Chain :=
  let signed := call.privileges (identity.addressWith bump Address.program)
  if (c.account target).lamports = 0 then createAccount signed c payer target space
  else takeOverAccount (call.privileges none) signed c payer target space

/-- Create the account of an identity at its derived address, and return its bump. The payer must
not be the account itself. -/
def openRecord (call : Call) (c : Chain) (payer target : Address) (identity : Identity)
    (space : Nat) : Except Failure (UInt8 × Chain) := do
  let (address, bump) ← demand (identity.find Address.program) Failure.unaddressable
  ensure (target = address) EntryError.wrongSeeds
  ensure ((c.account target).lamports = 0 ∨ payer ≠ target) EntryError.payerIsTarget
  let c ← openAccount call c payer target identity bump space
  return (bump, c)

end Disbursement.Program
