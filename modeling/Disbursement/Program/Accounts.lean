import Disbursement.Address.Derived
import Disbursement.Chain.Call
import Disbursement.Event
import Disbursement.Failure
import Disbursement.Vault.Basic
import Disbursement.Schedule.Basic

/-!
# Taking accounts

An instruction takes its accounts one after another, in a fixed order, and each is checked as it is
taken: that it is there, that it signed, that it holds the record it should hold. What the accounts
must satisfy together is checked afterwards.

* `Intake` is a step that takes accounts; `nextAccount`, `nextSigner`, `nextRecord` and
  `nextProgram` are the single steps.
* `requireWritable` and `requireSeeds` are the checks that follow.
-/

namespace Disbursement.Program

/-- What an instruction leaves behind. -/
structure Outcome where
  chain : Chain
  event : Event
  /-- The line that is logged. -/
  message : String

/-- A record and where it was found. -/
structure Loaded (α : Type) where
  address : Address
  record : α

/-! ## One account after another -/

/-- A step that takes accounts off the list of those that are left. -/
abbrev Intake := StateT (List AccountMeta) (Except Failure)

/-- Take an account as it is. -/
def nextAccount : Intake Address := do
  match ← get with
  | [] => throw (.entry .tooFewAccounts)
  | account :: rest =>
    set rest
    return account.address

/-- Take an account that signed. -/
def nextSigner (call : Call) : Intake Address := do
  let address ← nextAccount
  ensure (call.signs address = true) EntryError.notSigner
  return address

/-- Take an account that holds a record of this program. -/
def nextRecord (α : Type) [Record α] (c : Chain) : Intake (Loaded α) := do
  let address ← nextAccount
  let record ← (c.account address).loadRecord
  return { address, record }

/-- Take the account of a program. -/
def nextProgram (c : Chain) (program : Address) : Intake Unit := do
  let address ← nextAccount
  ensure (address = program) EntryError.wrongProgram
  ensure ((c.account address).isExecutable = true) EntryError.notExecutable

/-! ## Checks on the accounts taken -/

/-- Go on only if the account may change. -/
def requireWritable (call : Call) (address : Address) : Except EntryError Unit :=
  ensure (call.writes address = true) .notWritable

/-- Go on only if the account is where its seeds and its stored bump say. -/
def requireSeeds (identity : Identity) (bump : UInt8) (address : Address) :
    Except EntryError Unit :=
  ensure (identity.addressWith bump Address.program = some address) .wrongSeeds

/-- Go on only if the schedule belongs to the vault. -/
def requireVaultOf (s : Schedule) (vault : Address) : Except Refusal Unit :=
  ensure (s.vault = vault) .invalidVault

end Disbursement.Program
