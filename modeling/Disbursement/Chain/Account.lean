import Disbursement.Address.Known
import Disbursement.Record
import Disbursement.Redemption.Marker
import Disbursement.Token.Account

/-!
# Accounts

The chain assigns an account to every address; an address that nobody has used has a vacant account
of the system program.

* `Chain` is that assignment, `Chain.put` the one way to change it.
* `Chain.loadRecord` and `Chain.storeRecord` read and write the records of this program.
* `Account.loadToken` reads a token account, `Account.loadMarker` a marker that may be missing.
-/

namespace Disbursement

/-- What the chain keeps at an address. -/
structure Account where
  /-- The program that may change the data and spend the lamports. -/
  owner : Address
  lamports : UInt64
  data : Bytes
  /-- Whether the account is a program. -/
  isExecutable : Bool
  deriving DecidableEq

namespace Account

/-- The account of an address that nobody has used. -/
def vacant : Account where
  owner := Address.systemProgram
  lamports := 0
  data := []
  isExecutable := false

/-- Whether the account belongs to this program. -/
def isOwn (a : Account) : Prop :=
  a.owner = Address.program

instance (a : Account) : Decidable a.isOwn :=
  inferInstanceAs (Decidable (_ = _))

/-- The record in an account of this program. -/
def loadRecord {α : Type} [Record α] (a : Account) : Except EntryError α := do
  ensure (¬(a.owner = Address.systemProgram ∧ a.lamports = 0)) .notInitialized
  ensure a.isOwn .foreignOwner
  Record.load a.data

/-- The token account kept here, which must belong to the token program. -/
def loadToken (a : Account) : Except Refusal TokenAccount := do
  ensure (a.owner = Address.tokenProgram) .invalidTokenAccount
  (TokenAccount.unpack a.data).mapError fun _ => .invalidTokenAccount

/-- The marker kept here, or `none` while its slot is vacant. -/
def loadMarker (a : Account) (program : Address) : Except EntryError (Option Marker) :=
  if a.owner ≠ program ∨ a.data = [] then .ok none else (Record.load a.data).map some

/-- Go on only if no marker was created here. -/
def requireVacant (a : Account) (program : Address) : Except Refusal Unit :=
  ensure (a.owner ≠ program ∧ a.data = []) .accountAlreadyExists

end Account

/-- The accounts of all addresses. -/
@[ext] structure Chain where
  /-- The account at an address. -/
  account : Address → Account

namespace Chain

/-- Every address vacant. -/
def empty : Chain where
  account _ := .vacant

/-- Replace the account at an address. -/
def put (c : Chain) (address : Address) (a : Account) : Chain where
  account other := if other = address then a else c.account other

/-- Replace the data at an address. -/
def putData (c : Chain) (address : Address) (data : Bytes) : Chain :=
  c.put address { c.account address with data }

/-- Replace the lamports at an address. -/
def putLamports (c : Chain) (address : Address) (lamports : UInt64) : Chain :=
  c.put address { c.account address with lamports }

theorem account_put (c : Chain) (address other : Address) (a : Account) :
    (c.put address a).account other = if other = address then a else c.account other := rfl

@[simp] theorem account_put_self (c : Chain) (address : Address) (a : Account) :
    (c.put address a).account address = a := by
  rw [account_put, if_pos rfl]

theorem account_put_of_ne (c : Chain) {address other : Address} (h : other ≠ address)
    (a : Account) : (c.put address a).account other = c.account other := by
  rw [account_put, if_neg h]

/-- Write a record over the data at an address. -/
def storeRecord {α : Type} [Record α] (c : Chain) (address : Address) (value : α) :
    Except EntryError Chain := do
  let data ← Record.store (c.account address).data value
  return c.putData address data

end Chain

end Disbursement
