import Disbursement.Amount
import Disbursement.Chain.Account

/-!
# The token program

Of the token program only the transfer of an amount between two token accounts of one mint is used.
The owner of the source may spend it, or a delegate up to the delegated amount. A source that wraps
lamports moves as many lamports along.
-/

namespace Disbursement.TokenProgram

/-- Why the token program refuses. -/
inductive Error where
  /-- An account is no token account. -/
  | invalidData
  /-- An account is not in use. -/
  | uninitialized
  /-- The source, or what is delegated of it, is too small. -/
  | insufficientFunds
  /-- The accounts hold different tokens. -/
  | mintMismatch
  /-- The authority may not spend from the source. -/
  | ownerMismatch
  /-- The destination would hold too much. -/
  | overflow
  /-- An account is frozen. -/
  | frozen
  deriving DecidableEq

/-- The name of a cause. -/
def Error.label : Error → String
  | .invalidData => "InvalidAccountData"
  | .uninitialized => "UninitializedAccount"
  | .insufficientFunds => "Custom(1)"
  | .mintMismatch => "Custom(3)"
  | .ownerMismatch => "Custom(4)"
  | .overflow => "Custom(14)"
  | .frozen => "Custom(17)"

/-- The token account at an address. -/
def load (c : Chain) (address : Address) : Except Error TokenAccount :=
  (TokenAccount.unpack (c.account address).data).mapError fun
    | .invalidData => .invalidData
    | .uninitialized => .uninitialized

/-- The source after its authority is checked: a delegate uses up what is delegated to it, and is
dropped when nothing is left. -/
def spendBy (source : TokenAccount) (authority : Address) (amount : UInt64) :
    Except Error TokenAccount :=
  if source.delegate.get? = some authority then do
    let left ← demand (Amount.sub? source.delegatedAmount amount) .insufficientFunds
    return { source with
      delegatedAmount := left
      delegate := { source.delegate with isPresent := left ≠ 0 } }
  else do
    ensure (source.owner = authority) .ownerMismatch
    return source

/-- Move the lamports that a source wraps. -/
def moveWrapped (c : Chain) (source destination : Address) (amount : UInt64) :
    Except Error Chain := do
  let left ← demand (Amount.sub? (c.account source).lamports amount) .overflow
  let grown ← demand (Amount.add? (c.account destination).lamports amount) .overflow
  return (c.putLamports source left).putLamports destination grown

/-- Move tokens between two token accounts. A transfer from an account to itself is checked and
changes nothing. -/
def transfer (c : Chain) (source destination authority : Address) (amount : UInt64) :
    Except Error Chain := do
  let giver ← load c source
  let taker ← load c destination
  ensure (giver.state ≠ .frozen ∧ taker.state ≠ .frozen) .frozen
  let left ← demand (Amount.sub? giver.amount amount) .insufficientFunds
  ensure (giver.mint = taker.mint) .mintMismatch
  let giver ← spendBy giver authority amount
  if source = destination then return c
  else
    let grown ← demand (Amount.add? taker.amount amount) .overflow
    let c ← if giver.native.isPresent then moveWrapped c source destination amount else pure c
    let c := c.putData source (TokenAccount.pack { giver with amount := left })
    return c.putData destination (TokenAccount.pack { taker with amount := grown })

end Disbursement.TokenProgram
