import Disbursement.Amount
import Disbursement.Chain.Account

/-!
# The system program

The program that owns unused accounts. It moves lamports out of accounts without data, gives an
account its data and hands it over to another program.
-/

namespace Disbursement.SystemProgram

/-- Why the system program refuses. -/
inductive Error where
  /-- The source has data. -/
  | invalidArgument
  /-- The source has too few lamports. -/
  | insufficientLamports
  /-- The source belongs to another program. -/
  | foreignSource
  /-- The target would hold too much. -/
  | overflow
  /-- The account is taken. -/
  | alreadyInUse
  deriving DecidableEq

/-- The name of a cause. -/
def Error.label : Error → String
  | .invalidArgument => "InvalidArgument"
  | .insufficientLamports => "ResultWithNegativeLamports"
  | .foreignSource => "ExternalAccountLamportSpend"
  | .overflow => "ArithmeticOverflow"
  | .alreadyInUse => "AccountAlreadyInUse"

/-- Move lamports from an account of the system program that has no data. -/
def transfer (c : Chain) (source target : Address) (amount : UInt64) : Except Error Chain := do
  ensure ((c.account source).data = []) .invalidArgument
  let left ← demand (Amount.sub? (c.account source).lamports amount) .insufficientLamports
  ensure ((c.account source).owner = Address.systemProgram) .foreignSource
  let c := c.putLamports source left
  let grown ← demand (Amount.add? (c.account target).lamports amount) .overflow
  return c.putLamports target grown

/-- Give an unused account its data, all zero. -/
def allocate (c : Chain) (target : Address) (space : Nat) : Except Error Chain := do
  ensure ((c.account target).data = [] ∧ (c.account target).owner = Address.systemProgram)
    .alreadyInUse
  return c.putData target (List.replicate space 0)

/-- Hand an account over to a program. -/
def assign (c : Chain) (target owner : Address) : Chain :=
  c.put target { c.account target with owner }

/-- Create an account at an address without lamports. -/
def createAccount (c : Chain) (payer target : Address) (lamports : UInt64) (space : Nat)
    (owner : Address) : Except Error Chain := do
  ensure ((c.account target).lamports = 0) .alreadyInUse
  let c ← allocate c target space
  transfer (assign c target owner) payer target lamports

/-- The lamports that an account with so much data must hold. -/
def rentMinimum (space : Nat) : UInt64 :=
  UInt64.ofNat ((128 + space) * 6960)

end Disbursement.SystemProgram
