import Disbursement.Chain.Account

/-!
# Calls

A call hands a program some data and a list of accounts, each with what the caller allows: whether
the account signed, and whether it may change.

* `Call` is an instruction as it is submitted, together with the clock at which it runs.
* `Privileges` is what a call allows a program to pass on when it calls another one.
-/

namespace Disbursement

/-- An account of a call and what the caller allows. -/
structure AccountMeta where
  address : Address
  isSigner : Bool
  isWritable : Bool
  deriving DecidableEq

/-- An instruction as it is submitted. -/
structure Call where
  /-- The program that is called. -/
  program : Address
  accounts : List AccountMeta
  data : Bytes
  /-- The time on the chain. -/
  now : Int64
  deriving DecidableEq

namespace Call

/-- Whether an account signed; an account listed more than once has what any entry allows. -/
def signs (call : Call) (address : Address) : Bool :=
  call.accounts.any fun m => m.address = address && m.isSigner

/-- Whether an account may change. -/
def writes (call : Call) (address : Address) : Bool :=
  call.accounts.any fun m => m.address = address && m.isWritable

end Call

/-- What may be passed on to a called program. -/
structure Privileges where
  signs : Address → Bool
  writes : Address → Bool

namespace Privileges

/-- Whether everything that the accounts of a called instruction need may be passed on. -/
def grants (p : Privileges) (needs : List AccountMeta) : Bool :=
  needs.all fun m => (!m.isWritable || p.writes m.address) && (!m.isSigner || p.signs m.address)

end Privileges

namespace Call

/-- What a call allows, with the signature of a derived address if the program gives its seeds. -/
def privileges (call : Call) (derived : Option Address) : Privileges where
  signs address := call.signs address || derived == some address
  writes := call.writes

end Call

end Disbursement
