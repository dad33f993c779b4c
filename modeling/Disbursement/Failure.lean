import Disbursement.Chain.SystemProgram
import Disbursement.Chain.TokenProgram

/-!
# Failures

Everything that can end an instruction: a rule of the vault, a flaw of the instruction itself, a
called program that refuses, or seeds for which no bump gives an address. Refusals and entry errors
pass into longer sequences of checks by themselves.
-/

namespace Disbursement

/-- Why a call of another program fails. -/
inductive CallError where
  /-- The caller does not have what the call needs. -/
  | privilegeEscalation
  /-- The system program refuses. -/
  | system (error : SystemProgram.Error)
  /-- The token program refuses. -/
  | token (error : TokenProgram.Error)
  deriving DecidableEq

/-- The wording of a failed call: who refuses, and why. -/
def CallError.message : CallError → String
  | privilegeEscalation => "runtime PrivilegeEscalation"
  | system error => "system " ++ error.label
  | token error => "token " ++ error.label

/-- Why an instruction fails. -/
inductive Failure where
  /-- A rule of the vault. -/
  | refusal (refusal : Refusal)
  /-- A flaw of the instruction, its accounts or their records. -/
  | entry (error : EntryError)
  /-- A called program. -/
  | call (error : CallError)
  /-- No bump gives an address off the curve. -/
  | unaddressable
  deriving DecidableEq

namespace Failure

instance : Coe Refusal Failure where
  coe := refusal

instance : Coe EntryError Failure where
  coe := entry

instance : MonadLift (Except Refusal) (Except Failure) where
  monadLift check := check.mapError refusal

instance : MonadLift (Except EntryError) (Except Failure) where
  monadLift check := check.mapError entry

instance : MonadLift (Except CallError) (Except Failure) where
  monadLift check := check.mapError call

/-- The wording of the failure to find a bump. -/
def unaddressableMessage : String :=
  "Unable to find a viable program address bump seed"

end Failure

end Disbursement
