import Disbursement.Instruction.Basic
import Disbursement.Program.Markers
import Disbursement.Program.Redeem
import Disbursement.Program.Schedules

/-!
# The program

`Program.execute` runs one call against the chain. It either fails, and then nothing has changed, or
returns the chain afterwards with the event and the log lines of the instruction.
-/

namespace Disbursement.Program

/-- The result of a call. -/
structure Receipt where
  chain : Chain
  events : List Event
  logs : List String

/-- Run an instruction. -/
def perform (c : Chain) (call : Call) : Instruction → Except Failure Outcome
  | .createVault path => createVault c call path
  | .setVault admins => setVault c call admins
  | .transferOwnership newOwner => transferOwnership c call newOwner
  | .acceptOwnership => acceptOwnership c call
  | .cancelOwnershipTransfer => cancelOwnershipTransfer c call
  | .createSchedule kind terms => createSchedule c call kind terms
  | .setScheduleStatus isActive => setScheduleStatus c call isActive
  | .withdrawSol amount => withdrawSol c call amount
  | .withdrawToken amount => withdrawToken c call amount
  | .redeem request => redeem c call request
  | .initRedeemIndex index nftMint => initRedeemIndex c call index nftMint

/-- Run a call: it must be addressed to this program and carry one of its instructions. Those that
the framework adds for the interface description of the program are not among them, and are refused
here like any other unknown data. -/
def execute (c : Chain) (call : Call) : Except Failure Receipt := do
  ensure (call.program = Address.program) EntryError.wrongProgramId
  let instruction ← Instruction.decode call.data
  let outcome ← perform c call instruction
  return {
    chain := outcome.chain
    events := [outcome.event]
    logs := ["Instruction: " ++ instruction.kind.title, outcome.message] }

end Disbursement.Program
