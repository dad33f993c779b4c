import Disbursement.Program.Invoke

/-!
# Instructions on schedules

Publishing a schedule, and opening or closing it for claims. Both are for the owner of the vault and
its admins.
-/

namespace Disbursement.Program

/-- Publish a schedule; the admin who signs pays for its account. -/
def createSchedule (c : Chain) (call : Call) (kind : UInt8) (terms : ScheduleTerms) :
    Except Failure Outcome := do
  let take : Intake (Address × Loaded Vault × Address) := do
    let admin ← nextSigner call
    let vault ← nextRecord Vault c
    let schedule ← nextAccount
    nextProgram c Address.systemProgram
    return (admin, vault, schedule)
  let (admin, vault, schedule) ← take.run' call.accounts
  let (bump, c) ← openRecord call c admin schedule (.schedule terms.eventId)
    (Schedule.space (Schedule.trackedLeaves kind terms.userCount))
  requireWritable call admin
  vault.record.requireAdmin admin
  let scheduleKind ← ScheduleKind.ofByte kind
  let (signer, _) ←
    demand ((Identity.signer schedule).find Address.program) Failure.unaddressable
  let created ← Schedule.create vault.address bump call.now scheduleKind terms
  let c ← c.storeRecord schedule created
  return {
    chain := c
    event := .scheduleCreated vault.address schedule signer terms.eventId kind terms.userCount
      terms.root call.now
    message := "Schedule " ++ toString terms.eventId.toNat ++ " created with " ++
      toString terms.userCount.toNat ++ " leaves" }

/-- Open or close a schedule for claims. -/
def setScheduleStatus (c : Chain) (call : Call) (isActive : Bool) : Except Failure Outcome := do
  let take : Intake (Address × Loaded Vault × Loaded Schedule) := do
    let admin ← nextSigner call
    let vault ← nextRecord Vault c
    let schedule ← nextRecord Schedule c
    return (admin, vault, schedule)
  let (admin, vault, schedule) ← take.run' call.accounts
  requireSeeds (.schedule schedule.record.eventId) schedule.record.bump schedule.address
  requireWritable call schedule.address
  requireVaultOf schedule.record vault.address
  vault.record.requireAdmin admin
  let c ← c.storeRecord schedule.address { schedule.record with isActive }
  return {
    chain := c
    event := .scheduleStatusChanged schedule.address admin isActive call.now
    message := "Schedule " ++ toString schedule.record.eventId.toNat ++ " active: " ++
      toString isActive }

end Disbursement.Program
