import Disbursement.Redemption.Marker
import Disbursement.Schedule.Basic
import Disbursement.Vault.Basic

/-!
# Arenas

The records of a ledger lie in a list and are found by address: each address that is in use has a
slot, the place of its record. A record once created keeps its slot.
-/

namespace Disbursement

/-- A record of a ledger. -/
inductive LedgerRecord where
  | vault (vault : Vault)
  | schedule (schedule : Schedule)
  | marker (marker : Marker)
  deriving DecidableEq

/-- Records and the slots of their addresses. -/
structure Arena where
  /-- The slot of an address in use. -/
  slot? : Address → Option Nat
  /-- The records by slot. -/
  records : List LedgerRecord

namespace Arena

/-- No record. -/
def empty : Arena where
  slot? _ := none
  records := []

/-- The record at an address. -/
def get? (arena : Arena) (address : Address) : Option LedgerRecord :=
  (arena.slot? address).bind fun slot => arena.records[slot]?

/-- Add a record at an address that is not in use. -/
def create (arena : Arena) (address : Address) (record : LedgerRecord) : Except Refusal Arena := do
  ensure (arena.slot? address = none) .accountAlreadyExists
  return {
    slot? := fun other => if other = address then some arena.records.length else arena.slot? other
    records := arena.records ++ [record] }

/-- Replace the record at an address in use. -/
def update (arena : Arena) (address : Address) (record : LedgerRecord) : Arena :=
  match arena.slot? address with
  | some slot => { arena with records := arena.records.set slot record }
  | none => arena

end Arena

end Disbursement
