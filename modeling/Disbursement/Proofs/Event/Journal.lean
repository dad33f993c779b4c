import Disbursement.Event
import Disbursement.Ledger.Arena
import Disbursement.Proofs.Redemption.Bits
import Mathlib.Logic.Function.Basic

/-!
# Journals

What a reader of the events knows who never looks at an account. `Journal.record` adds one event to
it, and `Journal.replay` a log.

* An entry is what the events tell of a record. `LedgerRecord.entry` reads the same off the record.
* `Journal.Admits` says that an event fits what is known before it: what it creates was not there,
  and the owner and the candidate it names are those of the vault. `Journal.AdmitsAll` says so of a
  log.
-/

namespace Disbursement

/-! ## Entries -/

/-- The wire value of a kind. -/
def ScheduleKind.wireValue (kind : ScheduleKind) : UInt8 :=
  UInt8.ofNat (all.idxOf kind)

theorem ScheduleKind.wireValue_of_ofByte {value : UInt8} {kind : ScheduleKind}
    (h : ofByte value = .ok kind) : kind.wireValue = value := by
  have hnodup : all.Nodup := by decide
  obtain ⟨hlt, rfl⟩ := List.getElem?_eq_some_iff.1 (demand_eq_ok_iff.1 h)
  rw [wireValue, hnodup.idxOf_getElem, UInt8.ofNat_toNat]

/-- What the events tell of a vault. -/
structure VaultEntry where
  owner : Address
  /-- Who may become the owner. -/
  pending? : Option Address
  adminCount : ℕ
  deriving DecidableEq

/-- What the events tell of a schedule. -/
structure ScheduleEntry where
  vault : Address
  eventId : UInt64
  /-- The wire value of the kind. -/
  scheduleType : UInt8
  userCount : UInt16
  root : Digest
  isActive : Bool
  deriving DecidableEq

/-- What the events tell of a marker. -/
structure MarkerEntry where
  schedule : Address
  index : UInt16
  key : Address
  deriving DecidableEq

/-- What the events tell of a record. -/
inductive JournalEntry where
  | vault (entry : VaultEntry)
  | schedule (entry : ScheduleEntry)
  | marker (entry : MarkerEntry)
  deriving DecidableEq

def Vault.entry (v : Vault) : VaultEntry where
  owner := v.owner
  pending? := v.ownership.candidate?
  adminCount := v.admins.length

theorem Vault.entry_of_pending {v : Vault} {owner candidate : Address}
    (h : v.ownership = .pending owner candidate) :
    v.entry.owner = owner ∧ v.entry.pending? = some candidate := by
  rw [Vault.entry, Vault.owner, h]
  exact ⟨rfl, rfl⟩

def Schedule.entry (s : Schedule) : ScheduleEntry where
  vault := s.vault
  eventId := s.eventId
  scheduleType := s.kind.wireValue
  userCount := s.userCount
  root := s.root
  isActive := s.isActive

def Marker.entry (m : Marker) : MarkerEntry where
  schedule := m.schedule
  index := m.index
  key := m.key

/-- What the events should tell of a record. -/
def LedgerRecord.entry : LedgerRecord → JournalEntry
  | .vault v => .vault v.entry
  | .schedule s => .schedule s.entry
  | .marker m => .marker m.entry

/-! ## Journals -/

/-- What is known from the events. -/
structure Journal where
  /-- What is known of the record at an address. -/
  known? : Address → Option JournalEntry
  /-- The indices redeemed from the schedule at an address, in their order. -/
  redeemed : Address → List UInt16

namespace Journal

variable {j : Journal} {address other : Address}

/-- Nothing is known. -/
def empty : Journal where
  known? _ := none
  redeemed _ := []

/-- Enter what is known of an address now. -/
def put (j : Journal) (address : Address) (entry : JournalEntry) : Journal :=
  { j with known? := Function.update j.known? address (some entry) }

/-- Change what is known of a vault. -/
def changeVault (j : Journal) (address : Address) (change : VaultEntry → VaultEntry) : Journal :=
  match j.known? address with
  | some (.vault entry) => j.put address (.vault (change entry))
  | _ => j

/-- Change what is known of a schedule. -/
def changeSchedule (j : Journal) (address : Address) (change : ScheduleEntry → ScheduleEntry) :
    Journal :=
  match j.known? address with
  | some (.schedule entry) => j.put address (.schedule (change entry))
  | _ => j

/-- Add an index to those redeemed from a schedule. -/
def redeem (j : Journal) (address : Address) (index : UInt16) : Journal :=
  { j with redeemed := Function.update j.redeemed address (j.redeemed address ++ [index]) }

theorem known?_put_self (j : Journal) (address : Address) (entry : JournalEntry) :
    (j.put address entry).known? address = some entry :=
  Function.update_self _ _ _

theorem known?_put_of_ne {entry : JournalEntry} (h : other ≠ address) :
    (j.put address entry).known? other = j.known? other :=
  Function.update_of_ne h _ _

theorem redeemed_redeem_self (j : Journal) (address : Address) (index : UInt16) :
    (j.redeem address index).redeemed address = j.redeemed address ++ [index] :=
  Function.update_self _ _ _

theorem redeemed_redeem_of_ne {index : UInt16} (h : other ≠ address) :
    (j.redeem address index).redeemed other = j.redeemed other :=
  Function.update_of_ne h _ _

theorem changeVault_of_entry {entry : VaultEntry} {change : VaultEntry → VaultEntry}
    (h : j.known? address = some (.vault entry)) :
    j.changeVault address change = j.put address (.vault (change entry)) := by
  rw [changeVault, h]

theorem changeSchedule_of_entry {entry : ScheduleEntry} {change : ScheduleEntry → ScheduleEntry}
    (h : j.known? address = some (.schedule entry)) :
    j.changeSchedule address change = j.put address (.schedule (change entry)) := by
  rw [changeSchedule, h]

/-! ## Events -/

/-- What is known after an event. A vault starts without a candidate and without admins, and a
schedule starts active; withdrawals concern no record. -/
def record (j : Journal) : Event → Journal
  | .vaultCreated vault owner _ _ =>
    j.put vault (.vault { owner, pending? := none, adminCount := 0 })
  | .vaultAdminsUpdated vault _ count _ =>
    j.changeVault vault fun entry => { entry with adminCount := count.toNat }
  | .ownershipTransferInitiated vault _ candidate _ =>
    j.changeVault vault fun entry => { entry with pending? := some candidate }
  | .ownershipTransferCompleted vault _ newOwner _ =>
    j.changeVault vault fun entry => { entry with owner := newOwner, pending? := none }
  | .ownershipTransferCancelled vault _ _ _ =>
    j.changeVault vault fun entry => { entry with pending? := none }
  | .scheduleCreated vault schedule _ eventId scheduleType userCount root _ =>
    j.put schedule
      (.schedule { vault, eventId, scheduleType, userCount, root, isActive := true })
  | .scheduleStatusChanged schedule _ isActive _ =>
    j.changeSchedule schedule fun entry => { entry with isActive }
  | .redeemIndexInitialized schedule marker index _ key _ =>
    j.put marker (.marker { schedule, index, key })
  | .redeemed schedule index _ _ _ _ _ => j.redeem schedule index
  | .solWithdrawn .. | .tokenWithdrawn .. => j

/-- The event fits what is known: nothing is created twice, what it is about is there, and the owner
and the candidate are named as they were. -/
def Admits (j : Journal) : Event → Prop
  | .vaultCreated vault _ _ _ => j.known? vault = none
  | .vaultAdminsUpdated vault owner _ _ | .ownershipTransferInitiated vault owner _ _ =>
    ∃ entry, j.known? vault = some (.vault entry) ∧ entry.owner = owner
  | .ownershipTransferCompleted vault owner candidate _
  | .ownershipTransferCancelled vault owner candidate _ =>
    ∃ entry, j.known? vault = some (.vault entry) ∧ entry.owner = owner ∧
      entry.pending? = some candidate
  | .scheduleCreated vault schedule .. =>
    j.known? schedule = none ∧ ∃ entry, j.known? vault = some (.vault entry)
  | .redeemIndexInitialized schedule marker .. =>
    j.known? marker = none ∧ ∃ entry, j.known? schedule = some (.schedule entry)
  | .scheduleStatusChanged schedule .. | .redeemed schedule .. =>
    ∃ entry, j.known? schedule = some (.schedule entry)
  | .solWithdrawn vault .. | .tokenWithdrawn vault .. =>
    ∃ entry, j.known? vault = some (.vault entry)

/-! ## Logs -/

/-- What is known after a log. -/
def replay (j : Journal) (events : List Event) : Journal :=
  events.foldl record j

/-- Every event of the log fits what is known from those before it. -/
def AdmitsAll : Journal → List Event → Prop
  | _, [] => True
  | j, event :: events => j.Admits event ∧ (j.record event).AdmitsAll events

theorem replay_append (j : Journal) (events more : List Event) :
    j.replay (events ++ more) = (j.replay events).replay more :=
  List.foldl_append

theorem admitsAll_append {events more : List Event} :
    j.AdmitsAll (events ++ more) ↔ j.AdmitsAll events ∧ (j.replay events).AdmitsAll more := by
  induction events generalizing j with
  | nil => exact ⟨fun h => ⟨trivial, h⟩, And.right⟩
  | cons event events ih =>
    rw [List.cons_append, AdmitsAll, AdmitsAll, ih, and_assoc]
    rfl

end Journal

end Disbursement
