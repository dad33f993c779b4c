import Disbursement.Proofs.Ledger.Administration
import Disbursement.Proofs.Program.Administration
import Disbursement.Proofs.Program.WellFormed
import Disbursement.Proofs.Record.Space

/-!
# The ledger agrees with the program

A ledger keeps its records by address; the program keeps them in the bytes of accounts, and checks
more before it writes: owners, discriminators, seeds and bumps. On administration the two agree as
long as every vault and every schedule of the ledger is the record in the account at its address, in
an account of its full length (`Ledger.AgreesWith`).

A step is compared in both directions. What the ledger does, the program can do, since the records
of a reachable ledger fit their accounts (`Ledger.AgreesWith.forward`); and what the program does
passed all checks that the ledger makes (`Ledger.AgreesWith.backward`). So the one fails with the
other, and the relation is kept, for a whole run by induction (`Ledger.administration_agrees`).
-/

namespace Disbursement

/-! ## Records in accounts -/

/-- A vault or a schedule is the record in the account, which has its full length. Markers are left
out. -/
def LedgerRecord.KeptIn (a : Account) : LedgerRecord → Prop
  | .vault v => a.loadRecord = .ok v ∧ a.data.length = Vault.space
  | .schedule s => a.loadRecord = .ok s ∧
      a.data.length = Schedule.space (Schedule.trackedLeavesOf s.kind s.userCount)
  | .marker _ => True

/-- The ledger is reachable, and the chain keeps its vaults and schedules. -/
structure Ledger.AgreesWith (l : Ledger) (c : Chain) : Prop where
  reachable : l.Reachable
  kept : ∀ {address record}, l.arena.get? address = some record → record.KeptIn (c.account address)

/-- In an account of its own length, a record can be replaced by one of the same length. -/
theorem Chain.exists_storeRecord_of_loadRecord {α : Type} [Record α] {c : Chain} {address : Address}
    {space : ℕ} {old new : α} (hload : (c.account address).loadRecord = .ok old)
    (hspace : (c.account address).data.length = space) (hlives : Record.LivesIn new space) :
    ∃ d, c.storeRecord address new = .ok d ∧ (d.account address).loadRecord = .ok new ∧
      (d.account address).data.length = space := by
  obtain ⟨d, hstored, hnew⟩ := exists_storeRecord hlives hspace
  refine ⟨d, hstored, Account.loadRecord_eq_ok_iff.2 ⟨?_, hnew⟩, ?_⟩
  · exact (owner_storeRecord hstored address).trans (Account.isOwn_of_loadRecord hload)
  · rw [length_data_storeRecord hstored, hspace]

/-- An account of this program with a record and zeros behind it. -/
def Account.ofRecord {α : Type} [Record α] (space : ℕ) (value : α) : Account where
  owner := Address.program
  lamports := 1
  data := Bytes.writeOver (List.replicate space 0) (Record.encode value)
  isExecutable := false

theorem Account.loadRecord_ofRecord {α : Type} [Record α] {space : ℕ} {value : α}
    (h : Record.LivesIn value space) : (ofRecord space value).loadRecord = .ok value ∧
      (ofRecord space value).data.length = space := by
  obtain ⟨stored, hstore, hlength, hload, -⟩ := h.overwrites _ List.length_replicate
  obtain ⟨-, rfl⟩ := Record.store_eq_ok_iff.1 hstore
  exact ⟨loadRecord_eq_ok_iff.2 ⟨rfl, hload⟩, hlength⟩

/-- The account that is reserved for a record. -/
def LedgerRecord.account : LedgerRecord → Account
  | .vault v => .ofRecord Vault.space v
  | .schedule s => .ofRecord (Schedule.space (Schedule.trackedLeavesOf s.kind s.userCount)) s
  | .marker m => .ofRecord Marker.space m

theorem LedgerRecord.Fits.keptIn_account {address : Address} {record : LedgerRecord}
    (h : record.Fits address) : record.KeptIn record.account := by
  cases record with
  | vault v => exact Account.loadRecord_ofRecord (Vault.livesIn h.1)
  | schedule s => exact Account.loadRecord_ofRecord (Schedule.livesIn h.2)
  | marker m => trivial

/-! ## Calls that carry a request -/

namespace AdminRequest.SubmittedAs

variable {c : Chain} {call : Call} {caller vault schedule : Address} {v : Vault}

theorem vaultTaken {change : VaultChange} (h : SubmittedAs ⟨caller, vault, .change change⟩ call)
    (hload : (c.account vault).loadRecord = .ok v) :
    Program.VaultTaken c call caller ⟨vault, v⟩ where
  accounts := h.accounts
  signs := h.signs
  loaded := hload
  writes := h.writes

theorem statusTaken {isActive : Bool} {s : Schedule}
    (h : SubmittedAs ⟨caller, vault, .setStatus schedule isActive⟩ call)
    (hloadVault : (c.account vault).loadRecord = .ok v)
    (hload : (c.account schedule).loadRecord = .ok s) :
    Program.StatusTaken c call caller ⟨vault, v⟩ ⟨schedule, s⟩ where
  accounts := h.accounts
  signs := h.signs
  loadedVault := hloadVault
  loaded := hload
  writes := h.writes

end AdminRequest.SubmittedAs

namespace Program

variable {c d : Chain} {call : Call} {r : AdminRequest}

/-- A call that carries a request does what the instruction does. -/
theorem exists_execute_iff (h : r.SubmittedAs call) :
    (∃ receipt, execute c call = .ok receipt ∧ receipt.chain = d) ↔
      ∃ out, perform c call r.instruction = .ok out ∧ out.chain = d := by
  simp only [execute_eq_ok_iff, h.program, h.instruction, Except.ok.injEq, true_and]
  constructor
  · rintro ⟨_, ⟨_, out, rfl, hperform, rfl⟩, rfl⟩
    exact ⟨out, hperform, rfl⟩
  · rintro ⟨out, hperform, rfl⟩
    exact ⟨_, ⟨_, out, rfl, hperform, rfl⟩, rfl⟩

end Program

namespace Ledger

variable {l m : Ledger} {c d : Chain} {r : AdminRequest} {call : Call} {address : Address}
  {answer : LedgerAnswer} {operation : LedgerOperation}

/-! ## One step -/

namespace AgreesWith

variable (h : l.AgreesWith c)
include h

/-- Replacing a record on both sides keeps the relation. -/
theorem kept_update {record found : LedgerRecord} {other : Address}
    (hnew : record.KeptIn (d.account address))
    (helsewhere : ∀ other, other ≠ address → d.account other = c.account other)
    (hfound : (l.arena.update address record).get? other = some found) :
    found.KeptIn (d.account other) := by
  rw [h.reachable.fitting.sound.get?_update] at hfound
  by_cases hother : other = address
  · rw [if_pos hother] at hfound
    obtain ⟨_, -, rfl⟩ := Option.map_eq_some_iff.1 hfound
    rw [hother]
    exact hnew
  · rw [if_neg hother] at hfound
    rw [helsewhere other hother]
    exact h.kept hfound

/-- A vault that somebody may change has room for the change. -/
theorem forward_change {caller vault : Address} {change : VaultChange}
    (hsubmitted : AdminRequest.SubmittedAs ⟨caller, vault, .change change⟩ call)
    (hperform : l.perform (change.operation caller vault) = .ok (answer, m)) :
    ∃ out, Program.perform c call change.instruction = .ok out ∧
      ∀ {address record}, m.arena.get? address = some record →
        record.KeptIn (out.chain.account address) := by
  obtain ⟨-, v, w, hfound, hchanges, rfl⟩ := perform_change_eq_ok_iff.1 hperform
  obtain ⟨hload, hspace⟩ := h.kept hfound
  obtain ⟨hfew, hdistinct⟩ := h.reachable.fitting.fits hfound
  have hlives : Record.LivesIn w Vault.space :=
    Vault.livesIn (hchanges.admins_bounded hfew hdistinct).1
  obtain ⟨d, hstored, hnew⟩ := Chain.exists_storeRecord_of_loadRecord hload hspace hlives
  obtain ⟨out, hout, rfl⟩ :=
    (Program.exists_perform_change_iff (hsubmitted.vaultTaken hload)).2 ⟨w, hchanges, hstored⟩
  have hkept : LedgerRecord.KeptIn (out.chain.account vault) (.vault w) := hnew
  refine ⟨out, hout, h.kept_update hkept ?_⟩
  intro other hne
  exact Chain.account_storeRecord_of_ne hne hstored

theorem backward_change {caller vault : Address} {change : VaultChange} {v : Vault}
    {out : Program.Outcome}
    (hsubmitted : AdminRequest.SubmittedAs ⟨caller, vault, .change change⟩ call)
    (hvault : l.vault? vault = some v)
    (hout : Program.perform c call change.instruction = .ok out) :
    ∃ answer m, l.perform (change.operation caller vault) = .ok (answer, m) := by
  have hfound := vault?_eq_some_iff.1 hvault
  obtain ⟨hload, -⟩ := h.kept hfound
  obtain ⟨w, hchanges, -⟩ :=
    (Program.exists_perform_change_iff (hsubmitted.vaultTaken hload)).1 ⟨out, hout, rfl⟩
  exact ⟨_, _, perform_change_eq_ok_iff.2 ⟨rfl, v, w, hfound, hchanges, rfl⟩⟩

/-- A schedule is where the program looks for it, and keeps its length. -/
theorem forward_setStatus {caller vault schedule : Address} {isActive : Bool}
    (hsubmitted : AdminRequest.SubmittedAs ⟨caller, vault, .setStatus schedule isActive⟩ call)
    (hperform : l.perform (.setScheduleStatus caller vault schedule isActive) = .ok (answer, m)) :
    ∃ out, Program.perform c call (.setScheduleStatus isActive) = .ok out ∧
      ∀ {address record}, m.arena.get? address = some record →
        record.KeptIn (out.chain.account address) := by
  obtain ⟨-, v, s, hvault, hcaller, hfound, hof, rfl⟩ :=
    perform_setScheduleStatus_eq_ok_iff.1 hperform
  obtain ⟨hloadVault, -⟩ := h.kept hvault
  obtain ⟨hload, hspace⟩ := h.kept hfound
  obtain ⟨hseeds, hsize⟩ := h.reachable.fitting.fits hfound
  have hlives : Record.LivesIn { s with isActive }
      (Schedule.space (Schedule.trackedLeavesOf s.kind s.userCount)) := Schedule.livesIn hsize
  obtain ⟨d, hstored, hnew⟩ := Chain.exists_storeRecord_of_loadRecord hload hspace hlives
  obtain ⟨out, hout, rfl⟩ := (Program.exists_perform_setScheduleStatus_iff
    (hsubmitted.statusTaken hloadVault hload)).2 ⟨hseeds, hof, hcaller, hstored⟩
  have hkept : LedgerRecord.KeptIn (out.chain.account schedule) (.schedule { s with isActive }) :=
    hnew
  refine ⟨out, hout, h.kept_update hkept ?_⟩
  intro other hne
  exact Chain.account_storeRecord_of_ne hne hstored

theorem backward_setStatus {caller vault schedule : Address} {isActive : Bool} {v : Vault}
    {s : Schedule} {out : Program.Outcome}
    (hsubmitted : AdminRequest.SubmittedAs ⟨caller, vault, .setStatus schedule isActive⟩ call)
    (hvault : l.vault? vault = some v) (hschedule : l.schedule? schedule = some s)
    (hout : Program.perform c call (.setScheduleStatus isActive) = .ok out) :
    ∃ answer m, l.perform (.setScheduleStatus caller vault schedule isActive) =
      .ok (answer, m) := by
  have hfoundVault := vault?_eq_some_iff.1 hvault
  have hfound := schedule?_eq_some_iff.1 hschedule
  obtain ⟨hloadVault, -⟩ := h.kept hfoundVault
  obtain ⟨hload, -⟩ := h.kept hfound
  obtain ⟨-, hof, hcaller, -⟩ := (Program.exists_perform_setScheduleStatus_iff
    (hsubmitted.statusTaken hloadVault hload)).1 ⟨out, hout, rfl⟩
  exact ⟨_, _, perform_setScheduleStatus_eq_ok_iff.2
    ⟨rfl, v, s, hfoundVault, hcaller, hfound, hof, rfl⟩⟩

/-- What the ledger does, the program does, and keeps the records. -/
theorem forward (hsubmitted : r.SubmittedAs call)
    (hperform : l.perform r.operation = .ok (answer, m)) :
    ∃ out, Program.perform c call r.instruction = .ok out ∧
      ∀ {address record}, m.arena.get? address = some record →
        record.KeptIn (out.chain.account address) := by
  obtain ⟨caller, vault, act⟩ := r
  cases act with
  | change change => exact h.forward_change hsubmitted hperform
  | setStatus schedule isActive => exact h.forward_setStatus hsubmitted hperform

/-- What the program does with records of the ledger, the ledger does. -/
theorem backward {out : Program.Outcome} (hconcerns : r.Concerns l)
    (hsubmitted : r.SubmittedAs call)
    (hout : Program.perform c call r.instruction = .ok out) :
    ∃ answer m, l.perform r.operation = .ok (answer, m) := by
  obtain ⟨caller, vault, act⟩ := r
  obtain ⟨⟨v, hvault⟩, hschedule⟩ := hconcerns
  cases act with
  | change change => exact h.backward_change hsubmitted hvault hout
  | setStatus schedule isActive =>
    obtain ⟨s, hs⟩ := hschedule
    exact h.backward_setStatus hsubmitted hvault hs hout

/-- Both succeed or both fail, and the relation is kept. -/
theorem step (hconcerns : r.Concerns l) (hsubmitted : r.SubmittedAs call) :
    (l.transact r.operation).1.isOk = (Program.execute c call).isOk ∧
      (l.transact r.operation).2.AgreesWith (Program.attempt c call) := by
  have hreachable : (l.transact r.operation).2.Reachable := h.reachable.after [r.operation]
  rw [transact_eq_perform] at hreachable ⊢
  cases hperform : l.perform r.operation with
  | ok result =>
    obtain ⟨answer, m⟩ := result
    rw [hperform] at hreachable
    obtain ⟨out, hout, hkept⟩ := h.forward hsubmitted hperform
    obtain ⟨receipt, hexecute, hchain⟩ := (Program.exists_execute_iff hsubmitted).2 ⟨out, hout, rfl⟩
    rw [← hchain] at hkept
    rw [Program.attempt, hexecute]
    exact ⟨rfl, hreachable, hkept⟩
  | error failure =>
    cases hexecute : Program.execute c call with
    | ok receipt =>
      obtain ⟨out, hout, -⟩ := (Program.exists_execute_iff hsubmitted).1 ⟨receipt, hexecute, rfl⟩
      obtain ⟨answer, m, hdone⟩ := h.backward hconcerns hsubmitted hout
      exact absurd (hperform.symm.trans hdone) (by simp)
    | error failure' =>
      rw [Program.attempt, hexecute]
      exact ⟨rfl, h⟩

end AgreesWith

/-! ## Runs -/

/-- What a request is about stays there. -/
theorem concerns_transact (h : r.Concerns l) (hsound : l.arena.Sound) :
    r.Concerns (l.transact operation).2 := by
  have hevolves : l.arena.Evolves (l.transact operation).2.arena := evolves_transact hsound
  obtain ⟨caller, vault, act⟩ := r
  obtain ⟨⟨v, hvault⟩, hschedule⟩ := h
  obtain ⟨_, hlater, ⟨⟩⟩ := hevolves.continues (vault?_eq_some_iff.1 hvault)
  refine ⟨⟨_, vault?_eq_some_iff.2 hlater⟩, ?_⟩
  cases act with
  | change change => trivial
  | setStatus schedule isActive =>
    obtain ⟨s, hs⟩ := hschedule
    obtain ⟨_, hlater, ⟨⟩⟩ := hevolves.continues (schedule?_eq_some_iff.1 hs)
    exact ⟨_, schedule?_eq_some_iff.2 hlater⟩

/-- Which of the operations succeed when they are tried one after another. -/
def verdicts : Ledger → List LedgerOperation → List Bool
  | _, [] => []
  | l, operation :: operations =>
    (l.transact operation).1.isOk :: verdicts (l.transact operation).2 operations

end Ledger

/-- Which of the calls succeed when they are made one after another. -/
def Program.verdicts : Chain → List Call → List Bool
  | _, [] => []
  | c, call :: calls => (execute c call).isOk :: verdicts (attempt c call) calls

namespace Ledger

variable {l : Ledger} {c : Chain}

theorem AgreesWith.run (h : l.AgreesWith c) (submissions : List (AdminRequest × Call))
    (hsubmissions : ∀ x ∈ submissions, x.1.Concerns l ∧ x.1.SubmittedAs x.2) :
    l.verdicts (submissions.map fun x => x.1.operation) =
        Program.verdicts c (submissions.map Prod.snd) ∧
      (l.after (submissions.map fun x => x.1.operation)).AgreesWith
        ((submissions.map Prod.snd).foldl Program.attempt c) := by
  induction submissions generalizing l c with
  | nil => exact ⟨rfl, h⟩
  | cons x submissions ih =>
    obtain ⟨r, call⟩ := x
    obtain ⟨hconcerns, hsubmitted⟩ := hsubmissions _ List.mem_cons_self
    obtain ⟨hsame, hagrees⟩ := h.step hconcerns hsubmitted
    -- the requests that follow are about records that are still there
    have hrest : ∀ y ∈ submissions,
        y.1.Concerns (l.transact r.operation).2 ∧ y.1.SubmittedAs y.2 := by
      intro y hmem
      obtain ⟨hconcerns', hsubmitted'⟩ := hsubmissions y (List.mem_cons_of_mem _ hmem)
      exact ⟨concerns_transact hconcerns' h.reachable.fitting.sound, hsubmitted'⟩
    obtain ⟨hverdicts, hfinal⟩ := ih hagrees hrest
    refine ⟨?_, hfinal⟩
    simp only [List.map_cons, verdicts, Program.verdicts]
    rw [hsame, hverdicts]

/-- On administration a ledger and the program do the same. Let the ledger be reachable from a new
one, and let every vault and schedule of it be the record in the account of the program at the same
address, in an account of full length. Whoever asks for whatever change of a vault or of the
activity of a schedule, as long as these exist: the operation of the ledger succeeds if and only if
a call does that takes the accounts of the request, signed by the caller and writable where
something changes, and afterwards the two are related in the same way. So it is for all requests one
after another, with the same successes and failures on both sides. -/
theorem administration_agrees (h : l.AgreesWith c) :
    (∀ (r : AdminRequest) (call : Call), r.Concerns l → r.SubmittedAs call →
      ((l.transact r.operation).1.isOk ↔ (Program.execute c call).isOk) ∧
        (l.transact r.operation).2.AgreesWith (Program.attempt c call)) ∧
    ∀ submissions : List (AdminRequest × Call),
      (∀ x ∈ submissions, x.1.Concerns l ∧ x.1.SubmittedAs x.2) →
      l.verdicts (submissions.map fun x => x.1.operation) =
          Program.verdicts c (submissions.map Prod.snd) ∧
        (l.after (submissions.map fun x => x.1.operation)).AgreesWith
          ((submissions.map Prod.snd).foldl Program.attempt c) := by
  constructor
  · intro r call hconcerns hsubmitted
    obtain ⟨hsame, hagrees⟩ := h.step hconcerns hsubmitted
    rw [hsame]
    exact ⟨Iff.rfl, hagrees⟩
  · exact h.run

/-! ## A chain for a ledger -/

/-- A chain with the records of a ledger and nothing else. -/
def toChain (l : Ledger) : Chain where
  account address :=
    match l.arena.get? address with
    | some record => record.account
    | none => .vacant

/-- The program can be in agreement with every reachable ledger. -/
theorem Reachable.agreesWith_toChain (h : l.Reachable) : l.AgreesWith l.toChain where
  reachable := h
  kept {address record} hfound := by
    have haccount : l.toChain.account address = record.account := by
      simp only [toChain, hfound]
    rw [haccount]
    exact (h.fitting.fits hfound).keptIn_account

/-! ## Changes on both sides -/

/-- Where the schedule of the seventh event is. -/
def seventhScheduleAddress : Address :=
  Bytes32.ofNatBE 0x225a8650427643f2def0927358843032c5860333c0af27de118782f5587ebb0c

/-- A wallet has opened a vault and published a schedule. -/
def firstLedger : Ledger :=
  new.after [.createVault (Bytes32.ofNatBE 1) "a",
    .createSchedule (Bytes32.ofNatBE 1) Program.firstVaultAddress .nft seventeenTokens]

/-- A request about that vault. -/
def ask (caller : Nat) (act : Administration) : AdminRequest where
  caller := Bytes32.ofNatBE caller
  vault := Program.firstVaultAddress
  act

/-- The owner closes the schedule and hands the vault over. A stranger fails to accept, the
candidate accepts; then the old owner fails to open the schedule again, and the new one does it. -/
def handover : List AdminRequest :=
  [ask 1 (.setStatus seventhScheduleAddress false), ask 1 (.change (.propose (Bytes32.ofNatBE 2))),
    ask 3 (.change .accept), ask 2 (.change .accept),
    ask 1 (.setStatus seventhScheduleAddress true), ask 2 (.setStatus seventhScheduleAddress true)]

/-- The requests with their calls. -/
def handoverSubmissions : List (AdminRequest × Call) :=
  handover.map fun r => (r, r.call 0)

/-- What the ledger says beforehand, the program does. -/
theorem handover_on_chain :
    Program.verdicts firstLedger.toChain (handover.map fun r => r.call 0) =
        [true, true, false, true, false, true] ∧
      ∃ v : Vault, (((handover.map fun r => r.call 0).foldl Program.attempt
          firstLedger.toChain).account Program.firstVaultAddress).loadRecord = .ok v ∧
        v.ownership = .owned (Bytes32.ofNatBE 2) := by
  have hcalls : handoverSubmissions.map Prod.snd = handover.map fun r => r.call 0 := by
    rw [handoverSubmissions, List.map_map]
    rfl
  have hoperations : handoverSubmissions.map (fun x => x.1.operation) =
      handover.map AdminRequest.operation := by
    rw [handoverSubmissions, List.map_map]
    rfl
  have hopened : (firstLedger.vault? Program.firstVaultAddress).isSome ∧
      (firstLedger.schedule? seventhScheduleAddress).isSome := by
    decide +kernel
  obtain ⟨hvault, hschedule⟩ := hopened
  have hconcerns : ∀ r ∈ handover, r.Concerns firstLedger := by
    simp [handover, ask, AdminRequest.Concerns, Option.isSome_iff_exists.1 hvault,
      Option.isSome_iff_exists.1 hschedule]
  have hfits : ∀ r ∈ handover, r.Fits := by
    simp [handover, ask, AdminRequest.Fits]
  have hsubmissions : ∀ x ∈ handoverSubmissions,
      x.1.Concerns firstLedger ∧ x.1.SubmittedAs x.2 := by
    intro x hx
    obtain ⟨r, hr, rfl⟩ := List.mem_map.1 hx
    exact ⟨hconcerns r hr, AdminRequest.submittedAs_call (hfits r hr) 0⟩
  have hagrees : firstLedger.AgreesWith firstLedger.toChain :=
    Reachable.agreesWith_toChain ⟨_, rfl⟩
  obtain ⟨hverdicts, hfinal⟩ := (administration_agrees hagrees).2 handoverSubmissions hsubmissions
  rw [hcalls, hoperations] at hverdicts hfinal
  have hledger : firstLedger.verdicts (handover.map AdminRequest.operation) =
        [true, true, false, true, false, true] ∧
      ((firstLedger.after (handover.map AdminRequest.operation)).vault?
        Program.firstVaultAddress).map Vault.ownership = some (.owned (Bytes32.ofNatBE 2)) := by
    decide +kernel
  obtain ⟨v, hv, howner⟩ := Option.map_eq_some_iff.1 hledger.2
  obtain ⟨hload, -⟩ := hfinal.kept (vault?_eq_some_iff.1 hv)
  exact ⟨hverdicts.symm.trans hledger.1, v, hload, howner⟩

end Ledger

end Disbursement
