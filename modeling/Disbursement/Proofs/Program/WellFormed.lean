import Disbursement.Ledger.Arena
import Disbursement.Proofs.Program.Authority

/-!
# Well-formed chains

Every account of this program holds exactly one record, at the address derived for it, with its
stored bump, in an account of the right length, and the records it refers to exist.
`Chain.WellFormed` says so, with `VaultFormed`, `ScheduleFormed` and `MarkerFormed` for the three
types. What an instruction writes keeps it (`Writes.wellFormed`), so it holds after any calls on a
chain on which this program started without accounts (`wellFormed_of_fresh`).
-/

namespace Disbursement

/-! ## One record -/

/-- The account holds the record. -/
def Account.Holds (a : Account) : LedgerRecord → Prop
  | .vault v => a.loadRecord = .ok v
  | .schedule s => a.loadRecord = .ok s
  | .marker m => a.loadRecord = .ok m

namespace Account

variable {a : Account}

@[simp] theorem holds_vault {v : Vault} : a.Holds (.vault v) ↔ a.loadRecord = .ok v :=
  Iff.rfl

@[simp] theorem holds_schedule {s : Schedule} : a.Holds (.schedule s) ↔ a.loadRecord = .ok s :=
  Iff.rfl

@[simp] theorem holds_marker {m : Marker} : a.Holds (.marker m) ↔ a.loadRecord = .ok m :=
  Iff.rfl

end Account

/-- An account holds at most one record, of one type. -/
theorem Account.Holds.unique {a : Account} {record other : LedgerRecord} (h : a.Holds record)
    (h' : a.Holds other) : other = record := by
  have apart {α β : Type} [Record α] [Record β] {x : α} {y : β} (hx : a.loadRecord = .ok x)
      (hy : a.loadRecord = .ok y) : Record.mark α = Record.mark β :=
    Record.mark_eq_of_load (loadRecord_eq_ok_iff.1 hx).2 (loadRecord_eq_ok_iff.1 hy).2
  cases record with
  | vault v =>
    cases other with
    | vault w => rw [Except.ok.inj (Eq.trans (Eq.symm h) h')]
    | schedule s => exact absurd (apart h h') Record.mark_vault_ne_mark_schedule
    | marker m => exact absurd (apart h h') Record.mark_vault_ne_mark_marker
  | schedule s =>
    cases other with
    | vault w => exact absurd (apart h' h) Record.mark_vault_ne_mark_schedule
    | schedule t => rw [Except.ok.inj (Eq.trans (Eq.symm h) h')]
    | marker m => exact absurd (apart h h') Record.mark_schedule_ne_mark_marker
  | marker m =>
    cases other with
    | vault w => exact absurd (apart h' h) Record.mark_vault_ne_mark_marker
    | schedule s => exact absurd (apart h' h) Record.mark_schedule_ne_mark_marker
    | marker n => rw [Except.ok.inj (Eq.trans (Eq.symm h) h')]

theorem Account.isOwn_of_holds {a : Account} {record : LedgerRecord} (h : a.Holds record) :
    a.isOwn := by
  cases record <;> exact isOwn_of_loadRecord h

/-- A record elsewhere is held before if and only if it is held after. -/
theorem Chain.AgreesOff.holds_iff {c d : Chain} {address : Address} {targets : List Address}
    {record : LedgerRecord} (h : c.AgreesOff d targets) (hmem : address ∉ targets) :
    (d.account address).Holds record ↔ (c.account address).Holds record := by
  cases record <;> exact h.loadRecord_iff hmem

/-- A vault at an address, in an account of so many bytes. -/
structure VaultFormed (address : Address) (length : ℕ) (v : Vault) : Prop where
  derived : ∃ path, (Identity.vault path).find Address.program = some (address, v.bump)
  signer : ∃ signer, (Identity.signer address).find Address.program = some (signer, v.signerNonce)
  few : v.admins.length ≤ Vault.maxAdmins
  distinct : v.admins.Nodup
  length_eq : length = Vault.space

/-- A schedule at an address, in an account of so many bytes, of a vault on the chain. -/
structure ScheduleFormed (c : Chain) (address : Address) (length : ℕ) (s : Schedule) : Prop where
  derived : (Identity.schedule s.eventId).find Address.program = some (address, s.bump)
  vault : ∃ v : Vault, (c.account s.vault).loadRecord = .ok v
  formed : s.Formed
  length_eq : length = Schedule.space (Schedule.trackedLeavesOf s.kind s.userCount)

/-- A marker at an address guards a leaf of a schedule. -/
structure Marker.Guards (m : Marker) (s : Schedule) (address : Address) : Prop where
  kind : s.kind = .collection
  inRange : m.index < s.userCount
  /-- One slot for all tokens. -/
  shared : s.scope = .perIndex → m.key = Address.nativeMint
  derived : (Identity.marker s.eventId m.index m.key).find Address.program = some (address, m.bump)

/-- A marker at an address, in an account of so many bytes, of a schedule on the chain. -/
structure MarkerFormed (c : Chain) (address : Address) (length : ℕ) (m : Marker) : Prop where
  schedule : ∃ s : Schedule, (c.account m.schedule).loadRecord = .ok s ∧ m.Guards s address
  length_eq : length = Marker.space

/-- The record fits the address and the length of its account, and what it refers to exists. -/
def Chain.Formed (c : Chain) (address : Address) : LedgerRecord → Prop
  | .vault v => VaultFormed address (c.account address).data.length v
  | .schedule s => ScheduleFormed c address (c.account address).data.length s
  | .marker m => MarkerFormed c address (c.account address).data.length m

/-- Every account of this program holds exactly one record, which is well formed. -/
def Chain.WellFormed (c : Chain) : Prop :=
  ∀ address, (c.account address).isOwn → ∃ record, (c.account address).Holds record ∧
    (∀ other, (c.account address).Holds other → other = record) ∧ c.Formed address record

namespace Chain

variable {c d : Chain} {address : Address} {targets : List Address} {record : LedgerRecord}

theorem WellFormed.of_holds
    (h : ∀ address, (c.account address).isOwn →
      ∃ record, (c.account address).Holds record ∧ c.Formed address record) : c.WellFormed := by
  intro address hown
  obtain ⟨record, hholds, hformed⟩ := h address hown
  exact ⟨record, hholds, fun _ => hholds.unique, hformed⟩

/-- The record that is held is the one that is well formed. -/
theorem WellFormed.formed (h : c.WellFormed) (hown : (c.account address).isOwn)
    (hholds : (c.account address).Holds record) : c.Formed address record := by
  obtain ⟨record', -, hunique, hformed⟩ := h address hown
  obtain rfl := hunique record hholds
  exact hformed

theorem WellFormed.vaultFormed {v : Vault} (h : c.WellFormed)
    (hload : (c.account address).loadRecord = .ok v) :
    VaultFormed address (c.account address).data.length v :=
  h.formed (Account.isOwn_of_loadRecord hload) (Account.holds_vault.2 hload)

theorem WellFormed.scheduleFormed {s : Schedule} (h : c.WellFormed)
    (hload : (c.account address).loadRecord = .ok s) :
    ScheduleFormed c address (c.account address).data.length s :=
  h.formed (Account.isOwn_of_loadRecord hload) (Account.holds_schedule.2 hload)

theorem WellFormed.markerFormed {m : Marker} (h : c.WellFormed)
    (hload : (c.account address).loadRecord = .ok m) :
    MarkerFormed c address (c.account address).data.length m :=
  h.formed (Account.isOwn_of_loadRecord hload) (Account.holds_marker.2 hload)

/-! ## What a step keeps -/

/-- Vaults stay vaults, and schedules the schedules they were. -/
structure Persists (before after : Chain) : Prop where
  vault : ∀ {address : Address} {v : Vault}, (before.account address).loadRecord = .ok v →
    ∃ w : Vault, (after.account address).loadRecord = .ok w
  schedule : ∀ {address : Address} {s : Schedule}, (before.account address).loadRecord = .ok s →
    ∃ t, (after.account address).loadRecord = .ok t ∧ s.Continues t

end Chain

variable {c d : Chain} {address : Address} {length : ℕ} {targets : List Address}

theorem Marker.Guards.of_continues {m : Marker} {s t : Schedule} (h : m.Guards s address)
    (hcontinues : s.Continues t) : m.Guards t address := by
  rw [hcontinues.eq_with]
  exact ⟨h.kind, h.inRange, h.shared, h.derived⟩

theorem ScheduleFormed.of_persists {s : Schedule} (h : ScheduleFormed c address length s)
    (hpersists : c.Persists d) : ScheduleFormed d address length s where
  derived := h.derived
  vault := by
    obtain ⟨v, hv⟩ := h.vault
    exact hpersists.vault hv
  formed := h.formed
  length_eq := h.length_eq

theorem MarkerFormed.of_persists {m : Marker} (h : MarkerFormed c address length m)
    (hpersists : c.Persists d) : MarkerFormed d address length m where
  schedule := by
    obtain ⟨s, hs, hguards⟩ := h.schedule
    obtain ⟨t, ht, hcontinues⟩ := hpersists.schedule hs
    exact ⟨t, ht, hguards.of_continues hcontinues⟩
  length_eq := h.length_eq

/-- A record elsewhere stays well formed as long as what it refers to persists. -/
theorem Chain.WellFormed.of_agreesOff (h : c.WellFormed) (hagrees : c.AgreesOff d targets)
    (hpersists : c.Persists d) (hmem : address ∉ targets) (hown : (d.account address).isOwn) :
    ∃ record, (d.account address).Holds record ∧ d.Formed address record := by
  obtain ⟨hiff, hdata⟩ := hagrees address hmem
  have hbefore := hiff.1 hown
  obtain ⟨record, hholds, -, hformed⟩ := h address hbefore
  refine ⟨record, (hagrees.holds_iff hmem).2 hholds, ?_⟩
  cases record with
  | vault v =>
    rw [Chain.Formed, hdata hbefore]
    exact hformed
  | schedule s =>
    rw [Chain.Formed, hdata hbefore]
    exact ScheduleFormed.of_persists hformed hpersists
  | marker m =>
    rw [Chain.Formed, hdata hbefore]
    exact MarkerFormed.of_persists hformed hpersists

/-! ## One change -/

section

variable {s t : Schedule} {m : Marker} {bits : RedemptionBitmap} {index : UInt16}

theorem VaultFormed.of_changes {signs : Address → Bool} {i : Instruction} {v w : Vault}
    (h : VaultFormed address length v) (hchanges : v.Changes signs i w) :
    VaultFormed address length w where
  derived := by
    rw [hchanges.bump_eq]
    exact h.derived
  signer := by
    rw [hchanges.signerNonce_eq]
    exact h.signer
  few := (hchanges.admins_bounded h.few h.distinct).1
  distinct := (hchanges.admins_bounded h.few h.distinct).2
  length_eq := h.length_eq

theorem ScheduleFormed.of_setActive (h : ScheduleFormed c address length s) (isActive : Bool) :
    ScheduleFormed c address length { s with isActive } where
  derived := h.derived
  vault := h.vault
  formed := h.formed.of_setActive isActive
  length_eq := h.length_eq

theorem ScheduleFormed.of_mark (h : ScheduleFormed c address length s)
    (hmark : s.redemptions.mark index = .ok bits) (hindex : index < s.userCount) :
    ScheduleFormed c address length { s with redemptions := bits } where
  derived := h.derived
  vault := h.vault
  formed := h.formed.of_mark hmark hindex
  length_eq := h.length_eq

theorem MarkerFormed.redeemed (h : MarkerFormed c address length m) :
    MarkerFormed c address length { m with isRedeemed := true } where
  schedule := by
    obtain ⟨s, hs, hguards⟩ := h.schedule
    exact ⟨s, hs, hguards.kind, hguards.inRange, hguards.shared, hguards.derived⟩
  length_eq := h.length_eq

end

namespace Program

variable {call : Call} {i : Instruction} {out : Outcome}

theorem persists_perform (h : perform c call i = .ok out) : c.Persists out.chain where
  vault {address v} hv := by
    have hgoverned := (writes_perform h).governed (Account.isOwn_of_loadRecord hv)
    obtain ⟨w, hw, -⟩ := hgoverned.vault v hv
    exact ⟨w, hw⟩
  schedule := (evolves_perform h).schedule

/-- What an instruction writes is well formed if what it found was. -/
theorem Writes.wellFormed (h : Writes c call d i) (hpersists : c.Persists d) (hwf : c.WellFormed) :
    d.WellFormed := by
  refine .of_holds fun address hown => ?_
  -- only the accounts that are named need a look
  have other {targets : List Address} (helsewhere : c.AgreesOff d targets)
      (htargets : ∀ target ∈ targets, address = target →
        ∃ record, (d.account address).Holds record ∧ d.Formed address record) :
      ∃ record, (d.account address).Holds record ∧ d.Formed address record := by
    by_cases hmem : address ∈ targets
    · exact htargets address hmem rfl
    · exact hwf.of_agreesOff helsewhere hpersists hmem hown
  cases h with
  | opensVault path owner target signer bump signerNonce signed found custody creates =>
    refine other creates.elsewhere (List.forall_mem_singleton.2 ?_)
    rintro rfl
    exact ⟨.vault (Vault.create owner bump signerNonce), creates.stored,
      { derived := ⟨path, found⟩
        signer := ⟨signer, custody⟩
        few := Nat.zero_le _
        distinct := .nil
        length_eq := creates.length_eq }⟩
  | publishes value terms kind vault target v bump s loaded signed found new creates =>
    refine other creates.elsewhere (List.forall_mem_singleton.2 ?_)
    rintro rfl
    have hformed := Schedule.formed_of_create new
    obtain ⟨-, rfl⟩ := Schedule.create_eq_ok_iff.1 new
    exact ⟨.schedule _, creates.stored,
      { derived := found
        vault := hpersists.vault loaded
        formed := hformed
        length_eq := creates.length_eq }⟩
  | createsMarker index nftMint schedule target s bump loaded kind inRange found creates =>
    refine other creates.elsewhere (List.forall_mem_singleton.2 ?_)
    rintro rfl
    obtain ⟨t, ht, hcontinues⟩ := hpersists.schedule loaded
    have hguards : (Marker.create bump schedule index (s.markerKey nftMint)).Guards s address :=
      { kind
        inRange
        shared := fun hscope => by
          rw [Marker.create, Schedule.markerKey, hscope, MarkerScope.markerKey]
        derived := found }
    exact ⟨.marker _, creates.stored,
      { schedule := ⟨t, ht, hguards.of_continues hcontinues⟩
        length_eq := creates.length_eq }⟩
  | withdraws _ _ elsewhere =>
    exact other elsewhere fun _ hmem => absurd hmem List.not_mem_nil
  | changesVault _ target v w change turns elsewhere =>
    refine other elsewhere (List.forall_mem_singleton.2 ?_)
    rintro rfl
    have hformed := hwf.vaultFormed turns.loaded
    rw [← turns.length_eq] at hformed
    exact ⟨.vault w, turns.stored, hformed.of_changes change⟩
  | setsStatus isActive target v s loaded signed turns elsewhere =>
    refine other elsewhere (List.forall_mem_singleton.2 ?_)
    rintro rfl
    have hformed := hwf.scheduleFormed turns.loaded
    rw [← turns.length_eq] at hformed
    exact ⟨.schedule _, turns.stored, (hformed.of_persists hpersists).of_setActive isActive⟩
  | setsBit r target s bits mode inRange mark turns elsewhere =>
    refine other elsewhere (List.forall_mem_singleton.2 ?_)
    rintro rfl
    have hformed := hwf.scheduleFormed turns.loaded
    rw [← turns.length_eq] at hformed
    exact ⟨.schedule _, turns.stored, (hformed.of_persists hpersists).of_mark mark inRange⟩
  | redeemsMarker r target schedule m s mode free turns same elsewhere =>
    refine other elsewhere (List.forall_mem_cons.2 ⟨?_, List.forall_mem_singleton.2 ?_⟩)
    · rintro rfl
      have hformed := hwf.markerFormed turns.loaded
      rw [← turns.length_eq] at hformed
      exact ⟨.marker _, turns.stored, (hformed.of_persists hpersists).redeemed⟩
    · rintro rfl
      have hformed := hwf.scheduleFormed same.loaded
      rw [← same.length_eq] at hformed
      exact ⟨.schedule s, same.stored, hformed.of_persists hpersists⟩

/-! ## Any calls -/

/-- The chain after a call, which changes nothing if it fails. -/
def attempt (c : Chain) (call : Call) : Chain :=
  match execute c call with
  | .ok receipt => receipt.chain
  | .error _ => c

theorem attempt_of_ok {receipt : Receipt} (h : execute c call = .ok receipt) :
    attempt c call = receipt.chain := by
  rw [attempt, h]

theorem attempt_of_error {failure : Failure} (h : execute c call = .error failure) :
    attempt c call = c := by
  rw [attempt, h]

theorem wellFormed_attempt (h : c.WellFormed) (call : Call) : (attempt c call).WellFormed := by
  unfold attempt
  cases hexecute : execute c call with
  | error failure => exact h
  | ok receipt =>
    obtain ⟨-, i, out, -, hperform, rfl⟩ := execute_eq_ok_iff.1 hexecute
    exact (writes_perform hperform).wellFormed (persists_perform hperform) h

theorem wellFormed_foldl (h : c.WellFormed) (calls : List Call) :
    (calls.foldl attempt c).WellFormed := by
  induction calls generalizing c with
  | nil => exact h
  | cons call calls ih => exact ih (wellFormed_attempt h call)

/-- Whatever calls are made, and whether they succeed or fail, all accounts of this program are well
formed, if there were none at the start. -/
theorem wellFormed_of_fresh (fresh : ∀ address, ¬(c.account address).isOwn) (calls : List Call) :
    (calls.foldl attempt c).WellFormed :=
  wellFormed_foldl (fun address hown => absurd hown (fresh address)) calls

/-! ## A first vault -/

/-- A chain on which one wallet has lamports. -/
def fundedChain : Chain where
  account address :=
    if address = Bytes32.ofNatBE 1 then { Account.vacant with lamports := 1000000000 }
    else if address = Address.systemProgram then { Account.vacant with isExecutable := true }
    else .vacant

/-- The address of the vault that is named by the letter a. -/
def firstVaultAddress : Address :=
  Bytes32.ofNatBE 0xd3db5b944d5dce8a476b5033b6dc1326eca56e9c94098d8d828dbed1d9566189

/-- The wallet opens that vault. -/
def opening : Call where
  program := Address.program
  accounts :=
    [⟨Bytes32.ofNatBE 1, true, true⟩, ⟨firstVaultAddress, false, true⟩,
      ⟨Address.systemProgram, false, false⟩]
  data := (Instruction.createVault (vaultPath "a")).encode
  now := 0

theorem not_isOwn_fundedChain (address : Address) : ¬(fundedChain.account address).isOwn := by
  refine Account.not_isOwn_of_owner_eq ?_
  simp only [fundedChain]
  split
  · rfl
  · split <;> rfl

/-- The vault is opened for the wallet, and well formed after it was opened a second time in
vain. -/
theorem wellFormed_after_opening :
    ∃ v : Vault, (([opening, opening].foldl attempt fundedChain).account
        firstVaultAddress).loadRecord = .ok v ∧ v.owner = Bytes32.ofNatBE 1 ∧
      VaultFormed firstVaultAddress Vault.space v := by
  have hrun : ((([opening, opening].foldl attempt fundedChain).account
      firstVaultAddress).loadRecord : Except EntryError Vault).toOption =
        some (Vault.create (Bytes32.ofNatBE 1) 255 255) := by
    decide +kernel
  have hload := toOption_eq_some_iff.1 hrun
  have hwf := wellFormed_of_fresh not_isOwn_fundedChain [opening, opening]
  have hformed := hwf.vaultFormed hload
  rw [hformed.length_eq] at hformed
  exact ⟨_, hload, rfl, hformed⟩

end Program

end Disbursement
