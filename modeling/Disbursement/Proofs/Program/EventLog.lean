import Disbursement.Proofs.Event.Journal
import Disbursement.Proofs.Program.WellFormed

/-!
# The log of events tells the records

Every instruction that succeeds reports what it has done to the records, and nothing is done to them
that is not reported.

* `Journal.Describes` says that a journal and the records on a chain agree.
* `describes_perform` is one instruction: its event fits the journal before it, and the journal with
  the event describes the chain after it.
* `event_log_reconstructs_the_records` is any run from a chain without records.
-/

namespace Disbursement

/-! ## Agreement -/

namespace Journal

variable {j k : Journal} {c d : Chain} {address : Address} {targets : List Address} {a : Account}
  {record : LedgerRecord}

/-- What the journal says of an address agrees with the account there. -/
structure DescribesAt (j : Journal) (address : Address) (a : Account) : Prop where
  /-- There is an entry exactly for the record that the account holds. -/
  entry_iff : ∀ entry, j.known? address = some entry ↔
    ∃ record, a.Holds record ∧ record.entry = entry
  /-- Where a schedule has a bitmap, its bits are those of the redeemed indices. -/
  redeemed : ∀ s : Schedule, a.loadRecord = .ok s → s.kind.trackingMode = .bitmap →
    s.redemptions.ListedBy (j.redeemed address)
  /-- Without a record, nothing was redeemed. -/
  vacant : j.known? address = none → j.redeemed address = []

/-- The journal agrees with all records on the chain. -/
def Describes (j : Journal) (c : Chain) : Prop :=
  ∀ address, j.DescribesAt address (c.account address)

theorem describesAt_of_holds (hholds : a.Holds record)
    (hentry : j.known? address = some record.entry)
    (hredeemed : ∀ s, record = .schedule s → s.kind.trackingMode = .bitmap →
      s.redemptions.ListedBy (j.redeemed address)) : j.DescribesAt address a where
  entry_iff entry := by
    rw [hentry, Option.some_inj]
    constructor
    · intro heq
      exact ⟨record, hholds, heq⟩
    · rintro ⟨other, hother, rfl⟩
      rw [hholds.unique hother]
  redeemed s hs := hredeemed s ((Account.holds_schedule.2 hs).unique hholds)
  vacant hnone := absurd (hentry.symm.trans hnone) (Option.some_ne_none _)

theorem describesAt_vault {v : Vault} (hload : a.loadRecord = .ok v)
    (hentry : j.known? address = some (.vault v.entry)) : j.DescribesAt address a := by
  apply describesAt_of_holds (Account.holds_vault.2 hload) hentry
  rintro s ⟨⟩

theorem describesAt_schedule {s : Schedule} (hload : a.loadRecord = .ok s)
    (hentry : j.known? address = some (.schedule s.entry))
    (hredeemed : s.kind.trackingMode = .bitmap → s.redemptions.ListedBy (j.redeemed address)) :
    j.DescribesAt address a := by
  apply describesAt_of_holds (Account.holds_schedule.2 hload) hentry
  rintro _ ⟨⟩
  exact hredeemed

theorem describesAt_marker {m : Marker} (hload : a.loadRecord = .ok m)
    (hentry : j.known? address = some (.marker m.entry)) : j.DescribesAt address a := by
  apply describesAt_of_holds (Account.holds_marker.2 hload) hentry
  rintro s ⟨⟩

theorem DescribesAt.known?_eq (h : j.DescribesAt address a) (hholds : a.Holds record) :
    j.known? address = some record.entry :=
  (h.entry_iff _).2 ⟨record, hholds, rfl⟩

theorem DescribesAt.known?_eq_none (h : j.DescribesAt address a) (hforeign : ¬a.isOwn) :
    j.known? address = none := by
  refine Option.eq_none_iff_forall_ne_some.2 fun entry hentry => ?_
  obtain ⟨record, hholds, -⟩ := (h.entry_iff entry).1 hentry
  exact hforeign (Account.isOwn_of_holds hholds)

namespace Describes

variable (h : j.Describes c)
include h

theorem known?_vault {v : Vault} (hload : (c.account address).loadRecord = .ok v) :
    j.known? address = some (.vault v.entry) :=
  (h address).known?_eq (Account.holds_vault.2 hload)

theorem known?_schedule {s : Schedule} (hload : (c.account address).loadRecord = .ok s) :
    j.known? address = some (.schedule s.entry) :=
  (h address).known?_eq (Account.holds_schedule.2 hload)

theorem known?_marker {m : Marker} (hload : (c.account address).loadRecord = .ok m) :
    j.known? address = some (.marker m.entry) :=
  (h address).known?_eq (Account.holds_marker.2 hload)

/-! ## What a step keeps -/

/-- Away from the listed addresses nothing changes, so only those need a look. -/
theorem of_agreesOff (helsewhere : c.AgreesOff d targets)
    (hsame : ∀ address, address ∉ targets →
      k.known? address = j.known? address ∧ k.redeemed address = j.redeemed address)
    (htargets : ∀ target ∈ targets, k.DescribesAt target (d.account target)) : k.Describes d := by
  intro address
  by_cases hmem : address ∈ targets
  · exact htargets address hmem
  · obtain ⟨hentry, hredeemed⟩ := hsame address hmem
    obtain ⟨hiff, hlisted, hvacant⟩ := h address
    constructor
    case entry_iff =>
      intro entry
      simp only [hentry, hiff, helsewhere.holds_iff hmem]
    case redeemed =>
      intro s hs hmode
      rw [hredeemed]
      exact hlisted s ((helsewhere.loadRecord_iff hmem).1 hs) hmode
    case vacant =>
      intro hnone
      rw [hredeemed]
      exact hvacant (hentry.symm.trans hnone)

/-- A record is written at one address and entered in the journal. -/
theorem put {entry : JournalEntry} (helsewhere : c.AgreesOff d [address])
    (hat : (j.put address entry).DescribesAt address (d.account address)) :
    (j.put address entry).Describes d :=
  h.of_agreesOff helsewhere
    (fun _ hmem => ⟨known?_put_of_ne (List.ne_of_not_mem_cons hmem), rfl⟩)
    (List.forall_mem_singleton.2 hat)

theorem put_vault {v : Vault} (helsewhere : c.AgreesOff d [address])
    (hload : (d.account address).loadRecord = .ok v) :
    (j.put address (.vault v.entry)).Describes d :=
  h.put helsewhere (describesAt_vault hload (known?_put_self _ _ _))

theorem put_schedule {s : Schedule} (helsewhere : c.AgreesOff d [address])
    (hload : (d.account address).loadRecord = .ok s)
    (hredeemed : s.kind.trackingMode = .bitmap → s.redemptions.ListedBy (j.redeemed address)) :
    (j.put address (.schedule s.entry)).Describes d :=
  h.put helsewhere (describesAt_schedule hload (known?_put_self _ _ _) hredeemed)

theorem put_marker {m : Marker} (helsewhere : c.AgreesOff d [address])
    (hload : (d.account address).loadRecord = .ok m) :
    (j.put address (.marker m.entry)).Describes d :=
  h.put helsewhere (describesAt_marker hload (known?_put_self _ _ _))

/-- The journal follows a change of a vault that it knows the effect of. -/
theorem changeVault {v w : Vault} {change : VaultEntry → VaultEntry}
    (hturns : c.Turns d address v w) (helsewhere : c.AgreesOff d [address])
    (hchange : change v.entry = w.entry) : (j.changeVault address change).Describes d := by
  rw [changeVault_of_entry (h.known?_vault hturns.loaded), hchange]
  exact h.put_vault helsewhere hturns.stored

theorem setActive {s : Schedule} {isActive : Bool}
    (hturns : c.Turns d address s { s with isActive }) (helsewhere : c.AgreesOff d [address]) :
    (j.changeSchedule address fun entry => { entry with isActive }).Describes d := by
  rw [changeSchedule_of_entry (h.known?_schedule hturns.loaded)]
  exact h.put_schedule helsewhere hturns.stored ((h address).redeemed s hturns.loaded)

/-- A bit is set and its index listed. -/
theorem redeem_bitmap {s : Schedule} {index : UInt16} {bits : RedemptionBitmap}
    (hmark : s.redemptions.mark index = .ok bits)
    (hturns : c.Turns d address s { s with redemptions := bits })
    (helsewhere : c.AgreesOff d [address]) : (j.redeem address index).Describes d := by
  have hentry := h.known?_schedule hturns.loaded
  apply h.of_agreesOff helsewhere
  · intro other hmem
    exact ⟨rfl, redeemed_redeem_of_ne (List.ne_of_not_mem_cons hmem)⟩
  · refine List.forall_mem_singleton.2 (describesAt_schedule hturns.stored hentry ?_)
    intro hmode
    rw [redeemed_redeem_self]
    exact ((h address).redeemed s hturns.loaded hmode).mark hmark

/-- A flag is set, of which the journal says nothing; nor does it list the bits of the schedule. -/
theorem redeem_marker {target : Address} {m : Marker} {s : Schedule} {index : UInt16}
    (hmode : s.kind.trackingMode = .marker)
    (hturns : c.Turns d target m { m with isRedeemed := true }) (hsame : c.Turns d address s s)
    (helsewhere : c.AgreesOff d [target, address]) : (j.redeem address index).Describes d := by
  have hentry := h.known?_marker hturns.loaded
  apply h.of_agreesOff helsewhere
  · intro other hmem
    have hne := List.ne_of_not_mem_cons (List.not_mem_of_not_mem_cons hmem)
    exact ⟨rfl, redeemed_redeem_of_ne hne⟩
  · refine List.forall_mem_cons.2 ⟨?_, List.forall_mem_singleton.2 ?_⟩
    · exact describesAt_marker hturns.stored hentry
    · refine describesAt_schedule hsame.stored (h.known?_schedule hsame.loaded) ?_
      intro hbitmap
      exact absurd (hmode.symm.trans hbitmap) (by decide)

end Describes

end Journal

/-! ## One instruction -/

namespace Program

open Journal

variable {j : Journal} {c d : Chain} {call : Call} {i : Instruction} {out : Outcome}

/-- The journal follows a change of a vault that is stored over it. -/
theorem describes_change {signer : Address} {vault : Loaded Vault} {changed : Vault}
    {change : VaultEntry → VaultEntry} (hdescribes : j.Describes c)
    (htaken : VaultTaken c call signer vault) (hchange : vault.record.Changes call.signs i changed)
    (hstored : c.storeRecord vault.address changed = .ok d)
    (hentry : change vault.record.entry = changed.entry) :
    (j.changeVault vault.address change).Describes d := by
  have hturns := turns_of_storeVault hchange htaken.loaded hstored
  exact hdescribes.changeVault hturns (.of_storeRecord hstored) hentry

theorem describes_redeem {r : RedeemRequest} {a : RedeemAccounts} {marker : Option Marker}
    {settlement : Settlement} {marked paid : Chain}
    (hdescribes : j.Describes c) (h : Redeemed c call r a marker settlement marked paid out) :
    (j.redeem a.schedule.address r.index).Describes out.chain := by
  cases hmode : r.entitlement.kind.trackingMode with
  | bitmap =>
    obtain ⟨bits, hmark, hturns, helsewhere⟩ := h.turns_of_bitmap hmode
    exact hdescribes.redeem_bitmap hmark hturns helsewhere
  | marker =>
    obtain ⟨address, slot, -, hturns, hsame, helsewhere⟩ := h.turns_of_marker hmode
    rw [← h.kind_eq] at hmode
    exact hdescribes.redeem_marker hmode hturns hsame helsewhere

/-- An instruction that succeeds reports one event, which fits the journal before it; with the
event, the journal describes the chain after it. -/
theorem describes_perform (hdescribes : j.Describes c) (h : perform c call i = .ok out) :
    j.Admits out.event ∧ (j.record out.event).Describes out.chain := by
  cases i with
  | createVault path =>
    obtain ⟨owner, vault, signer, bump, signerNonce, opened, h⟩ := of_createVault h
    have hcreates := h.creates
    rw [h.event]
    exact ⟨(hdescribes vault).known?_eq_none hcreates.foreign,
      hdescribes.put_vault hcreates.elsewhere hcreates.stored⟩
  | setVault admins =>
    obtain ⟨owner, vault, changed, htaken, rfl, hchanged, hstored, hevent⟩ := of_setVault h
    obtain ⟨hfew, hdistinct, rfl⟩ := Vault.setAdmins_eq_ok_iff.1 hchanged
    have hchange := Vault.Changes.admins admins htaken.signs hfew hdistinct
    have hcount : (UInt8.ofNat admins.length).toNat = admins.length :=
      UInt8.toNat_ofNat_of_lt (Nat.lt_of_le_of_lt hfew (by decide))
    rw [hevent]
    refine ⟨⟨_, hdescribes.known?_vault htaken.loaded, rfl⟩, ?_⟩
    apply describes_change hdescribes htaken hchange hstored
    rw [hcount]
    rfl
  | transferOwnership newOwner =>
    obtain ⟨owner, vault, changed, htaken, rfl, hchanged, hstored, hevent⟩ :=
      of_transferOwnership h
    obtain ⟨hproper, rfl⟩ := Vault.propose_eq_ok_iff.1 hchanged
    have hchange := Vault.Changes.proposed newOwner htaken.signs hproper
    rw [hevent]
    exact ⟨⟨_, hdescribes.known?_vault htaken.loaded, rfl⟩,
      describes_change hdescribes htaken hchange hstored rfl⟩
  | acceptOwnership =>
    obtain ⟨newOwner, vault, oldOwner, changed, htaken, hchanged, hstored, hevent⟩ :=
      of_acceptOwnership h
    obtain ⟨hpending, rfl⟩ := Vault.accept_eq_ok_iff.1 hchanged
    have hchange := Vault.Changes.accepted oldOwner newOwner htaken.signs hpending
    rw [hevent]
    exact ⟨⟨_, hdescribes.known?_vault htaken.loaded, Vault.entry_of_pending hpending⟩,
      describes_change hdescribes htaken hchange hstored rfl⟩
  | cancelOwnershipTransfer =>
    obtain ⟨owner, vault, dropped, changed, htaken, rfl, hchanged, hstored, hevent⟩ :=
      of_cancelOwnershipTransfer h
    obtain ⟨hpending, rfl⟩ := Vault.cancel_eq_ok_iff.1 hchanged
    have hchange := Vault.Changes.cancelled dropped htaken.signs hpending
    rw [hevent]
    exact ⟨⟨_, hdescribes.known?_vault htaken.loaded, Vault.entry_of_pending hpending⟩,
      describes_change hdescribes htaken hchange hstored rfl⟩
  | createSchedule value terms =>
    obtain ⟨admin, vault, schedule, signer, bump, opened, created, h⟩ := of_createSchedule h
    obtain ⟨kind, hkind, hnew, hcreates⟩ := h.creates
    obtain ⟨-, rfl⟩ := Schedule.create_eq_ok_iff.1 hnew
    have hnone := (hdescribes schedule).known?_eq_none hcreates.foreign
    rw [h.event, ← ScheduleKind.wireValue_of_ofByte hkind]
    refine ⟨⟨hnone, _, hdescribes.known?_vault h.loaded⟩,
      hdescribes.put_schedule hcreates.elsewhere hcreates.stored fun _ => ?_⟩
    rw [(hdescribes schedule).vacant hnone]
    exact RedemptionBitmap.listedBy_empty _
  | setScheduleStatus isActive =>
    obtain ⟨admin, vault, schedule, h⟩ := of_setScheduleStatus h
    rw [h.event]
    exact ⟨⟨_, hdescribes.known?_schedule h.loaded⟩,
      hdescribes.setActive h.turns (.of_storeRecord h.stored)⟩
  | withdrawSol amount =>
    obtain ⟨admin, vault, signer, recipient, h⟩ := of_withdrawSol h
    rw [h.event]
    exact ⟨⟨_, hdescribes.known?_vault h.loaded⟩,
      hdescribes.of_agreesOff (pays_payLamports h.paid).agreesOff (fun _ _ => ⟨rfl, rfl⟩)
        (List.forall_mem_nil _)⟩
  | withdrawToken amount =>
    obtain ⟨admin, vault, signer, sender, recipient, held, h⟩ := of_withdrawToken h
    obtain ⟨_, -, -, -, hpays⟩ := pays_payTokens h.paid
    rw [h.event]
    exact ⟨⟨_, hdescribes.known?_vault h.loaded⟩,
      hdescribes.of_agreesOff hpays.agreesOff (fun _ _ => ⟨rfl, rfl⟩)
        (List.forall_mem_nil _)⟩
  | redeem r =>
    obtain ⟨a, marker, settlement, marked, paid, h⟩ := of_redeem h
    rw [h.event]
    exact ⟨⟨_, hdescribes.known?_schedule h.taken.loaded⟩, describes_redeem hdescribes h⟩
  | initRedeemIndex index nftMint =>
    obtain ⟨payer, vault, schedule, address, bump, opened, h⟩ := of_initRedeemIndex h
    have hcreates := h.creates
    rw [h.event]
    exact ⟨⟨(hdescribes address).known?_eq_none hcreates.foreign, _,
        hdescribes.known?_schedule h.loaded⟩,
      hdescribes.put_marker hcreates.elsewhere hcreates.stored⟩

/-! ## Any calls -/

/-- The events of a call; a call that fails has none. -/
def events (c : Chain) (call : Call) : List Event :=
  match execute c call with
  | .ok receipt => receipt.events
  | .error _ => []

/-- The events of calls one after another. -/
def eventLog (c : Chain) : List Call → List Event
  | [] => []
  | call :: calls => events c call ++ eventLog (attempt c call) calls

theorem describes_attempt (h : j.Describes c) (call : Call) :
    j.AdmitsAll (events c call) ∧ (j.replay (events c call)).Describes (attempt c call) := by
  unfold events attempt
  cases hexecute : execute c call with
  | error failure => exact ⟨trivial, h⟩
  | ok receipt =>
    obtain ⟨-, i, out, -, hperform, rfl⟩ := execute_eq_ok_iff.1 hexecute
    obtain ⟨hadmits, hdescribes⟩ := describes_perform h hperform
    exact ⟨⟨hadmits, trivial⟩, hdescribes⟩

theorem describes_foldl (h : j.Describes c) (calls : List Call) :
    j.AdmitsAll (eventLog c calls) ∧
      (j.replay (eventLog c calls)).Describes (calls.foldl attempt c) := by
  induction calls generalizing j c with
  | nil => exact ⟨trivial, h⟩
  | cons call calls ih =>
    obtain ⟨hadmits, hdescribes⟩ := describes_attempt h call
    obtain ⟨hadmits', hdescribes'⟩ := ih hdescribes
    rw [eventLog, admitsAll_append, replay_append]
    exact ⟨⟨hadmits, hadmits'⟩, hdescribes'⟩

theorem describes_empty (fresh : ∀ address, ¬(c.account address).isOwn) :
    Journal.empty.Describes c := by
  intro address
  constructor
  case entry_iff =>
    intro entry
    apply iff_of_false (Option.some_ne_none entry).symm
    rintro ⟨record, hholds, -⟩
    exact fresh address (Account.isOwn_of_holds hholds)
  case redeemed =>
    intro s hs
    exact absurd (Account.isOwn_of_loadRecord hs) (fresh address)
  case vacant =>
    intro _
    rfl

/-- The log of events tells the records. Whatever calls are made on a chain on which this program
had no accounts, folding the events of those that succeed gives an entry for exactly the records
there are: of a vault the owner, the candidate and the number of admins, of a schedule its vault,
identifier, kind, number of leaves, root and activity, of a marker its schedule, index and key. The
indices redeemed from a schedule with a bitmap are those whose bits are set, none of them twice. And
every event fits the ones before it: it creates what was not there, and names the owner and the
candidate there were. -/
theorem event_log_reconstructs_the_records (fresh : ∀ address, ¬(c.account address).isOwn)
    (calls : List Call) :
    (Journal.empty.replay (eventLog c calls)).Describes (calls.foldl attempt c) ∧
      Journal.empty.AdmitsAll (eventLog c calls) :=
  (describes_foldl (describes_empty fresh) calls).symm

/-- The owner of the first vault proposes another wallet. -/
def proposal : Call where
  program := Address.program
  accounts := [⟨Bytes32.ofNatBE 1, true, true⟩, ⟨firstVaultAddress, false, true⟩]
  data := (Instruction.transferOwnership (Bytes32.ofNatBE 2)).encode
  now := 0

/-- The vault is opened, opened a second time in vain, and the proposal is known from the log. -/
theorem event_log_of_proposal :
    (Journal.empty.replay (eventLog fundedChain [opening, opening, proposal])).known?
        firstVaultAddress =
      some (.vault
        { owner := Bytes32.ofNatBE 1, pending? := some (Bytes32.ofNatBE 2), adminCount := 0 }) := by
  have hrun : ((([opening, opening, proposal].foldl attempt fundedChain).account
      firstVaultAddress).loadRecord : Except EntryError Vault).toOption =
        some { Vault.create (Bytes32.ofNatBE 1) 255 255 with
          ownership := .pending (Bytes32.ofNatBE 1) (Bytes32.ofNatBE 2) } := by
    decide +kernel
  have hload := toOption_eq_some_iff.1 hrun
  obtain ⟨hdescribes, -⟩ :=
    event_log_reconstructs_the_records not_isOwn_fundedChain [opening, opening, proposal]
  exact hdescribes.known?_vault hload

end Program

end Disbursement
