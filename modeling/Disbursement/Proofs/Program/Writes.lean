import Disbursement.Proofs.Chain.Records
import Disbursement.Proofs.Program.Payments
import Disbursement.Proofs.Program.Redeem
import Disbursement.Proofs.Schedule
import Disbursement.Proofs.Vault

/-!
# What an instruction writes

Eight things can become of the records of this program, and `Writes` lists them: for each, who
signed, which records were found, and which record was created or turned into which other one. An
instruction that succeeds does one of them (`writes_perform`), and all accounts of this program that
are not named stay as they are.
-/

namespace Disbursement.Program

variable {c d : Chain} {call : Call} {i : Instruction} {out : Outcome}

/-- What an instruction does to the records, and on whose authority. -/
inductive Writes (c : Chain) (call : Call) (d : Chain) : Instruction → Prop where
  /-- A vault is opened, which belongs to the one who signs. -/
  | opensVault (path : Digest) (owner vault signer : Address) (bump signerNonce : UInt8)
      (signed : call.signs owner = true)
      (found : (Identity.vault path).find Address.program = some (vault, bump))
      (custody : (Identity.signer vault).find Address.program = some (signer, signerNonce))
      (creates : c.Creates d vault (Vault.create owner bump signerNonce) Vault.space) :
      Writes c call d (.createVault path)
  /-- A vault changes. -/
  | changesVault (i : Instruction) (address : Address) (v w : Vault)
      (change : v.Changes call.signs i w) (turns : c.Turns d address v w)
      (elsewhere : c.AgreesOff d [address]) :
      Writes c call d i
  /-- A schedule of a vault is published. -/
  | publishes (value : UInt8) (terms : ScheduleTerms) (kind : ScheduleKind)
      (vault address : Address) (v : Vault) (bump : UInt8) (s : Schedule)
      (loaded : (c.account vault).loadRecord = .ok v) (signed : v.SignedByAdmin call.signs)
      (found : (Identity.schedule terms.eventId).find Address.program = some (address, bump))
      (new : Schedule.create vault bump call.now kind terms = .ok s)
      (creates : c.Creates d address s
        (Schedule.space (Schedule.trackedLeavesOf kind terms.userCount))) :
      Writes c call d (.createSchedule value terms)
  /-- A schedule is opened or closed for claims. -/
  | setsStatus (isActive : Bool) (address : Address) (v : Vault) (s : Schedule)
      (loaded : (c.account s.vault).loadRecord = .ok v) (signed : v.SignedByAdmin call.signs)
      (turns : c.Turns d address s { s with isActive }) (elsewhere : c.AgreesOff d [address]) :
      Writes c call d (.setScheduleStatus isActive)
  /-- A leaf is redeemed in the bitmap of its schedule. -/
  | setsBit (r : RedeemRequest) (address : Address) (s : Schedule) (bits : RedemptionBitmap)
      (mode : r.entitlement.kind.trackingMode = .bitmap) (inRange : r.index < s.userCount)
      (mark : s.redemptions.mark r.index = .ok bits)
      (turns : c.Turns d address s { s with redemptions := bits })
      (elsewhere : c.AgreesOff d [address]) :
      Writes c call d (.redeem r)
  /-- A leaf is redeemed in a marker; its schedule is written back as it was. -/
  | redeemsMarker (r : RedeemRequest) (address schedule : Address) (m : Marker) (s : Schedule)
      (mode : r.entitlement.kind.trackingMode = .marker) (free : m.isRedeemed = false)
      (turns : c.Turns d address m { m with isRedeemed := true }) (same : c.Turns d schedule s s)
      (elsewhere : c.AgreesOff d [address, schedule]) :
      Writes c call d (.redeem r)
  /-- The marker of a claim slot is created. -/
  | createsMarker (index : UInt16) (nftMint schedule address : Address) (s : Schedule)
      (bump : UInt8) (loaded : (c.account schedule).loadRecord = .ok s)
      (kind : s.kind = .collection) (inRange : index < s.userCount)
      (found : (Identity.marker s.eventId index (s.markerKey nftMint)).find Address.program =
        some (address, bump))
      (creates : c.Creates d address (Marker.create bump schedule index (s.markerKey nftMint))
        Marker.space) :
      Writes c call d (.initRedeemIndex index nftMint)
  /-- Assets are withdrawn, and nothing is written. -/
  | withdraws (i : Instruction) (kind : i.kind = .withdrawSol ∨ i.kind = .withdrawToken)
      (elsewhere : c.AgreesOff d []) :
      Writes c call d i

/-! ## Records stored over records -/

theorem turns_of_storeVault {target : Address} {v w : Vault} (hchange : v.Changes call.signs i w)
    (hload : (c.account target).loadRecord = .ok v) (h : c.storeRecord target w = .ok d) :
    c.Turns d target v w := by
  obtain ⟨-, hdata⟩ := Account.loadRecord_eq_ok_iff.1 hload
  have hlength := hchange.length_admins_lt (Vault.length_admins_lt_of_load hdata)
  exact .of_storeRecord hload (Vault.readsBack hlength) h

/-- A schedule that continues the one in an account can be written over it. -/
theorem turns_of_storeSchedule {target : Address} {s t : Schedule}
    (hload : (c.account target).loadRecord = .ok s) (hcontinues : s.Continues t)
    (h : c.storeRecord target t = .ok d) : c.Turns d target s t := by
  obtain ⟨-, hdata⟩ := Account.loadRecord_eq_ok_iff.1 hload
  have hsize := Schedule.size_lt_of_load hdata
  rw [← hcontinues.redemptions.size_eq] at hsize
  exact .of_storeRecord hload (Schedule.readsBack hsize) h

theorem writes_of_changes {signer : Address} {vault : Loaded Vault} {changed : Vault}
    (htaken : VaultTaken c call signer vault) (hchange : vault.record.Changes call.signs i changed)
    (hstored : c.storeRecord vault.address changed = .ok d) : Writes c call d i :=
  .changesVault i vault.address vault.record changed hchange
    (turns_of_storeVault hchange htaken.loaded hstored) (.of_storeRecord hstored)

theorem StatusSet.turns {isActive : Bool} {admin : Address} {vault : Loaded Vault}
    {schedule : Loaded Schedule} (h : StatusSet c call isActive admin vault schedule out) :
    c.Turns out.chain schedule.address schedule.record { schedule.record with isActive } :=
  turns_of_storeSchedule h.loaded (.of_setActive _ isActive) h.stored

/-! ## Records in new accounts -/

theorem VaultOpened.creates {path : Digest} {owner vault signer : Address}
    {bump signerNonce : UInt8} {opened : Chain}
    (h : VaultOpened c call path owner vault signer bump signerNonce opened out) :
    c.Creates out.chain vault (Vault.create owner bump signerNonce) Vault.space := by
  obtain ⟨-, _, hopens⟩ := opens_openRecord h.openRecord
  exact hopens.creates (Vault.readsBack (Nat.two_pow_pos 32)) h.stored

theorem SchedulePublished.creates {value : UInt8} {terms : ScheduleTerms} {admin : Address}
    {vault : Loaded Vault} {schedule signer : Address} {bump : UInt8} {opened : Chain}
    {created : Schedule}
    (h : SchedulePublished c call value terms admin vault schedule signer bump opened created out) :
    ∃ kind, ScheduleKind.ofByte value = .ok kind ∧
      Schedule.create vault.address bump call.now kind terms = .ok created ∧
      c.Creates out.chain schedule created
        (Schedule.space (Schedule.trackedLeavesOf kind terms.userCount)) := by
  obtain ⟨kind, hkind, hnew⟩ := h.new
  obtain ⟨-, _, hopens⟩ := opens_openRecord h.openRecord
  rw [Schedule.trackedLeaves_of_ofByte hkind] at hopens
  exact ⟨kind, hkind, hnew,
    hopens.creates (Schedule.readsBack (Schedule.size_lt_of_create hnew)) h.stored⟩

theorem MarkerCreated.creates {index : UInt16} {nftMint payer : Address} {vault : Loaded Vault}
    {schedule : Loaded Schedule} {address : Address} {bump : UInt8} {opened : Chain}
    (h : MarkerCreated c call index nftMint payer vault schedule address bump opened out) :
    c.Creates out.chain address
      (Marker.create bump schedule.address index (schedule.record.markerKey nftMint))
      Marker.space := by
  obtain ⟨_, hopens⟩ := opens_openAccount h.openAccount
  exact hopens.creates (Marker.readsBack _) h.stored

/-! ## Redemptions -/

section Redeem

variable {r : RedeemRequest} {a : RedeemAccounts} {marker : Option Marker}
  {settlement : Settlement} {marked paid : Chain}

theorem Redeemed.inRange (h : Redeemed c call r a marker settlement marked paid out) :
    r.index < a.schedule.record.userCount := by
  obtain ⟨-, -, hindex, -⟩ := Claim.settle_eq_ok_iff.1 h.settled
  exact hindex

/-- Both legs leave the records as they are. -/
theorem Redeemed.agreesOff (h : Redeemed c call r a marker settlement marked paid out) :
    marked.AgreesOff paid [] := by
  obtain ⟨_, _, hpays⟩ := exists_pays_payOut h.payOut
  exact hpays.agreesOff

/-- With a bitmap, one bit of the schedule is set, and nothing is written elsewhere. -/
theorem Redeemed.turns_of_bitmap (h : Redeemed c call r a marker settlement marked paid out)
    (hmode : r.entitlement.kind.trackingMode = .bitmap) :
    ∃ bits, a.schedule.record.redemptions.mark r.index = .ok bits ∧
      c.Turns out.chain a.schedule.address a.schedule.record
        { a.schedule.record with redemptions := bits } ∧
      c.AgreesOff out.chain [a.schedule.address] := by
  have hcontinues := Claim.continues_of_settle h.settled
  have hpaid := h.agreesOff
  have hstored := Chain.AgreesOff.of_storeRecord h.stored
  obtain ⟨bits, hmark, hschedule, rfl⟩ := h.by_bitmap hmode
  have hload := (hpaid.loadRecord_iff List.not_mem_nil).2 h.taken.loaded
  have hturns := (turns_of_storeSchedule hload hcontinues h.stored).after hpaid List.not_mem_nil
  rw [hschedule] at hturns
  exact ⟨bits, hmark, hturns, (hpaid.mono (List.nil_subset _)).trans hstored⟩

/-- With a marker, its flag is set, the schedule is written back as it was, and nothing is written
elsewhere. -/
theorem Redeemed.turns_of_marker (h : Redeemed c call r a marker settlement marked paid out)
    (hmode : r.entitlement.kind.trackingMode = .marker) :
    ∃ address, ∃ slot : Marker, slot.isRedeemed = false ∧
      c.Turns out.chain address slot { slot with isRedeemed := true } ∧
      c.Turns out.chain a.schedule.address a.schedule.record a.schedule.record ∧
      c.AgreesOff out.chain [address, a.schedule.address] := by
  have hcontinues := Claim.continues_of_settle h.settled
  have hpaid := h.agreesOff
  have hstored := Chain.AgreesOff.of_storeRecord h.stored
  obtain ⟨mint, group, address, bump, slot, used, -, -, hslot, hmark, hstore, hschedule⟩ :=
    h.by_marker hmode
  obtain ⟨-, hfree, rfl⟩ := Marker.mark_eq_ok_iff.1 hmark
  have hne := Chain.ne_of_loadRecord Record.mark_schedule_ne_mark_marker h.taken.loaded hslot
  have haddress : address ∉ [a.schedule.address] := by
    rw [List.mem_singleton]
    exact hne.symm
  have hschedule' : a.schedule.address ∉ [address] := by
    rw [List.mem_singleton]
    exact hne
  have hmarked := Chain.AgreesOff.of_storeRecord hstore
  have hturns := Chain.Turns.of_storeRecord hslot (Marker.readsBack _) hstore
  have hload := (hpaid.loadRecord_iff List.not_mem_nil).2
    ((hmarked.loadRecord_iff hschedule').2 h.taken.loaded)
  have hsame := ((turns_of_storeSchedule hload hcontinues h.stored).after hpaid
    List.not_mem_nil).after hmarked hschedule'
  rw [hschedule] at hsame
  have hsub : [address] ⊆ [address, a.schedule.address] := List.subset_append_left [address] _
  have hsub' : [a.schedule.address] ⊆ [address, a.schedule.address] := List.subset_cons_self _ _
  exact ⟨address, slot, hfree,
    (hturns.before hpaid List.not_mem_nil).before hstored haddress, hsame,
    ((hmarked.mono hsub).trans (hpaid.mono (List.nil_subset _))).trans (hstored.mono hsub')⟩

theorem Redeemed.writes (h : Redeemed c call r a marker settlement marked paid out) :
    Writes c call out.chain (.redeem r) := by
  cases hmode : r.entitlement.kind.trackingMode with
  | bitmap =>
    obtain ⟨bits, hmark, hturns, helsewhere⟩ := h.turns_of_bitmap hmode
    exact .setsBit r a.schedule.address a.schedule.record bits hmode h.inRange hmark hturns
      helsewhere
  | marker =>
    obtain ⟨address, slot, hfree, hturns, hsame, helsewhere⟩ := h.turns_of_marker hmode
    exact .redeemsMarker r address a.schedule.address slot a.schedule.record hmode hfree hturns
      hsame helsewhere

end Redeem

/-! ## All instructions -/

theorem writes_perform (h : perform c call i = .ok out) : Writes c call out.chain i := by
  cases i with
  | createVault path =>
    obtain ⟨owner, vault, signer, bump, signerNonce, opened, h⟩ := of_createVault h
    obtain ⟨hfound, -⟩ := opens_openRecord h.openRecord
    exact .opensVault path owner vault signer bump signerNonce h.signs hfound h.custody h.creates
  | setVault admins =>
    obtain ⟨owner, vault, changed, htaken, rfl, hchanged, hstored, -⟩ := of_setVault h
    obtain ⟨hfew, hdistinct, rfl⟩ := Vault.setAdmins_eq_ok_iff.1 hchanged
    exact writes_of_changes htaken (.admins admins htaken.signs hfew hdistinct) hstored
  | transferOwnership newOwner =>
    obtain ⟨owner, vault, changed, htaken, rfl, hchanged, hstored, -⟩ := of_transferOwnership h
    obtain ⟨hproper, rfl⟩ := Vault.propose_eq_ok_iff.1 hchanged
    exact writes_of_changes htaken (.proposed newOwner htaken.signs hproper) hstored
  | acceptOwnership =>
    obtain ⟨newOwner, vault, oldOwner, changed, htaken, hchanged, hstored, -⟩ :=
      of_acceptOwnership h
    obtain ⟨hpending, rfl⟩ := Vault.accept_eq_ok_iff.1 hchanged
    exact writes_of_changes htaken (.accepted oldOwner newOwner htaken.signs hpending) hstored
  | cancelOwnershipTransfer =>
    obtain ⟨owner, vault, dropped, changed, htaken, rfl, hchanged, hstored, -⟩ :=
      of_cancelOwnershipTransfer h
    obtain ⟨hpending, rfl⟩ := Vault.cancel_eq_ok_iff.1 hchanged
    exact writes_of_changes htaken (.cancelled dropped htaken.signs hpending) hstored
  | createSchedule value terms =>
    obtain ⟨admin, vault, schedule, signer, bump, opened, created, h⟩ := of_createSchedule h
    obtain ⟨hfound, -⟩ := opens_openRecord h.openRecord
    obtain ⟨kind, -, hnew, hcreates⟩ := h.creates
    exact .publishes value terms kind vault.address schedule vault.record bump created h.loaded
      ⟨admin, h.signs, h.authority⟩ hfound hnew hcreates
  | setScheduleStatus isActive =>
    obtain ⟨admin, vault, schedule, h⟩ := of_setScheduleStatus h
    exact .setsStatus isActive schedule.address vault.record schedule.record
      (h.ofVault ▸ h.loadedVault) ⟨admin, h.signs, h.authority⟩ h.turns (.of_storeRecord h.stored)
  | withdrawSol amount =>
    obtain ⟨_, _, _, _, h⟩ := of_withdrawSol h
    exact .withdraws _ (.inl rfl) (pays_payLamports h.paid).agreesOff
  | withdrawToken amount =>
    obtain ⟨_, _, _, _, _, _, h⟩ := of_withdrawToken h
    obtain ⟨_, -, -, -, hpays⟩ := pays_payTokens h.paid
    exact .withdraws _ (.inr rfl) hpays.agreesOff
  | redeem r =>
    obtain ⟨_, _, _, _, _, h⟩ := of_redeem h
    exact h.writes
  | initRedeemIndex index nftMint =>
    obtain ⟨payer, vault, schedule, address, bump, opened, h⟩ := of_initRedeemIndex h
    exact .createsMarker index nftMint schedule.address address schedule.record bump h.loaded h.kind
      h.inRange h.found h.creates

end Disbursement.Program
