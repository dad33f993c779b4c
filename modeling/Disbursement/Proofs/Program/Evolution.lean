import Disbursement.Proofs.Program.Writes

/-!
# What becomes of the records

Between two moments of the chain a schedule remains the schedule it was, and a marker the marker it
was: `Chain.Evolves` says so of all of them. It is a preorder, and what an instruction writes is a
step of it (`Writes.evolves`), so every call that succeeds is one.

An account of this program is never given up, so it cannot be created a second time either; that is
why a record, once there, can only continue.
-/

namespace Disbursement

namespace Chain

variable {c d e : Chain} {target : Address} {targets : List Address}

/-- Every schedule and every marker continues. -/
structure Evolves (before after : Chain) : Prop where
  schedule : ∀ {address : Address} {s : Schedule}, (before.account address).loadRecord = .ok s →
    ∃ t, (after.account address).loadRecord = .ok t ∧ s.Continues t
  marker : ∀ {address : Address} {m : Marker}, (before.account address).loadRecord = .ok m →
    ∃ n, (after.account address).loadRecord = .ok n ∧ m.Continues n

namespace Evolves

theorem of_spares (h : c.Spares d) : c.Evolves d where
  schedule hload := ⟨_, h.loadRecord hload, .refl _⟩
  marker hload := ⟨_, h.loadRecord hload, .refl _⟩

theorem refl (c : Chain) : c.Evolves c :=
  of_spares (.refl c)

theorem trans (h : c.Evolves d) (h' : d.Evolves e) : c.Evolves e where
  schedule hload := by
    obtain ⟨t, hload', hcontinues⟩ := h.schedule hload
    obtain ⟨u, hload'', hcontinues'⟩ := h'.schedule hload'
    exact ⟨u, hload'', hcontinues.trans hcontinues'⟩
  marker hload := by
    obtain ⟨n, hload', hcontinues⟩ := h.marker hload
    obtain ⟨k, hload'', hcontinues'⟩ := h'.marker hload'
    exact ⟨k, hload'', hcontinues.trans hcontinues'⟩

/-- Records away from the listed addresses are the same, so only those there need a look. -/
theorem of_agreesOff (h : c.AgreesOff d targets)
    (schedule : ∀ target ∈ targets, ∀ s : Schedule, (c.account target).loadRecord = .ok s →
      ∃ t, (d.account target).loadRecord = .ok t ∧ s.Continues t)
    (marker : ∀ target ∈ targets, ∀ m : Marker, (c.account target).loadRecord = .ok m →
      ∃ n, (d.account target).loadRecord = .ok n ∧ m.Continues n) : c.Evolves d where
  schedule {address s} hload := by
    by_cases hmem : address ∈ targets
    · exact schedule address hmem s hload
    · exact ⟨s, (h.loadRecord_iff hmem).2 hload, .refl s⟩
  marker {address m} hload := by
    by_cases hmem : address ∈ targets
    · exact marker address hmem m hload
    · exact ⟨m, (h.loadRecord_iff hmem).2 hload, .refl m⟩

theorem of_vault {v w : Vault} (h : c.Turns d target v w) (elsewhere : c.AgreesOff d [target]) :
    c.Evolves d := by
  refine .of_agreesOff elsewhere (List.forall_mem_singleton.2 fun s hs => ?_)
    (List.forall_mem_singleton.2 fun m hm => ?_)
  · exact absurd rfl (ne_of_loadRecord Record.mark_vault_ne_mark_schedule h.loaded hs)
  · exact absurd rfl (ne_of_loadRecord Record.mark_vault_ne_mark_marker h.loaded hm)

theorem of_schedule {s t : Schedule} (h : c.Turns d target s t) (hcontinues : s.Continues t)
    (elsewhere : c.AgreesOff d [target]) : c.Evolves d := by
  refine .of_agreesOff elsewhere (List.forall_mem_singleton.2 fun s' hs' => ?_)
    (List.forall_mem_singleton.2 fun m hm => ?_)
  · obtain rfl := Except.ok.inj (h.loaded.symm.trans hs')
    exact ⟨t, h.stored, hcontinues⟩
  · exact absurd rfl (ne_of_loadRecord Record.mark_schedule_ne_mark_marker h.loaded hm)

theorem of_marker {m n : Marker} (h : c.Turns d target m n) (hcontinues : m.Continues n)
    (elsewhere : c.AgreesOff d [target]) : c.Evolves d := by
  refine .of_agreesOff elsewhere (List.forall_mem_singleton.2 fun s hs => ?_)
    (List.forall_mem_singleton.2 fun m' hm' => ?_)
  · exact absurd rfl (ne_of_loadRecord Record.mark_schedule_ne_mark_marker hs h.loaded)
  · obtain rfl := Except.ok.inj (h.loaded.symm.trans hm')
    exact ⟨n, h.stored, hcontinues⟩

/-- A marker and a schedule, at different addresses. -/
theorem of_marker_of_schedule {m n : Marker} {s t : Schedule} {address : Address}
    (h : c.Turns d address m n) (h' : c.Turns d target s t) (hm : m.Continues n)
    (hs : s.Continues t) (elsewhere : c.AgreesOff d [address, target]) : c.Evolves d := by
  refine .of_agreesOff elsewhere
    (List.forall_mem_cons.2 ⟨fun s' hs' => ?_, List.forall_mem_singleton.2 fun s' hs' => ?_⟩)
    (List.forall_mem_cons.2 ⟨fun m' hm' => ?_, List.forall_mem_singleton.2 fun m' hm' => ?_⟩)
  · exact absurd rfl (ne_of_loadRecord Record.mark_schedule_ne_mark_marker hs' h.loaded)
  · obtain rfl := Except.ok.inj (h'.loaded.symm.trans hs')
    exact ⟨t, h'.stored, hs⟩
  · obtain rfl := Except.ok.inj (h.loaded.symm.trans hm')
    exact ⟨n, h.stored, hm⟩
  · exact absurd rfl (ne_of_loadRecord Record.mark_schedule_ne_mark_marker h'.loaded hm')

end Evolves

end Chain

/-! ## Instructions -/

namespace Program

variable {c marked paid : Chain} {call : Call} {out : Outcome}

section Redeem

variable {r : RedeemRequest} {a : RedeemAccounts} {marker : Option Marker}
  {settlement : Settlement}

/-- Storing the marker of a redemption leaves its schedule as it was loaded. -/
theorem Redeemed.evolves_marked (h : Redeemed c call r a marker settlement marked paid out) :
    c.Evolves marked ∧
      (marked.account a.schedule.address).loadRecord = .ok a.schedule.record := by
  cases hmode : r.entitlement.kind.trackingMode with
  | bitmap =>
    obtain ⟨bits, -, -, rfl⟩ := h.by_bitmap hmode
    exact ⟨.refl _, h.taken.loaded⟩
  | marker =>
    obtain ⟨_, _, address, _, slot, used, -, -, hslot, hmark, hstore, -⟩ := h.by_marker hmode
    have hne := Chain.ne_of_loadRecord Record.mark_schedule_ne_mark_marker h.taken.loaded hslot
    rw [Chain.account_storeRecord_of_ne hne hstore]
    have hturns := Chain.Turns.of_storeRecord hslot (Marker.readsBack _) hstore
    exact ⟨.of_marker hturns (.of_mark hmark) (.of_storeRecord hstore), h.taken.loaded⟩

/-- Between the marker and the schedule both legs are paid, which spares the records; the schedule
that is stored last continues the one that was loaded first. -/
theorem Redeemed.marked_evolves (h : Redeemed c call r a marker settlement marked paid out) :
    marked.Evolves out.chain ∧
      (out.chain.account a.schedule.address).loadRecord = .ok settlement.schedule := by
  obtain ⟨-, hmarked⟩ := h.evolves_marked
  obtain ⟨_, _, hpays⟩ := exists_pays_payOut h.payOut
  have hspares := hpays.spares
  have hpaid := hspares.loadRecord hmarked
  have hcontinues := Claim.continues_of_settle h.settled
  have hturns := turns_of_storeSchedule hpaid hcontinues h.stored
  have hstored : paid.Evolves out.chain := .of_schedule hturns hcontinues (.of_storeRecord h.stored)
  exact ⟨(Chain.Evolves.of_spares hspares).trans hstored, hturns.stored⟩

end Redeem

theorem Writes.evolves {d : Chain} {i : Instruction} (h : Writes c call d i) : c.Evolves d := by
  cases h with
  | opensVault _ _ _ _ _ _ _ _ _ creates => exact .of_spares creates.spares
  | publishes _ _ _ _ _ _ _ _ _ _ _ _ creates => exact .of_spares creates.spares
  | createsMarker _ _ _ _ _ _ _ _ _ _ creates => exact .of_spares creates.spares
  | changesVault _ _ _ _ _ turns elsewhere => exact .of_vault turns elsewhere
  | setsStatus isActive _ _ _ _ _ turns elsewhere =>
    exact .of_schedule turns (.of_setActive _ isActive) elsewhere
  | setsBit _ _ _ _ _ _ mark turns elsewhere => exact .of_schedule turns (.of_mark mark) elsewhere
  | redeemsMarker _ _ _ _ _ _ _ turns same elsewhere =>
    exact .of_marker_of_schedule turns same (.redeem _) (.refl _) elsewhere
  | withdraws _ _ elsewhere =>
    exact .of_spares (elsewhere.spares fun _ hmem => absurd hmem List.not_mem_nil)

theorem evolves_perform {instruction : Instruction}
    (h : perform c call instruction = .ok out) : c.Evolves out.chain :=
  (writes_perform h).evolves

/-! ## Calls -/

/-- A call that succeeds has performed its instruction. -/
theorem execute_eq_ok_iff {receipt : Receipt} :
    execute c call = .ok receipt ↔ call.program = Address.program ∧
      ∃ instruction outcome, Instruction.decode call.data = .ok instruction ∧
        perform c call instruction = .ok outcome ∧
        { chain := outcome.chain
          events := [outcome.event]
          logs := ["Instruction: " ++ instruction.kind.title, outcome.message] } = receipt := by
  simp only [execute, bind_eq_ok_iff, lift_entry_eq_ok_iff, ensure_eq_ok_iff, pure_eq_ok_iff,
    exists_const]
  refine and_congr_right fun _ => ?_
  constructor
  · rintro ⟨instruction, hdecode, outcome, hperform, rfl⟩
    exact ⟨instruction, outcome, hdecode, hperform, rfl⟩
  · rintro ⟨instruction, outcome, hdecode, hperform, rfl⟩
    exact ⟨instruction, hdecode, outcome, hperform, rfl⟩

theorem evolves_execute {receipt : Receipt} (h : execute c call = .ok receipt) :
    c.Evolves receipt.chain := by
  obtain ⟨-, instruction, outcome, -, hperform, rfl⟩ := execute_eq_ok_iff.1 h
  exact evolves_perform hperform

end Program

end Disbursement
