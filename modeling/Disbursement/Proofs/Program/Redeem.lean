import Disbursement.Proofs.Chain.Spares
import Disbursement.Proofs.Claim.Settle
import Disbursement.Proofs.Program.Steps
import Disbursement.Proofs.Redemption.Marker

/-!
# What a redemption uses up

The slot of a redemption is in one of two places, and the entitlement decides in which.

* By wallet or by single token it is a bit of the schedule: `Redeemed.by_bitmap`.
* By collection it is the flag of a marker, at the address derived from the schedule, the index and
  the key of the held token: `Redeemed.by_marker`.
-/

namespace Disbursement.Program

variable {c marked paid : Chain} {call : Call} {r : RedeemRequest} {a : RedeemAccounts}
  {marker : Option Marker} {settlement : Settlement} {out : Outcome}

/-- The marker that is found is the one at the address derived for the slot. -/
theorem loadRecord_of_findMarker {mint group address : Address} {slot : Marker}
    (he : r.entitlement = .collection mint group) (ha : a.marker = some address)
    (h : findMarker c a r = .ok (some slot)) :
    (c.account address).loadRecord = .ok slot ∧
      ∃ bump, (Identity.marker a.schedule.record.eventId r.index
        (a.schedule.record.markerKey mint)).find Address.program = some (address, bump) := by
  rw [findMarker, he, ha] at h
  simp only [Entitlement.token?, bind_eq_ok_iff, demand_eq_ok_iff, lift_refusal_eq_ok_iff,
    lift_entry_eq_ok_iff, verifyAddress, ensure_eq_ok_iff, exists_const, Prod.exists] at h
  obtain ⟨_, bump, hfind, rfl, found, hload, h⟩ := h
  cases found with
  | none => exact absurd (pure_eq_ok_iff.1 h) (by simp)
  | some loaded =>
    simp only [bind_eq_ok_iff, pure_eq_ok_iff] at h
    obtain ⟨-, -, h⟩ := h
    obtain rfl := Option.some.inj h
    exact ⟨Account.loadMarker_eq_some_iff.1 hload, bump, hfind⟩

namespace Redeemed

/-- Only an entitlement of the kind of the schedule redeems from it. -/
theorem kind_eq (h : Redeemed c call r a marker settlement marked paid out) :
    a.schedule.record.kind = r.entitlement.kind :=
  (Claim.settle_eq_ok_iff.1 h.settled).2.1

/-- A bit of the schedule was free and is set; no marker is touched. -/
theorem by_bitmap (h : Redeemed c call r a marker settlement marked paid out)
    (hmode : r.entitlement.kind.trackingMode = .bitmap) :
    ∃ bits, a.schedule.record.redemptions.mark r.index = .ok bits ∧
      settlement.schedule = { a.schedule.record with redemptions := bits } ∧ marked = c := by
  have hkind : a.schedule.record.kind.trackingMode = .bitmap := by rw [h.kind_eq, hmode]
  obtain ⟨bits, hmark, hsettlement⟩ := Claim.settle_bitmap h.settled hkind
  have hmarker : a.marker = none := by
    have hsome := h.taken.marker
    rw [usesMarker, hmode] at hsome
    exact Option.not_isSome_iff_eq_none.1 (by rw [hsome]; decide)
  refine ⟨bits, hmark, by rw [hsettlement], ?_⟩
  have hstore := h.storeMarker
  unfold Program.storeMarker at hstore
  rw [hmarker] at hstore
  exact (Except.ok.inj hstore).symm

/-- The marker of the slot was free and is redeemed; the schedule stays as it is. -/
theorem by_marker (h : Redeemed c call r a marker settlement marked paid out)
    (hmode : r.entitlement.kind.trackingMode = .marker) :
    ∃ mint group address bump, ∃ slot used : Marker, r.entitlement = .collection mint group ∧
      (Identity.marker a.schedule.record.eventId r.index
        (a.schedule.record.markerKey mint)).find Address.program = some (address, bump) ∧
      (c.account address).loadRecord = .ok slot ∧ slot.mark r.index = .ok used ∧
      c.storeRecord address used = .ok marked ∧ settlement.schedule = a.schedule.record := by
  have hkind : a.schedule.record.kind.trackingMode = .marker := by rw [h.kind_eq, hmode]
  obtain ⟨slot, used, hslot, hmark, hsettlement⟩ := Claim.settle_marker h.settled hkind
  obtain ⟨mint, group, he⟩ := Entitlement.exists_eq_collection hmode
  obtain ⟨address, haddress⟩ : ∃ address, a.marker = some address := by
    have hsome := h.taken.marker
    rw [usesMarker, hmode] at hsome
    exact Option.isSome_iff_exists.1 (hsome.trans (by decide))
  have hfound := h.found
  rw [hslot] at hfound
  obtain ⟨hload, bump, hfind⟩ := loadRecord_of_findMarker he haddress hfound
  have hstore := h.storeMarker
  unfold Program.storeMarker at hstore
  rw [haddress, hsettlement] at hstore
  exact ⟨mint, group, address, bump, slot, used, he, hfind, hload, hmark, hstore,
    by rw [hsettlement]⟩

end Redeemed

end Disbursement.Program
