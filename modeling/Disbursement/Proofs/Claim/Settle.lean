import Disbursement.Claim
import Disbursement.Proofs.Redemption.Bitmap

/-!
# What an accepted claim says

`Claim.settle` is a chain of checks, so that it accepts says that each of them holds
(`settle_eq_ok_iff`). Where the slot is remembered depends on the kind of the schedule, and one
lemma for each way names what changes: `settle_bitmap` a bit of the schedule, `settle_marker` the
marker.

Either way the schedule remains the same schedule. `Schedule.Continues` is what may become of it:
activity may change, bits may be set, and nothing else (`continues_of_settle`).
-/

namespace Disbursement

/-! ## What may become of a schedule -/

/-- The one schedule is the other at a later time. -/
structure Schedule.Continues (earlier later : Schedule) : Prop where
  eq_with : later =
    { earlier with isActive := later.isActive, redemptions := later.redemptions }
  redemptions : earlier.redemptions.Extends later.redemptions

namespace Schedule.Continues

variable {s t u : Schedule}

theorem refl (s : Schedule) : Continues s s where
  eq_with := rfl
  redemptions := .refl _

theorem trans (h : Continues s t) (h' : Continues t u) : Continues s u where
  eq_with := by
    rw [h'.eq_with, h.eq_with]
  redemptions := h.redemptions.trans h'.redemptions

theorem of_setActive (s : Schedule) (isActive : Bool) : Continues s { s with isActive } where
  eq_with := rfl
  redemptions := .refl _

theorem of_mark {marked : RedemptionBitmap} {i : UInt16} (h : s.redemptions.mark i = .ok marked) :
    Continues s { s with redemptions := marked } where
  eq_with := rfl
  redemptions := .of_mark h

theorem kind_eq (h : Continues s t) : t.kind = s.kind := by
  rw [h.eq_with]

theorem scope_eq (h : Continues s t) : t.scope = s.scope := by
  rw [h.eq_with]

theorem root_eq (h : Continues s t) : t.root = s.root := by
  rw [h.eq_with]

theorem eventId_eq (h : Continues s t) : t.eventId = s.eventId := by
  rw [h.eq_with]

theorem leafEncoding_eq (h : Continues s t) : t.leafEncoding = s.leafEncoding := by
  rw [h.eq_with]
  rfl

theorem markerKey_eq (h : Continues s t) (mint : Address) :
    t.markerKey mint = s.markerKey mint := by
  rw [h.eq_with]
  rfl

/-- What an allocation is owed does not change. -/
theorem ofAllocation_eq (h : Continues s t) (a : Allocation) :
    Payout.ofAllocation t a = Payout.ofAllocation s a := by
  rw [h.eq_with]
  rfl

end Schedule.Continues

/-! ## Acceptance -/

namespace Claim

variable {s : Schedule} {marker : Option Marker} {claim : Claim} {now : Int64} {out : Settlement}

theorem settle_eq_ok_iff :
    claim.settle s marker now = .ok out ↔
      s.isActive = true ∧ s.kind = claim.kind ∧ claim.allocation.index < s.userCount ∧
        claim.proof.length ≤ Merkle.maxProofLength ∧
        s.unlockTime claim.allocation.timestamp ≤ now ∧
        ∃ leaf, claim.allocation.leafHash s.leafEncoding = .ok leaf ∧
          Merkle.verify s.root leaf claim.proof = .ok () ∧
          ∃ slots used, tracker s marker = .ok slots ∧
            slots.mark claim.allocation.index = .ok used ∧
            out = { payout := .ofAllocation s claim.allocation
                    schedule := (withTracker s marker used).1
                    marker := (withTracker s marker used).2 } := by
  simp only [settle, Schedule.requireActive, Schedule.requireKind, Schedule.requireIndex,
    Schedule.requireUnlocked, bind_eq_ok_iff, ensure_eq_ok_iff, exists_const, pure, Except.pure,
    Except.ok.injEq]
  constructor
  · rintro ⟨hactive, hkind, hindex, hlength, hunlocked, leaf, hleaf, ⟨⟩, hverify, slots, hslots,
      used, hused, rfl⟩
    exact ⟨hactive, hkind, hindex, hlength, hunlocked, leaf, hleaf, hverify, slots, used, hslots,
      hused, rfl⟩
  · rintro ⟨hactive, hkind, hindex, hlength, hunlocked, leaf, hleaf, hverify, slots, used, hslots,
      hused, rfl⟩
    exact ⟨hactive, hkind, hindex, hlength, hunlocked, leaf, hleaf, (), hverify, slots, hslots,
      used, hused, rfl⟩

/-- On a schedule with a bitmap, the bit of the index is set. -/
theorem settle_bitmap (h : claim.settle s marker now = .ok out)
    (hmode : s.kind.trackingMode = .bitmap) :
    ∃ marked, s.redemptions.mark claim.allocation.index = .ok marked ∧
      out = { payout := .ofAllocation s claim.allocation
              schedule := { s with redemptions := marked }
              marker } := by
  obtain ⟨-, -, -, -, -, leaf, -, -, slots, used, hslots, hused, rfl⟩ := settle_eq_ok_iff.1 h
  rw [tracker, hmode] at hslots
  obtain rfl := Except.ok.inj hslots
  obtain ⟨marked, hmark, rfl⟩ := map_eq_ok_iff.1 hused
  exact ⟨marked, hmark, rfl⟩

/-- On a schedule with markers there is a marker, and it is marked. -/
theorem settle_marker (h : claim.settle s marker now = .ok out)
    (hmode : s.kind.trackingMode = .marker) :
    ∃ slot marked, marker = some slot ∧ slot.mark claim.allocation.index = .ok marked ∧
      out = { payout := .ofAllocation s claim.allocation
              schedule := s
              marker := some marked } := by
  obtain ⟨-, -, -, -, -, leaf, -, -, slots, used, hslots, hused, rfl⟩ := settle_eq_ok_iff.1 h
  rw [tracker, hmode] at hslots
  obtain ⟨slot, hslot, rfl⟩ := map_eq_ok_iff.1 hslots
  obtain ⟨marked, hmark, rfl⟩ := map_eq_ok_iff.1 hused
  exact ⟨slot, marked, demand_eq_ok_iff.1 hslot, hmark, rfl⟩

theorem payout_of_settle (h : claim.settle s marker now = .ok out) :
    out.payout = .ofAllocation s claim.allocation := by
  obtain ⟨-, -, -, -, -, leaf, -, -, slots, used, -, -, rfl⟩ := settle_eq_ok_iff.1 h
  rfl

/-- What has to hold of a claim, its slot apart. -/
structure Passes (s : Schedule) (claim : Claim) (now : Int64) : Prop where
  active : s.isActive = true
  kind : s.kind = claim.kind
  index : claim.allocation.index < s.userCount
  proofLength : claim.proof.length ≤ Merkle.maxProofLength
  unlocked : s.unlockTime claim.allocation.timestamp ≤ now
  committed : ∃ leaf, claim.allocation.leafHash s.leafEncoding = .ok leaf ∧
    Merkle.verify s.root leaf claim.proof = .ok ()

/-- Where a bitmap remembers redemption, the bitmap decides on a claim that passes the checks. -/
theorem settle_of_passes (h : claim.Passes s now) (hmode : s.kind.trackingMode = .bitmap) :
    claim.settle s marker now = (s.redemptions.mark claim.allocation.index).map fun marked =>
      { payout := .ofAllocation s claim.allocation
        schedule := { s with redemptions := marked }
        marker } := by
  obtain ⟨leaf, hleaf, hverify⟩ := h.committed
  have hslots : tracker s marker = .ok (.bitmap s.redemptions) := by rw [tracker, hmode]
  simp only [settle, Schedule.requireActive, Schedule.requireKind, Schedule.requireIndex,
    Schedule.requireUnlocked, ensure, if_pos h.active, if_pos h.kind, if_pos h.index,
    if_pos h.proofLength, if_pos h.unlocked, hleaf, hverify, hslots, Tracker.mark, bind,
    Except.bind]
  cases s.redemptions.mark claim.allocation.index with
  | error refusal => rfl
  | ok marked => rfl

/-- An accepted claim leaves the same schedule behind. -/
theorem continues_of_settle (h : claim.settle s marker now = .ok out) :
    s.Continues out.schedule := by
  cases hmode : s.kind.trackingMode with
  | bitmap =>
    obtain ⟨marked, hmark, rfl⟩ := settle_bitmap h hmode
    exact .of_mark hmark
  | marker =>
    obtain ⟨slot, marked, -, -, rfl⟩ := settle_marker h hmode
    exact .refl s

end Claim

end Disbursement
