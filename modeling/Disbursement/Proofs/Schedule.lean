import Disbursement.Proofs.Redemption.Bits
import Disbursement.Schedule.Basic

/-!
# Well-formed schedules

A schedule commits at least one leaf and has exactly the bits for the leaves it remembers itself,
none of them behind its last leaf (`Schedule.Formed`). A new schedule is of this form
(`Schedule.formed_of_create`), and marking a leaf or changing the activity keeps it so.
-/

namespace Disbursement.Schedule

variable {s : Schedule} {vault : Address} {bump : UInt8} {now : Int64} {kind : ScheduleKind}
  {terms : ScheduleTerms} {index : UInt16} {bits : RedemptionBitmap}

/-- The number of leaves that a schedule of this kind remembers itself. -/
def trackedLeavesOf (kind : ScheduleKind) (userCount : UInt16) : UInt16 :=
  match kind.trackingMode with
  | .bitmap => userCount
  | .marker => 0

theorem create_eq_ok_iff :
    create vault bump now kind terms = .ok s ↔ 0 < terms.userCount ∧
      { bump, vault, kind
        eventId := terms.eventId
        createdAt := now
        unlock := terms.unlock
        root := terms.root
        scope := terms.scope
        receivingMint := terms.receivingMint
        receivingAccount := terms.receivingAccount
        sendingMint := terms.sendingMint
        sendingAccount := terms.sendingAccount
        isActive := true
        userCount := terms.userCount
        redemptions := .empty (trackedLeavesOf kind terms.userCount) } = s := by
  simp only [create, bind_eq_ok_iff, ensure_eq_ok_iff, exists_const, pure_eq_ok_iff]
  exact Iff.rfl

/-- The room reserved for a wire value is that of the kind it stands for. -/
theorem trackedLeaves_of_ofByte {value : UInt8} (h : ScheduleKind.ofByte value = .ok kind)
    (userCount : UInt16) : trackedLeaves value userCount = trackedLeavesOf kind userCount := by
  have hmode : (ScheduleKind.ofByte value).map ScheduleKind.trackingMode =
      .ok kind.trackingMode :=
    map_eq_ok_iff.2 ⟨kind, h, rfl⟩
  rw [trackedLeaves, hmode, trackedLeavesOf]
  cases kind.trackingMode with
  | bitmap => rfl
  | marker => rfl

/-- A new schedule has bits for as many leaves as its account was made for. -/
theorem redemptions_of_create {value : UInt8} (hvalue : ScheduleKind.ofByte value = .ok kind)
    (h : create vault bump now kind terms = .ok s) :
    s.redemptions = .empty (trackedLeaves value terms.userCount) := by
  rw [trackedLeaves_of_ofByte hvalue]
  obtain ⟨-, rfl⟩ := create_eq_ok_iff.1 h
  rfl

/-- The bytes of the bitmap: enough for all leaves, or none where markers remember them. -/
theorem byteLength_trackedLeavesOf (kind : ScheduleKind) (userCount : UInt16) :
    RedemptionBitmap.byteLength (trackedLeavesOf kind userCount) =
      if kind = .collection then 0 else RedemptionBitmap.byteLength userCount := by
  cases kind with
  | collection =>
    rw [if_pos rfl]
    show RedemptionBitmap.byteLength 0 = 0
    decide
  | distribution | multi | nft => rfl

/-- What holds of every schedule of the program. -/
structure Formed (s : Schedule) : Prop where
  committed : 0 < s.userCount
  size_eq : s.redemptions.size =
    if s.kind = .collection then 0 else RedemptionBitmap.byteLength s.userCount
  confined : s.redemptions.Confined s.userCount.toNat

theorem formed_of_create (h : create vault bump now kind terms = .ok s) : s.Formed := by
  obtain ⟨hpositive, rfl⟩ := create_eq_ok_iff.1 h
  exact
    { committed := hpositive
      size_eq := (RedemptionBitmap.size_empty _).trans (byteLength_trackedLeavesOf _ _)
      confined := RedemptionBitmap.confined_empty _ _ }

/-- A new bitmap is short enough to be written. -/
theorem size_lt_of_create (h : create vault bump now kind terms = .ok s) :
    s.redemptions.size < 2 ^ 32 := by
  have hbound := (trackedLeavesOf s.kind s.userCount).toNat_lt
  rw [(formed_of_create h).size_eq, ← byteLength_trackedLeavesOf, RedemptionBitmap.byteLength]
  omega

namespace Formed

variable (h : s.Formed)
include h

theorem of_setActive (isActive : Bool) : Formed { s with isActive } where
  committed := h.committed
  size_eq := h.size_eq
  confined := h.confined

theorem of_mark (hmark : s.redemptions.mark index = .ok bits) (hindex : index < s.userCount) :
    Formed { s with redemptions := bits } where
  committed := h.committed
  size_eq := (RedemptionBitmap.size_mark hmark).trans h.size_eq
  confined := h.confined.mark hmark (UInt16.lt_iff_toNat_lt.1 hindex)

end Formed

end Disbursement.Schedule
