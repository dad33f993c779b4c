import Disbursement.Proofs.Claim.Settle

/-!
# Runs of a schedule

A schedule lives through a sequence of moves: claims are presented, good ones and bad ones, and in
between it is opened and closed. A refused claim changes nothing.

* `Schedule.afterMove` is one step and `Schedule.afterMoves` a whole run; `Schedule.accepted` lists
  the claims that were accepted on the way, each with what is owed for it.
* `continues_afterMoves`: at every moment of a run it is still the schedule it was at the start.
* `exists_settle_of_mem_accepted`: each accepted claim was settled at some moment of the run.
* `pairwise_index_accepted`: where a bitmap remembers redemption, no index is accepted twice. The
  bit that the first claim sets is never cleared, and a claim that finds it set is refused.
-/

namespace Disbursement

/-! ## Moves -/

/-- What can happen to a schedule. -/
inductive ScheduleMove where
  /-- Somebody presents a claim. -/
  | claim (claim : Claim) (marker : Option Marker) (now : Int64)
  /-- It is opened or closed. -/
  | setActive (isActive : Bool)

/-- A claim that was accepted, and what is owed for it. -/
structure AcceptedClaim where
  claim : Claim
  payout : Payout

/-- The leaf that the claim used up. -/
def AcceptedClaim.index (x : AcceptedClaim) : UInt16 :=
  x.claim.allocation.index

namespace Schedule

/-- The schedule after a move. -/
def afterMove (s : Schedule) : ScheduleMove → Schedule
  | .claim claim marker now =>
    match claim.settle s marker now with
    | .ok settlement => settlement.schedule
    | .error _ => s
  | .setActive isActive => { s with isActive }

/-- The claim that a move gets accepted, if it does. -/
def acceptedBy? (s : Schedule) : ScheduleMove → Option AcceptedClaim
  | .claim claim marker now =>
    match claim.settle s marker now with
    | .ok settlement => some { claim, payout := settlement.payout }
    | .error _ => none
  | .setActive _ => none

/-- The schedule after a run. -/
def afterMoves (s : Schedule) (moves : List ScheduleMove) : Schedule :=
  moves.foldl afterMove s

/-- The claims that a run gets accepted, in their order. -/
def accepted : Schedule → List ScheduleMove → List AcceptedClaim
  | _, [] => []
  | s, move :: moves => (s.acceptedBy? move).toList ++ (s.afterMove move).accepted moves

variable {s : Schedule} {move : ScheduleMove} {moves : List ScheduleMove} {x : AcceptedClaim}

/-! ## One move -/

theorem continues_afterMove (s : Schedule) (move : ScheduleMove) :
    s.Continues (s.afterMove move) := by
  cases move with
  | claim claim marker now =>
    rw [afterMove]
    cases hsettle : claim.settle s marker now with
    | error refusal => exact .refl s
    | ok settlement => exact Claim.continues_of_settle hsettle
  | setActive isActive => exact .of_setActive s isActive

/-- A claim that a move gets accepted was settled by it. -/
theorem exists_settle_of_acceptedBy? (h : s.acceptedBy? move = some x) :
    ∃ marker now settlement, x.claim.settle s marker now = .ok settlement ∧
      settlement.payout = x.payout ∧ s.afterMove move = settlement.schedule := by
  cases move with
  | claim claim marker now =>
    rw [acceptedBy?] at h
    rw [afterMove]
    cases hsettle : claim.settle s marker now with
    | error refusal =>
      rw [hsettle] at h
      exact absurd h (by simp)
    | ok settlement =>
      rw [hsettle] at h
      obtain rfl := Option.some.inj h
      exact ⟨marker, now, settlement, hsettle, rfl, rfl⟩
  | setActive isActive => exact absurd h (by simp [acceptedBy?])

/-- An accepted claim sets its bit. -/
theorem isRedeemed_of_acceptedBy? (h : s.acceptedBy? move = some x)
    (hmode : s.kind.trackingMode = .bitmap) :
    (s.afterMove move).redemptions.isRedeemed x.index = .ok true := by
  obtain ⟨marker, now, settlement, hsettle, -, hafter⟩ := exists_settle_of_acceptedBy? h
  obtain ⟨marked, hmark, rfl⟩ := Claim.settle_bitmap hsettle hmode
  rw [hafter]
  exact RedemptionBitmap.isRedeemed_mark hmark

/-! ## Whole runs -/

theorem continues_afterMoves (s : Schedule) (moves : List ScheduleMove) :
    s.Continues (s.afterMoves moves) := by
  induction moves generalizing s with
  | nil => exact .refl s
  | cons move moves ih => exact (continues_afterMove s move).trans (ih (s.afterMove move))

theorem exists_settle_of_mem_accepted (h : x ∈ s.accepted moves) :
    ∃ t marker now settlement, s.Continues t ∧ x.claim.settle t marker now = .ok settlement ∧
      settlement.payout = x.payout := by
  induction moves generalizing s with
  | nil => exact absurd h List.not_mem_nil
  | cons move moves ih =>
    rw [accepted] at h
    rcases List.mem_append.1 h with hnow | hlater
    · obtain ⟨marker, now, settlement, hsettle, hpayout, -⟩ :=
        exists_settle_of_acceptedBy? (Option.mem_toList.1 hnow)
      exact ⟨s, marker, now, settlement, .refl s, hsettle, hpayout⟩
    · obtain ⟨t, marker, now, settlement, hcontinues, hsettle, hpayout⟩ := ih hlater
      exact ⟨t, marker, now, settlement, (continues_afterMove s move).trans hcontinues, hsettle,
        hpayout⟩

theorem accepted_append_singleton (s : Schedule) (moves : List ScheduleMove) (move : ScheduleMove) :
    s.accepted (moves ++ [move]) =
      s.accepted moves ++ ((s.afterMoves moves).acceptedBy? move).toList := by
  induction moves generalizing s with
  | nil => simp [accepted, afterMoves]
  | cons first moves ih =>
    rw [List.cons_append, accepted, ih, accepted, List.append_assoc]
    rfl

/-- A bit that is set at the start of a run keeps its index out of what the run gets accepted. -/
theorem index_ne_of_isRedeemed {i : UInt16} (hmode : s.kind.trackingMode = .bitmap)
    (hset : s.redemptions.isRedeemed i = .ok true) (hx : x ∈ s.accepted moves) : i ≠ x.index := by
  rintro rfl
  obtain ⟨t, marker, now, settlement, hcontinues, hsettle, -⟩ := exists_settle_of_mem_accepted hx
  have hmode' : t.kind.trackingMode = .bitmap := by rw [hcontinues.kind_eq, hmode]
  obtain ⟨marked, hmark, -⟩ := Claim.settle_bitmap hsettle hmode'
  exact hcontinues.redemptions.not_mark hset hmark

/-- No index is accepted twice. -/
theorem pairwise_index_accepted (hmode : s.kind.trackingMode = .bitmap)
    (moves : List ScheduleMove) :
    (s.accepted moves).Pairwise fun x y => x.index ≠ y.index := by
  induction moves generalizing s with
  | nil => exact .nil
  | cons move moves ih =>
    have hnext : (s.afterMove move).kind.trackingMode = .bitmap := by
      rw [(continues_afterMove s move).kind_eq, hmode]
    rw [accepted]
    cases haccepted : s.acceptedBy? move with
    | none => exact ih hnext
    | some x =>
      have hset := isRedeemed_of_acceptedBy? haccepted hmode
      exact List.pairwise_cons.2 ⟨fun y hy => index_ne_of_isRedeemed hnext hset hy, ih hnext⟩

end Schedule

end Disbursement
