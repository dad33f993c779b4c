import Disbursement.Proofs.Check
import Disbursement.Proofs.Claim.Order
import Disbursement.Proofs.Claim.Payout
import Disbursement.Proofs.InPlace
import Disbursement.Proofs.Redemption.Marker

/-!
# The verdict on a claim

A claim is accepted exactly if its conditions hold (`Claim.conditions`), and refused for the first
of them that fails. Seven concern the claim itself, the others its slot, whose conditions depend on
where redemption is remembered (`Claim.slotConditions`).

`Claim.settleInPlace` writes the schedule and the marker where they stand, so that a refusal could
leave something behind. `Claim.start_settleInPlace` says that it does not: every condition is tested
before the slot is written. What an accepted claim changes is one bit or one flag (`UsesOneSlot`),
and `Payout.Owes` is what it is owed.
-/

namespace Disbursement

/-! ## Slots -/

theorem RedemptionBitmap.decides_mark (b : RedemptionBitmap) (i : UInt16) : Decides (b.mark i)
    [⟨i.toNat < 8 * b.size, .indexOutOfRange⟩, ⟨b.bitAt i.toNat = false, .alreadyRedeemed⟩] := by
  unfold mark byteAt
  refine (decides_demand exists_byte_iff _).bind fun byte hbyte => ?_
  have hget := demand_eq_ok_iff.1 hbyte
  refine (decides_ensure ?_ _).bind fun _ _ => decides_pure _
  rw [and_mask_eq_zero_iff, bitAt_eq_of_getElem? hget]

theorem Marker.decides_mark (m : Marker) (i : UInt16) : Decides (m.mark i)
    [⟨m.index = i, .invalidAccount⟩, ⟨m.isRedeemed = false, .alreadyRedeemed⟩] := by
  unfold mark
  refine (decides_ensure .rfl _).bind fun _ _ => ?_
  exact (decides_ensure .rfl _).bind fun _ _ => decides_pure _

namespace Claim

variable {s : Schedule} {marker : Option Marker} {claim : Claim} {now : Int64}

/-- The conditions on the slot of an index: the bitmap has its bit, and it is not set; for a
collection the marker is given and is that of the index, and it is not redeemed. -/
def slotConditions (s : Schedule) (marker : Option Marker) (index : UInt16) :
    List (Condition Refusal) :=
  if s.kind = .collection then
    [⟨∃ m, marker = some m, .indexNotInitialized⟩,
      ⟨∀ m, marker = some m → m.index = index, .invalidAccount⟩,
      ⟨∀ m, marker = some m → m.isRedeemed = false, .alreadyRedeemed⟩]
  else
    [⟨index.toNat < 8 * s.redemptions.size, .indexOutOfRange⟩,
      ⟨s.redemptions.bitAt index.toNat = false, .alreadyRedeemed⟩]

/-- The conditions of a claim apart from its slot, in the order in which they decide. -/
def claimConditions (s : Schedule) (claim : Claim) (now : Int64) : List (Condition Refusal) :=
  [⟨s.isActive = true, .scheduleInactive⟩,
    ⟨s.kind = claim.kind, .wrongScheduleType⟩,
    ⟨claim.allocation.index < s.userCount, .indexOutOfRange⟩,
    ⟨claim.proof.length ≤ 32, .invalidProofLength⟩,
    ⟨Schedule.Unlocked s.leafEncoding s.unlock claim.allocation.timestamp now, .scheduleLocked⟩,
    ⟨claim.allocation.Fits s.leafEncoding, .leafMismatch⟩,
    ⟨∃ leaf, claim.allocation.leafHash s.leafEncoding = .ok leaf ∧
      Merkle.computeRoot leaf claim.proof = s.root, .invalidProof⟩]

/-- All conditions of a claim; its slot comes last. -/
def conditions (s : Schedule) (marker : Option Marker) (claim : Claim) (now : Int64) :
    List (Condition Refusal) :=
  claimConditions s claim now ++ slotConditions s marker claim.allocation.index

/-- Behind the check of its length, a proof is refused only for where it leads. -/
theorem verify_of_length_le {root leaf : Digest} {proof : List ProofNode}
    (hshort : proof.length ≤ Merkle.maxProofLength) : Merkle.verify root leaf proof =
      ensure (Merkle.digestsEqual (Merkle.computeRoot leaf proof) root = true) .invalidProof := by
  rw [Merkle.verify, ensure, if_pos hshort]
  rfl

theorem decides_check (s : Schedule) (claim : Claim) (now : Int64) :
    Decides (check s claim now) (claimConditions s claim now) := by
  unfold check Schedule.requireActive Schedule.requireKind Schedule.requireIndex
    Schedule.requireUnlocked
  refine (decides_ensure .rfl _).bind fun _ _ => ?_
  refine (decides_ensure .rfl _).bind fun _ _ => ?_
  refine (decides_ensure .rfl _).bind fun _ _ => ?_
  refine (decides_ensure .rfl _).bind fun _ hshort => ?_
  refine (decides_ensure Schedule.unlockTime_le_iff _).bind fun _ _ => ?_
  refine (claim.allocation.decides_leafHash s.leafEncoding).bind fun leaf hleaf => ?_
  rw [verify_of_length_le (ensure_eq_ok_iff.1 hshort)]
  -- the proof leads there from the one leaf that the allocation has
  refine decides_ensure ?_ _
  rw [Merkle.digestsEqual_eq_true_iff]
  constructor
  · intro hroot
    exact ⟨leaf, hleaf, hroot⟩
  · rintro ⟨leaf', hleaf', hroot⟩
    obtain rfl : leaf = leaf' := Except.ok.inj (hleaf.symm.trans hleaf')
    exact hroot

theorem decides_useSlot (s : Schedule) (marker : Option Marker) (claim : Claim) :
    Decides (useSlot s marker claim) (slotConditions s marker claim.allocation.index) := by
  unfold useSlot slotConditions
  by_cases hkind : s.kind = .collection
  · have htracker : tracker s marker = (demand marker Refusal.indexNotInitialized).map .marker := by
      rw [tracker, hkind]
      rfl
    rw [if_pos hkind, htracker]
    refine ((decides_demand .rfl _).map _).bind fun slots hslots => ?_
    cases marker with
    | none => cases hslots
    | some m =>
      obtain rfl : Tracker.marker m = slots := Except.ok.inj hslots
      simp only [Option.some.injEq, forall_eq']
      exact ((m.decides_mark _).map _).bind fun _ _ => decides_pure _
  · have htracker : tracker s marker = pure (.bitmap s.redemptions) := by
      unfold tracker
      cases hs : s.kind with
      | collection => exact absurd hs hkind
      | distribution | multi | nft => rfl
    rw [if_neg hkind, htracker]
    refine (decides_pure _).bind fun slots hslots => ?_
    obtain rfl := pure_eq_ok_iff.1 hslots
    exact ((s.redemptions.decides_mark _).map _).bind fun _ _ => decides_pure _

theorem decides_settle (s : Schedule) (marker : Option Marker) (claim : Claim) (now : Int64) :
    Decides (claim.settle s marker now) (conditions s marker claim now) := by
  rw [settle_eq_check_bind]
  exact (decides_check s claim now).bind fun _ _ => decides_useSlot s marker claim

/-! ## Claims in place -/

/-- A computation that writes a schedule and a marker. -/
abbrev SlotInPlace (α : Type) := InPlace (Schedule × Option Marker) Refusal α

/-- Set the bit of an index in the schedule. -/
def markBitInPlace (index : UInt16) : SlotInPlace Unit := do
  let byte ← (← get).1.redemptions.byteAt index
  ensure (byte &&& RedemptionBitmap.mask index = 0) Refusal.alreadyRedeemed
  modify fun (s, marker) =>
    let bytes := s.redemptions.bytes.set (RedemptionBitmap.byteIndex index)
      (byte ||| RedemptionBitmap.mask index)
    ({ s with redemptions := ⟨bytes⟩ }, marker)

/-- Set the flag of the marker. -/
def markMarkerInPlace (index : UInt16) : SlotInPlace Unit := do
  let m ← demand (← get).2 Refusal.indexNotInitialized
  ensure (m.index = index) Refusal.invalidAccount
  ensure (m.isRedeemed = false) Refusal.alreadyRedeemed
  modify fun (s, _) => (s, some { m with isRedeemed := true })

/-- Use up the slot of an index where it is. -/
def markInPlace (index : UInt16) : SlotInPlace Unit := do
  match (← get).1.kind.trackingMode with
  | .bitmap => markBitInPlace index
  | .marker => markMarkerInPlace index

/-- Accept a claim and use up its slot where it is, or refuse it. -/
def settleInPlace (claim : Claim) (now : Int64) : SlotInPlace Payout := do
  let (s, _) ← get
  check s claim now
  markInPlace claim.allocation.index
  return .ofAllocation s claim.allocation

theorem atomic_markBitInPlace (s : Schedule) (marker : Option Marker) (index : UInt16) :
    (markBitInPlace index).Atomic (s, marker) (do
      let bits ← s.redemptions.mark index
      return ((), { s with redemptions := bits }, marker)) := by
  simp only [RedemptionBitmap.mark, bind_assoc]
  show InPlace.Atomic (liftM (s.redemptions.byteAt index) >>= _) _ _
  refine .check fun byte => ?_
  refine .check fun _ => ?_
  rfl

theorem atomic_markMarkerInPlace (s : Schedule) (marker : Option Marker) (index : UInt16) :
    (markMarkerInPlace index).Atomic (s, marker) (do
      let m ← demand marker .indexNotInitialized
      let used ← m.mark index
      return ((), s, some used)) := by
  simp only [Marker.mark, bind_assoc]
  show InPlace.Atomic (liftM (demand marker Refusal.indexNotInitialized) >>= _) _ _
  refine .check fun m => ?_
  refine .check fun _ => ?_
  refine .check fun _ => ?_
  rfl

theorem atomic_markInPlace (s : Schedule) (marker : Option Marker) (index : UInt16) :
    (markInPlace index).Atomic (s, marker) (do
      let slots ← tracker s marker
      let used ← slots.mark index
      return ((), withTracker s marker used)) := by
  -- in place as in the tracker, the mode says where the slot is
  show (match s.kind.trackingMode with
    | .bitmap => markBitInPlace index
    | .marker => markMarkerInPlace index).Atomic (s, marker) _
  unfold tracker
  cases s.kind.trackingMode with
  | bitmap =>
    have hcomputed : (do
        let bits ← s.redemptions.mark index
        return ((), { s with redemptions := bits }, marker)) = (do
        let used ← (s.redemptions.mark index).map Tracker.bitmap
        return ((), withTracker s marker used)) := by
      cases s.redemptions.mark index <;> rfl
    have hplace := atomic_markBitInPlace s marker index
    rw [hcomputed] at hplace
    exact hplace
  | marker =>
    have hcomputed : (do
        let m ← demand marker Refusal.indexNotInitialized
        let used ← m.mark index
        return ((), s, some used)) = (do
        let slots ← (demand marker Refusal.indexNotInitialized).map Tracker.marker
        let used ← slots.mark index
        return ((), withTracker s marker used)) := by
      cases marker with
      | none => rfl
      | some m =>
        show (m.mark index >>= _) = ((m.mark index).map Tracker.marker >>= _)
        cases m.mark index <;> rfl
    have hplace := atomic_markMarkerInPlace s marker index
    rw [hcomputed] at hplace
    exact hplace

theorem map_useSlot (s : Schedule) (marker : Option Marker) (claim : Claim) :
    (useSlot s marker claim).map (fun out => (out.payout, out.schedule, out.marker)) =
      Except.map (fun (_, left) => (Payout.ofAllocation s claim.allocation, left)) (do
        let slots ← tracker s marker
        let used ← slots.mark claim.allocation.index
        return ((), withTracker s marker used)) := by
  unfold useSlot
  cases tracker s marker with
  | error refusal => rfl
  | ok slots =>
    show Except.map _ (slots.mark _ >>= _) = Except.map _ (slots.mark _ >>= _)
    cases slots.mark claim.allocation.index <;> rfl

/-- A claim in place leaves what `Claim.settle` computes, and a refusal leaves the schedule and the
marker as they were. -/
theorem atomic_settleInPlace (s : Schedule) (marker : Option Marker) (claim : Claim) (now : Int64) :
    (claim.settleInPlace now).Atomic (s, marker)
      ((claim.settle s marker now).map fun out => (out.payout, out.schedule, out.marker)) := by
  have hmap : (claim.settle s marker now).map (fun out => (out.payout, out.schedule, out.marker)) =
      check s claim now >>= fun _ =>
        (useSlot s marker claim).map fun out => (out.payout, out.schedule, out.marker) := by
    rw [settle_eq_check_bind]
    cases check s claim now <;> rfl
  rw [hmap]
  show InPlace.Atomic (liftM (check s claim now) >>= _) _ _
  refine .check fun _ => ?_
  rw [map_useSlot]
  exact (atomic_markInPlace s marker claim.allocation.index).map _

/-! ## What an accepted claim changes -/

/-- One bit of the schedule or the flag of the marker was clear and is set; nothing else changes. -/
inductive UsesOneSlot (s : Schedule) (marker : Option Marker) (index : UInt16) :
    Schedule → Option Marker → Prop where
  | bit (bits : RedemptionBitmap) (kind : s.kind ≠ .collection)
      (size_eq : bits.size = s.redemptions.size)
      (clear : s.redemptions.bitAt index.toNat = false)
      (bitAt : ∀ position, bits.bitAt position =
        (s.redemptions.bitAt position || decide (index.toNat = position))) :
      UsesOneSlot s marker index { s with redemptions := bits } marker
  | flag (m : Marker) (kind : s.kind = .collection) (given : marker = some m)
      (clear : m.isRedeemed = false) :
      UsesOneSlot s marker index s (some { m with isRedeemed := true })

theorem trackingMode_of_ne_collection {kind : ScheduleKind} (h : kind ≠ .collection) :
    kind.trackingMode = .bitmap := by
  cases kind with
  | collection => exact absurd rfl h
  | distribution | multi | nft => rfl

theorem usesOneSlot_of_settle {out : Settlement} (h : claim.settle s marker now = .ok out) :
    UsesOneSlot s marker claim.allocation.index out.schedule out.marker := by
  by_cases hkind : s.kind = .collection
  · have hmode : s.kind.trackingMode = .marker := by rw [hkind]; rfl
    obtain ⟨m, used, hgiven, hmark, rfl⟩ := settle_marker h hmode
    obtain ⟨-, hclear, rfl⟩ := Marker.mark_eq_ok_iff.1 hmark
    exact .flag m hkind hgiven hclear
  · obtain ⟨bits, hmark, rfl⟩ := settle_bitmap h (trackingMode_of_ne_collection hkind)
    obtain ⟨-, hclear⟩ := RedemptionBitmap.exists_mark_iff.1 ⟨bits, hmark⟩
    exact .bit bits hkind (RedemptionBitmap.size_mark hmark) hclear
      (RedemptionBitmap.bitAt_mark hmark)

/-! ## The result -/

/-- A claim is accepted if and only if all its conditions hold, and refused for the first of them
that fails. A claim that writes in place leaves the schedule and the marker as they were when it is
refused, and when it is accepted it leaves what is computed for it: one bit of the schedule is set,
or the flag of the marker, and nothing else changes. It is then owed the amount of the leaf in the
mint of the leaf or else of the schedule, and owes the sending amount of the leaf in the sending
mint of the schedule if there is one. -/
theorem verdict_is_exact (s : Schedule) (marker : Option Marker) (claim : Claim) (now : Int64) :
    ((∃ out, claim.settle s marker now = .ok out) ↔
      ∀ c ∈ conditions s marker claim now, c.holds) ∧
    (∀ refusal, claim.settle s marker now = .error refusal ↔
      FirstFailing refusal (conditions s marker claim now)) ∧
    (∀ refusal, claim.settle s marker now = .error refusal →
      (claim.settleInPlace now).start (s, marker) = (.error refusal, s, marker)) ∧
    ∀ out, claim.settle s marker now = .ok out →
      (claim.settleInPlace now).start (s, marker) = (.ok out.payout, out.schedule, out.marker) ∧
      UsesOneSlot s marker claim.allocation.index out.schedule out.marker ∧
      out.payout.Owes s claim.allocation := by
  have hdecides := decides_settle s marker claim now
  have hplace := atomic_settleInPlace s marker claim now
  unfold InPlace.Atomic at hplace
  refine ⟨hdecides.ok_iff, hdecides.error_iff, ?_, ?_⟩
  · intro refusal hrefused
    rw [hplace, hrefused]
    rfl
  · intro out haccepted
    refine ⟨?_, usesOneSlot_of_settle haccepted, ?_⟩
    · rw [hplace, haccepted]
      rfl
    · exact Payout.owes_iff.2 (payout_of_settle haccepted)

/-! ## Two wallets -/

open Schedule (secondClaim twoWalletSchedule settle_secondClaim)

/-- On a closed schedule a claim that is also too early is refused as on any closed one; on the open
one it is paid when it unlocks. -/
theorem verdict_on_second_claim :
    (secondClaim.settleInPlace 5).start ({ twoWalletSchedule with isActive := false }, none) =
      (.error .scheduleInactive, { twoWalletSchedule with isActive := false }, none) ∧
    FirstFailing .scheduleLocked (conditions twoWalletSchedule none secondClaim 5) ∧
    (secondClaim.settleInPlace 20).start (twoWalletSchedule, none) =
      (.ok (.ofAllocation twoWalletSchedule MerkleTree.secondWallet),
        { twoWalletSchedule with redemptions := ⟨[2]⟩ }, none) := by
  refine ⟨?_, ?_, ?_⟩
  · obtain ⟨-, -, hrefused, -⟩ :=
      verdict_is_exact { twoWalletSchedule with isActive := false } none secondClaim 5
    exact hrefused .scheduleInactive rfl
  · obtain ⟨-, hfirst, -, -⟩ := verdict_is_exact twoWalletSchedule none secondClaim 5
    exact (hfirst .scheduleLocked).1 rfl
  · obtain ⟨-, -, -, haccepted⟩ := verdict_is_exact twoWalletSchedule none secondClaim 20
    exact (haccepted _ settle_secondClaim).1

end Claim

end Disbursement
