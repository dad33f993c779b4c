import Disbursement.Proofs.Claim.Submission

/-!
# The order of claims does not matter

Where a bitmap remembers redemption, claims that are presented one after another, good ones and bad
ones, lead to the same schedule in every order, and as many of them are paid
(`claims_in_any_order`).

* `Claim.check` is what `Claim.settle` looks at before the slot. It does not read the bitmap, so no
  claim can change what it says of another one.
* `Schedule.Admits` says that only the slot can stop a claim; `admits_iff` reads it off the answer.
* `Leaves` is what a run of claims leaves behind. It speaks of the claims as a set, and a schedule
  is determined by it (`Leaves.unique`), which is why their order is lost.
-/

namespace Disbursement

/-! ## What is checked before the slot -/

namespace Claim

variable {s : Schedule} {marker : Option Marker} {claim : Claim} {now : Int64}

/-- The checks of a claim, its slot apart. -/
def check (s : Schedule) (claim : Claim) (now : Int64) : Except Refusal Unit := do
  s.requireActive
  s.requireKind claim.kind
  s.requireIndex claim.allocation.index
  ensure (claim.proof.length ≤ Merkle.maxProofLength) .invalidProofLength
  s.requireUnlocked claim.allocation.timestamp now
  let leaf ← claim.allocation.leafHash s.leafEncoding
  Merkle.verify s.root leaf claim.proof

/-- The checks do not read the bitmap. -/
theorem check_with_redemptions (s : Schedule) (claim : Claim) (now : Int64)
    (redemptions : RedemptionBitmap) : check { s with redemptions } claim now = check s claim now :=
  rfl

theorem check_eq_ok_iff : check s claim now = .ok () ↔ claim.Passes s now := by
  simp only [check, Schedule.requireActive, Schedule.requireKind, Schedule.requireIndex,
    Schedule.requireUnlocked, bind_eq_ok_iff, ensure_eq_ok_iff, exists_const]
  constructor
  · rintro ⟨hactive, hkind, hindex, hlength, hunlocked, hcommitted⟩
    exact ⟨hactive, hkind, hindex, hlength, hunlocked, hcommitted⟩
  · intro h
    exact ⟨h.active, h.kind, h.index, h.proofLength, h.unlocked, h.committed⟩

/-- None of the checks refuses a claim as redeemed; that is left to the slot. -/
theorem check_ne_alreadyRedeemed : check s claim now ≠ .error .alreadyRedeemed := by
  intro h
  simp only [check, Schedule.requireActive, Schedule.requireKind, Schedule.requireIndex,
    Schedule.requireUnlocked, Merkle.verify, bind_eq_error_iff, ensure_eq_error_iff, reduceCtorEq,
    and_false, false_or, or_false, exists_false] at h
  obtain ⟨-, -, -, -, -, -, -, -, -, -, hleaf⟩ := h
  exact absurd (Allocation.eq_leafMismatch_of_leafHash hleaf) (by decide)

/-- What a claim does to its slot, the checks apart. -/
def useSlot (s : Schedule) (marker : Option Marker) (claim : Claim) :
    Except Refusal Settlement := do
  let slots ← tracker s marker
  let slots ← slots.mark claim.allocation.index
  let (schedule, marker) := withTracker s marker slots
  return { payout := .ofAllocation s claim.allocation, schedule, marker }

theorem settle_eq_check_bind :
    claim.settle s marker now = check s claim now >>= fun _ => useSlot s marker claim := by
  simp only [settle, check, useSlot, bind_assoc]

/-- A claim that fails a check is refused for it, whatever the slot. -/
theorem settle_of_check_eq_error {refusal : Refusal} (h : check s claim now = .error refusal) :
    claim.settle s marker now = .error refusal := by
  rw [settle_eq_check_bind, h]
  rfl

end Claim

namespace Schedule

variable {s t u : Schedule} {p : Presentation} {presented other : List Presentation}

/-! ## What a claim is answered -/

theorem answer_eq_ok_iff {payout : Payout} : s.answer p = .ok payout ↔
    ∃ settlement, p.claim.settle s p.marker p.now = .ok settlement ∧
      settlement.payout = payout := by
  rw [answer, map_eq_ok_iff]

theorem answer_eq_error_iff {refusal : Refusal} :
    s.answer p = .error refusal ↔ p.claim.settle s p.marker p.now = .error refusal := by
  rw [answer, map_eq_error_iff]

/-- The slot has the last word on a claim that passes the checks. -/
theorem answer_of_passes (h : p.claim.Passes s p.now) (hmode : s.kind.trackingMode = .bitmap) :
    s.answer p = (s.redemptions.mark p.claim.allocation.index).map fun _ =>
      .ofAllocation s p.claim.allocation := by
  rw [answer, Claim.settle_of_passes h hmode]
  cases s.redemptions.mark p.claim.allocation.index <;> rfl

/-- The answer of a schedule that differs in its bitmap only, of the same size and with the same bit
for the index, is the same. -/
theorem answer_with_redemptions {redemptions : RedemptionBitmap}
    (hmode : s.kind.trackingMode = .bitmap) (hsize : redemptions.size = s.redemptions.size)
    (hbit : redemptions.bitAt p.claim.allocation.index.toNat =
      s.redemptions.bitAt p.claim.allocation.index.toNat) :
    answer { s with redemptions } p = s.answer p := by
  have hsame := Claim.check_with_redemptions s p.claim p.now redemptions
  cases hcheck : Claim.check s p.claim p.now with
  | error refusal =>
    rw [answer, answer, Claim.settle_of_check_eq_error hcheck,
      Claim.settle_of_check_eq_error (hsame.trans hcheck)]
  | ok _ =>
    rw [answer_of_passes (Claim.check_eq_ok_iff.1 hcheck) hmode,
      answer_of_passes (Claim.check_eq_ok_iff.1 (hsame.trans hcheck)) hmode]
    exact RedemptionBitmap.map_mark_eq_map_mark _ hsize hbit

/-- Nothing but its slot can stop the claim: it passes every check, and the bitmap has its index. -/
structure Admits (s : Schedule) (p : Presentation) : Prop where
  passes : p.claim.Passes s p.now
  inRange : p.claim.allocation.index.toNat < 8 * s.redemptions.size

/-- So the claim is paid if its bit is free, and refused as redeemed if it is set. -/
theorem Admits.answer_eq (h : s.Admits p) (hmode : s.kind.trackingMode = .bitmap) :
    s.answer p = if s.redemptions.bitAt p.claim.allocation.index.toNat = true then
      .error .alreadyRedeemed else .ok (.ofAllocation s p.claim.allocation) := by
  rw [answer_of_passes h.passes hmode]
  by_cases hset : s.redemptions.bitAt p.claim.allocation.index.toNat = true
  · rw [if_pos hset, RedemptionBitmap.mark_eq_alreadyRedeemed
      (RedemptionBitmap.isRedeemed_eq_ok_iff_bitAt.2 ⟨h.inRange, hset⟩)]
    rfl
  · obtain ⟨marked, hmark⟩ := RedemptionBitmap.exists_mark_iff.2
      ⟨h.inRange, Bool.not_eq_true _ ▸ hset⟩
    rw [if_neg hset, hmark]
    rfl

/-- A claim is paid or refused as redeemed exactly if nothing else can stop it. -/
theorem admits_iff (hmode : s.kind.trackingMode = .bitmap) :
    s.Admits p ↔ ∀ refusal, s.answer p = .error refusal → refusal = .alreadyRedeemed := by
  constructor
  · intro h refusal hrefused
    rw [h.answer_eq hmode] at hrefused
    split at hrefused
    · exact (Except.error.inj hrefused).symm
    · exact absurd hrefused (by simp)
  · intro h
    have hpasses : p.claim.Passes s p.now := by
      cases hcheck : Claim.check s p.claim p.now with
      | ok _ => exact Claim.check_eq_ok_iff.1 hcheck
      | error refusal =>
        have hanswer : s.answer p = .error refusal :=
          answer_eq_error_iff.2 (Claim.settle_of_check_eq_error hcheck)
        rw [h refusal hanswer] at hcheck
        exact absurd hcheck Claim.check_ne_alreadyRedeemed
    refine ⟨hpasses, by_contra fun hrange => ?_⟩
    have hanswer : s.answer p = .error .indexOutOfRange := by
      rw [answer_of_passes hpasses hmode, RedemptionBitmap.mark_eq_indexOutOfRange hrange]
      rfl
    exact absurd (h _ hanswer) (by decide)

/-! ## What a run of claims leaves -/

/-- The number of claims that are paid when they are presented one after another. -/
def paidCount (s : Schedule) (presented : List Presentation) : Nat :=
  (s.accepted (presented.map Presentation.move)).length

theorem acceptedBy?_of_paid {payout : Payout} (h : t.answer p = .ok payout) :
    t.acceptedBy? p.move = some { claim := p.claim, payout } := by
  obtain ⟨settlement, hsettle, rfl⟩ := answer_eq_ok_iff.1 h
  rw [Presentation.move, acceptedBy?, hsettle]

theorem acceptedBy?_of_refused {refusal : Refusal} (h : t.answer p = .error refusal) :
    t.acceptedBy? p.move = none := by
  rw [Presentation.move, acceptedBy?, answer_eq_error_iff.1 h]

/-- What is left of a schedule when these claims were presented to it: a bit is set if it was, or if
one of the claims that nothing else can stop is for it. -/
structure Leaves (s : Schedule) (presented : List Presentation) (t : Schedule) : Prop where
  eq_with : t = { s with redemptions := t.redemptions }
  size_eq : t.redemptions.size = s.redemptions.size
  bitAt_iff : ∀ position, t.redemptions.bitAt position = true ↔
    s.redemptions.bitAt position = true ∨
      ∃ p ∈ presented, s.Admits p ∧ p.claim.allocation.index.toNat = position

theorem leaves_nil (s : Schedule) : s.Leaves [] s where
  eq_with := rfl
  size_eq := rfl
  bitAt_iff position := by simp

/-- Only one schedule is left. -/
theorem Leaves.unique (h : s.Leaves presented t) (h' : s.Leaves other u)
    (hsame : ∀ p, p ∈ presented ↔ p ∈ other) : t = u := by
  have hredemptions : t.redemptions = u.redemptions := by
    refine RedemptionBitmap.eq_of_bitAt_eq (h.size_eq.trans h'.size_eq.symm) fun position => ?_
    rw [Bool.eq_iff_iff, h.bitAt_iff, h'.bitAt_iff]
    simp only [hsame]
  rw [h.eq_with, h'.eq_with, hredemptions]

/-- A claim sees of the earlier ones only whether one of them took its bit. -/
theorem Leaves.answer_eq (h : s.Leaves presented t) (hmode : s.kind.trackingMode = .bitmap)
    (hother : ∀ q ∈ presented, q.claim.allocation.index ≠ p.claim.allocation.index) :
    t.answer p = s.answer p := by
  rw [h.eq_with]
  refine answer_with_redemptions hmode h.size_eq (Bool.eq_iff_iff.2 ?_)
  rw [h.bitAt_iff]
  constructor
  · rintro (hset | ⟨q, hq, -, hindex⟩)
    · exact hset
    · exact absurd (UInt16.toNat_inj.1 hindex) (hother q hq)
  · exact Or.inl

/-- What can stop a claim besides its slot is the same at every moment. -/
theorem Leaves.admits_iff (h : s.Leaves presented t) : t.Admits p ↔ s.Admits p := by
  have hpasses : p.claim.Passes t p.now ↔ p.claim.Passes s p.now := by
    rw [← Claim.check_eq_ok_iff, ← Claim.check_eq_ok_iff, h.eq_with, Claim.check_with_redemptions]
  constructor
  · intro hadmits
    exact ⟨hpasses.1 hadmits.passes, h.size_eq ▸ hadmits.inRange⟩
  · intro hadmits
    exact ⟨hpasses.2 hadmits.passes, h.size_eq ▸ hadmits.inRange⟩

/-! ## One more claim -/

/-- A claim that is paid sets its bit. -/
theorem afterMove_of_paid {payout : Payout} (h : t.answer p = .ok payout)
    (hmode : t.kind.trackingMode = .bitmap) :
    ∃ marked, t.redemptions.mark p.claim.allocation.index = .ok marked ∧
      t.afterMove p.move = { t with redemptions := marked } := by
  obtain ⟨settlement, hsettle, -⟩ := answer_eq_ok_iff.1 h
  obtain ⟨marked, hmark, rfl⟩ := Claim.settle_bitmap hsettle hmode
  refine ⟨marked, hmark, ?_⟩
  rw [Presentation.move, afterMove, hsettle]

theorem Leaves.present (h : s.Leaves presented t) (hmode : s.kind.trackingMode = .bitmap)
    (p : Presentation) : s.Leaves (presented ++ [p]) (t.afterMove p.move) := by
  have hmode' : t.kind.trackingMode = .bitmap := by
    rw [h.eq_with]
    exact hmode
  have hlast (position : Nat) : (∃ q ∈ presented ++ [p], s.Admits q ∧
      q.claim.allocation.index.toNat = position) ↔ (∃ q ∈ presented, s.Admits q ∧
        q.claim.allocation.index.toNat = position) ∨
      s.Admits p ∧ p.claim.allocation.index.toNat = position := by
    simp only [List.mem_append, List.mem_singleton, or_and_right, exists_or, exists_eq_left]
  cases hanswer : t.answer p with
  | ok payout =>
    obtain ⟨marked, hmark, hafter⟩ := afterMove_of_paid hanswer hmode'
    have hadmits : s.Admits p :=
      h.admits_iff.1 <| (Schedule.admits_iff hmode').2 fun refusal hrefused =>
        absurd (hanswer.symm.trans hrefused) (by simp)
    rw [hafter]
    refine ⟨?_, (RedemptionBitmap.size_mark hmark).trans h.size_eq, fun position => ?_⟩
    · rw [h.eq_with]
    · rw [RedemptionBitmap.bitAt_mark hmark, Bool.or_eq_true, decide_eq_true_iff, h.bitAt_iff,
        hlast, or_assoc, and_iff_right hadmits]
  | error refusal =>
    rw [afterMove_of_refused hanswer]
    refine ⟨h.eq_with, h.size_eq, fun position => ?_⟩
    -- a claim that only its slot could stop has been stopped by it, so the bit was set before
    have hset (hadmits : s.Admits p) :
        t.redemptions.bitAt p.claim.allocation.index.toNat = true := by
      by_contra hfree
      rw [(h.admits_iff.2 hadmits).answer_eq hmode', if_neg hfree] at hanswer
      exact absurd hanswer (by simp)
    rw [hlast, ← or_assoc, ← h.bitAt_iff]
    constructor
    · exact Or.inl
    · rintro (hbit | ⟨hadmits, rfl⟩)
      · exact hbit
      · exact hset hadmits

theorem paidCount_append_singleton (s : Schedule) (presented : List Presentation)
    (p : Presentation) :
    s.paidCount (presented ++ [p]) = s.paidCount presented +
      ((s.afterPresented presented).acceptedBy? p.move).toList.length := by
  rw [paidCount, List.map_append, List.map_singleton, accepted_append_singleton, List.length_append,
    paidCount, afterPresented]

/-! ## Whole runs -/

theorem leaves_afterPresented (hmode : s.kind.trackingMode = .bitmap)
    (presented : List Presentation) : s.Leaves presented (s.afterPresented presented) := by
  induction presented using List.reverseRecOn with
  | nil => exact leaves_nil s
  | append_singleton presented p ih =>
    rw [afterPresented_append_singleton]
    exact ih.present hmode p

/-- Every claim that is paid adds a bit, so the claims that are paid can be counted on the
bitmap. -/
theorem count_afterPresented (hmode : s.kind.trackingMode = .bitmap)
    (presented : List Presentation) : (s.afterPresented presented).redemptions.count =
      s.redemptions.count + s.paidCount presented := by
  induction presented using List.reverseRecOn with
  | nil => rfl
  | append_singleton presented p ih =>
    have hmode' : (s.afterPresented presented).kind.trackingMode = .bitmap := by
      rw [(leaves_afterPresented hmode presented).eq_with]
      exact hmode
    rw [afterPresented_append_singleton, paidCount_append_singleton, ← Nat.add_assoc, ← ih]
    cases hanswer : (s.afterPresented presented).answer p with
    | ok payout =>
      obtain ⟨marked, hmark, hafter⟩ := afterMove_of_paid hanswer hmode'
      rw [hafter, acceptedBy?_of_paid hanswer]
      exact RedemptionBitmap.count_mark hmark
    | error refusal =>
      rw [afterMove_of_refused hanswer, acceptedBy?_of_refused hanswer]
      rfl

/-- The order of claims does not matter. Where a bitmap remembers redemption, a list of claims, each
with a clock of its own, leads to the same schedule in every order, and as many of them are paid. In
the end a leaf is redeemed if it was at the start, or if a claim for it is in the list that passes
every check but that of its slot. If all claims are for different leaves, each is answered the same
in every order. -/
theorem claims_in_any_order (hmode : s.kind.trackingMode = .bitmap)
    (hperm : presented.Perm other) :
    s.afterPresented presented = s.afterPresented other ∧
      s.paidCount presented = s.paidCount other ∧
      (∀ i, (s.afterPresented presented).redemptions.isRedeemed i = .ok true ↔
        s.redemptions.isRedeemed i = .ok true ∨
          ∃ p ∈ presented, s.Admits p ∧ p.claim.allocation.index = i) ∧
      ((presented.Pairwise fun p q => p.claim.allocation.index ≠ q.claim.allocation.index) →
        ∀ before p after before' after', presented = before ++ p :: after →
          other = before' ++ p :: after' →
            (s.afterPresented before).answer p = (s.afterPresented before').answer p) := by
  have hleaves := leaves_afterPresented hmode presented
  have hsame := hleaves.unique (leaves_afterPresented hmode other) fun p => hperm.mem_iff
  have hcount : s.paidCount presented = s.paidCount other := by
    have h := count_afterPresented hmode presented
    rw [hsame, count_afterPresented hmode other] at h
    exact (Nat.add_left_cancel h).symm
  refine ⟨hsame, hcount, fun i => ?_, ?_⟩
  · simp only [RedemptionBitmap.isRedeemed_eq_ok_iff_bitAt, hleaves.size_eq, hleaves.bitAt_iff,
      UInt16.toNat_inj, and_or_left]
    refine or_congr_right ⟨And.right, ?_⟩
    rintro ⟨p, hp, hadmits, rfl⟩
    exact ⟨hadmits.inRange, p, hp, hadmits, rfl⟩
  · rintro hdistinct before p after before' after' rfl rfl
    have hdistinct' := hperm.pairwise hdistinct fun h => h.symm
    have hbefore := (leaves_afterPresented hmode before).answer_eq hmode fun q hq =>
      (List.pairwise_append.1 hdistinct).2.2 q hq p List.mem_cons_self
    have hbefore' := (leaves_afterPresented hmode before').answer_eq hmode fun q hq =>
      (List.pairwise_append.1 hdistinct').2.2 q hq p List.mem_cons_self
    exact hbefore.trans hbefore'.symm

/-! ## Two wallets -/

open MerkleTree

/-- A new schedule admits what is submitted to it. -/
theorem NewOver.admits {encoding : LeafEncoding} {allocations : List Allocation} {tree : MerkleTree}
    {a : Allocation} (new : NewOver s encoding allocations tree) (ha : a ∈ allocations)
    (hsubmits : Submits s tree a p) : s.Admits p where
  passes := new.passes_of_submits ha hsubmits (.refl s) new.active
  inRange := by
    rw [hsubmits.allocation]
    exact (onlySubmitted_nil new).lt_size new ha

/-- Both wallets are paid, whoever comes first, and neither notices the other. -/
theorem two_wallets_in_any_order :
    let first : Presentation := ⟨firstClaim, none, 20⟩
    let second : Presentation := ⟨secondClaim, none, 20⟩
    let s := twoWalletSchedule
    s.kind.trackingMode = .bitmap ∧ [second, first].Perm [first, second] ∧
      s.afterPresented [second, first] = s.afterPresented [first, second] ∧
      s.paidCount [second, first] = s.paidCount [first, second] ∧
      (s.afterPresented [second, first]).redemptions.isRedeemed 0 = .ok true ∧
      (s.afterPresented [second, first]).redemptions.isRedeemed 1 = .ok true ∧
      (s.afterPresented [second]).answer first = s.answer first := by
  intro first second s
  have hmode : s.kind.trackingMode = .bitmap := rfl
  have hperm : [second, first].Perm [first, second] := .swap first second []
  have hroot : twoWalletTerms.root = (ofLeaves [firstLeaf, secondLeaf]).root := rfl
  obtain ⟨_, hcreate, new⟩ :=
    exists_create build_twoWallets hroot rfl hmode rfl (Bytes32.ofNatBE 4) 255 0
  obtain rfl : s = _ := Except.ok.inj (create_twoWalletSchedule.symm.trans hcreate)
  have hunlocked : Unlocked .timestamped 0 firstWallet.timestamp 20 := by
    show (10 : Int64) ≤ 20
    decide
  have hfirst : s.Admits first :=
    new.admits (a := firstWallet) (by simp) ⟨rfl, rfl, submits_firstClaim.proof, hunlocked⟩
  have hsecond : s.Admits second :=
    new.admits (a := secondWallet) (by simp) (submits_secondClaim (by decide))
  obtain ⟨hsame, hcount, hredeemed, hanswers⟩ := claims_in_any_order hmode hperm
  refine ⟨hmode, hperm, hsame, hcount, (hredeemed 0).2 (.inr ⟨first, by simp, hfirst, rfl⟩),
    (hredeemed 1).2 (.inr ⟨second, by simp, hsecond, rfl⟩), ?_⟩
  exact hanswers (by simp; decide) [second] first [] [] [second] rfl rfl

end Schedule

end Disbursement
