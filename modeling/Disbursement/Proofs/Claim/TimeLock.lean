import Disbursement.Proofs.Claim.Verdict

/-!
# Time locks

The claimant says when a leaf unlocks, so the time of a claim is an input like any other. Three
facts keep the lock shut all the same (`Claim.time_locks_only_open`).

* A lock only opens: what is accepted is accepted with the same result at any later time
  (`Claim.settle_later`).
* Layouts without a time do not look at the one that is claimed (`Claim.settle_with_timestamp`);
  their lock is that of the schedule.
* In the others the claimed time is part of the leaf, so that it is the committed one
  (`Claim.committed_of_settle`).
-/

namespace Disbursement

/-! ## The lock of a schedule -/

namespace Schedule

variable {s : Schedule} {encoding : LeafEncoding} {unlock leafTime other now : Int64}

/-- Only a time that the layout writes down is waited for. -/
theorem Unlocked.congr (h : Unlocked encoding unlock leafTime now)
    (hsame : encoding.carriesTime = true → leafTime = other) :
    Unlocked encoding unlock other now := by
  cases encoding with
  | legacy | multiLegacy => exact h
  | timestamped | multiTimestamped | nftSpecific | nftCollection =>
    rw [← hsame rfl]
    exact h

theorem unlockTime_eq_of_carriesTime (h : s.leafEncoding.carriesTime = false) (leafTime : Int64) :
    s.unlockTime leafTime = s.unlock := by
  unfold unlockTime
  cases hencoding : s.leafEncoding with
  | legacy | multiLegacy => rfl
  | timestamped | multiTimestamped | nftSpecific | nftCollection =>
    rw [hencoding] at h
    exact absurd h (by decide)

end Schedule

namespace Claim

variable {s : Schedule} {marker : Option Marker} {claim : Claim} {now later : Int64}
  {out : Settlement}

/-! ## Two clocks -/

/-- The clock only opens the lock; no other check and no result depends on it. -/
theorem settle_later (h : claim.settle s marker now = .ok out) (hlater : now ≤ later) :
    claim.settle s marker later = .ok out := by
  rw [settle_eq_ok_iff] at h ⊢
  obtain ⟨hactive, hkind, hindex, hlength, hunlocked, haccepted⟩ := h
  exact ⟨hactive, hkind, hindex, hlength, Int64.le_trans hunlocked hlater, haccepted⟩

/-! ## Two claimed times -/

/-- The claim with another time. -/
def withTimestamp (claim : Claim) (timestamp : Int64) : Claim :=
  { claim with allocation := { claim.allocation with timestamp } }

/-- A layout without a time does not look at the one that is claimed. -/
theorem settle_with_timestamp (h : s.leafEncoding.carriesTime = false) (timestamp : Int64) :
    (claim.withTimestamp timestamp).settle s marker now = claim.settle s marker now := by
  have hentry : Allocation.SameEntry s.leafEncoding (claim.withTimestamp timestamp).allocation
      claim.allocation :=
    ⟨rfl, fun carries => absurd carries (by rw [h]; exact Bool.false_ne_true), rfl, rfl, rfl, rfl⟩
  have hleaf : (claim.withTimestamp timestamp).allocation.leafHash s.leafEncoding =
      claim.allocation.leafHash s.leafEncoding := by
    rw [Allocation.leafHash, Allocation.leafHash, hentry.leafBytes_eq]
  have hpayout : Payout.ofAllocation s (claim.withTimestamp timestamp).allocation =
      Payout.ofAllocation s claim.allocation :=
    hentry.ofAllocation_eq s
  simp only [settle, Schedule.requireUnlocked, Schedule.unlockTime_eq_of_carriesTime h, hleaf,
    hpayout]
  rfl

/-- In place as in `Claim.settle`, the same answer leaves the same schedule and the same marker. -/
theorem start_settleInPlace_congr {other : Claim}
    (h : claim.settle s marker now = other.settle s marker later) :
    (claim.settleInPlace now).start (s, marker) =
      (other.settleInPlace later).start (s, marker) := by
  have hclaim := atomic_settleInPlace s marker claim now
  have hother := atomic_settleInPlace s marker other later
  unfold InPlace.Atomic at hclaim hother
  rw [hclaim, hother, h]

/-! ## The committed time -/

/-- What is accepted says what a committed allocation says, and there is only one for its index. -/
theorem committed_of_settle {allocations : List Allocation} {tree : MerkleTree}
    (built : MerkleTree.build s.leafEncoding allocations = .ok tree) (root : s.root = tree.root)
    (h : claim.settle s marker now = .ok out) :
    (∃ committed ∈ allocations, Allocation.SameEntry s.leafEncoding committed claim.allocation ∧
      ∀ other ∈ allocations, other.index = claim.allocation.index → other = committed) ∨
      Merkle.Collides (Merkle.committedPreimages s.leafEncoding allocations tree)
        (Merkle.presentedPreimages s.leafEncoding claim.allocation claim.proof) := by
  obtain ⟨-, -, -, -, -, leaf, hleaf, hverify, -⟩ := settle_eq_ok_iff.1 h
  rw [root] at hverify
  rcases Merkle.sameEntry_of_verify built hleaf hverify with ⟨committed, hmem, hsame⟩ | hcollides
  · refine .inl ⟨committed, hmem, hsame, fun other hother hindex => ?_⟩
    exact MerkleTree.eq_of_index_eq built hother hmem (hindex.trans hsame.index.symm)
  · exact .inr hcollides

/-! ## The result -/

/-- Time locks only open, and no claimed time gets around them. A claim that is accepted is accepted
at any later time, is owed the same and leaves the same schedule and the same marker. In a layout
without a time, the one that is claimed changes neither the answer nor what is left behind. On a
schedule over a built tree nothing is accepted early: not before the schedule unlocks, where the
layout waits for it, and not before the time of the allocation that is committed for the index,
where the layout has one; unless two different byte strings have the same digest, one hashed to
build the tree and one to check the claim. -/
theorem time_locks_only_open (s : Schedule) (marker : Option Marker) (claim : Claim) (now : Int64) :
    (∀ out later, claim.settle s marker now = .ok out → now ≤ later →
      claim.settle s marker later = .ok out ∧
        (claim.settleInPlace later).start (s, marker) =
          (.ok out.payout, out.schedule, out.marker)) ∧
    (s.leafEncoding = .legacy ∨ s.leafEncoding = .multiLegacy → ∀ timestamp,
      (claim.withTimestamp timestamp).settle s marker now = claim.settle s marker now ∧
        ((claim.withTimestamp timestamp).settleInPlace now).start (s, marker) =
          (claim.settleInPlace now).start (s, marker)) ∧
    ∀ allocations tree out, MerkleTree.build s.leafEncoding allocations = .ok tree →
      s.root = tree.root → claim.settle s marker now = .ok out →
        (∃ committed ∈ allocations, committed.index = claim.allocation.index ∧
          (∀ other ∈ allocations, other.index = claim.allocation.index → other = committed) ∧
          Schedule.Unlocked s.leafEncoding s.unlock committed.timestamp now) ∨
        Merkle.Collides (Merkle.committedPreimages s.leafEncoding allocations tree)
          (Merkle.presentedPreimages s.leafEncoding claim.allocation claim.proof) := by
  refine ⟨?_, ?_, ?_⟩
  · intro out later haccepted hlater
    have hthen := settle_later haccepted hlater
    have hplace := atomic_settleInPlace s marker claim later
    unfold InPlace.Atomic at hplace
    rw [hthen] at hplace
    exact ⟨hthen, hplace⟩
  · intro hlayout timestamp
    have htimeless : s.leafEncoding.carriesTime = false := by
      rcases hlayout with hlayout | hlayout <;> rw [hlayout] <;> rfl
    have hsettle :
        (claim.withTimestamp timestamp).settle s marker now = claim.settle s marker now :=
      settle_with_timestamp htimeless timestamp
    exact ⟨hsettle, start_settleInPlace_congr hsettle⟩
  · intro allocations tree out built root haccepted
    obtain ⟨-, -, -, -, hunlocked, -⟩ := settle_eq_ok_iff.1 haccepted
    rcases committed_of_settle built root haccepted with
      ⟨committed, hmem, hsame, hunique⟩ | hcollides
    · refine .inl ⟨committed, hmem, hsame.index, hunique, ?_⟩
      exact (Schedule.unlockTime_le_iff.1 hunlocked).congr fun carries =>
        (hsame.timestamp carries).symm
    · exact .inr hcollides

/-! ## Two wallets -/

open MerkleTree (firstLeaf firstWallet secondLeaf secondWallet ofLeaves build_twoWallets)
open Schedule (secondClaim settle_secondClaim twoWalletSchedule)

/-- The second wallet is paid when its entry unlocks, and would be at any later time. If the
schedule has an unlock time of its own, no claimed time opens it before. -/
theorem locks_of_two_wallets :
    (∃ out, secondClaim.settle twoWalletSchedule none 20 = .ok out ∧
      secondClaim.settle twoWalletSchedule none 1000 = .ok out) ∧
    (∀ timestamp, (secondClaim.withTimestamp timestamp).settle
      { twoWalletSchedule with unlock := 5 } none 4 = .error .scheduleLocked) ∧
    ((∃ committed ∈ [secondWallet, firstWallet], committed.index = 1 ∧ committed.timestamp ≤ 20) ∨
      Merkle.Collides
        (Merkle.committedPreimages .timestamped [secondWallet, firstWallet]
          (ofLeaves [firstLeaf, secondLeaf]))
        (Merkle.presentedPreimages .timestamped secondClaim.allocation secondClaim.proof)) := by
  obtain ⟨hopens, -, hcommitted⟩ := time_locks_only_open twoWalletSchedule none secondClaim 20
  obtain ⟨-, htimeless, -⟩ :=
    time_locks_only_open { twoWalletSchedule with unlock := 5 } none secondClaim 4
  refine ⟨⟨_, settle_secondClaim, (hopens _ 1000 settle_secondClaim (by decide)).1⟩,
    fun timestamp => ((htimeless (.inl rfl)) timestamp).1, ?_⟩
  rcases hcommitted [secondWallet, firstWallet] (ofLeaves [firstLeaf, secondLeaf]) _
    build_twoWallets rfl settle_secondClaim with ⟨committed, hmem, hindex, -, hunlocked⟩ | hcollides
  · exact .inl ⟨committed, hmem, hindex, hunlocked⟩
  · exact .inr hcollides

end Claim

end Disbursement
