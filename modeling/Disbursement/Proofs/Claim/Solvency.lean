import Disbursement.Proofs.Claim.Payout
import Disbursement.Proofs.Claim.Run
import Disbursement.Proofs.Merkle.Binding
import Mathlib.Algebra.GroupWithZero.Nat

/-!
# Payouts never exceed the commitment

A schedule is created over the root of a tree that commits a list of allocations. Whatever claims
are presented to it, in whatever order, with whatever proofs, markers and clocks, and however often
it is opened and closed in between: each accepted claim presents a committed allocation and is owed
what that allocation says, and no allocation is presented twice. So what is paid out in a mint is at
most what was committed in it (`payouts_never_exceed_the_commitment`).

The proof joins three results. `Schedule.pairwise_index_accepted` keeps the indices apart,
`Merkle.sameEntry_of_verify` leads every accepted claim back to a committed allocation, and
`totalPaid_le_totalCommitted` counts.
-/

namespace Disbursement

/-! ## Amounts by mint -/

/-- How much of a mint a leg moves. -/
def Leg.amountIn (leg : Leg) (mint : Address) : Nat :=
  if leg.asset.mint = mint then leg.amount.toNat else 0

/-- How much of a mint an allocation of a schedule is to receive. -/
def Allocation.amountIn (a : Allocation) (s : Schedule) (mint : Address) : Nat :=
  if a.receivingMint.getD s.receivingMint = mint then a.receivingAmount.toNat else 0

/-- The sum of what accepted claims receive in a mint. -/
def totalPaid (paid : List AcceptedClaim) (mint : Address) : Nat :=
  (paid.map fun x => x.payout.receiving.amountIn mint).sum

/-- The sum of what allocations of a schedule are to receive in a mint. -/
def totalCommitted (allocations : List Allocation) (s : Schedule) (mint : Address) : Nat :=
  (allocations.map fun a => a.amountIn s mint).sum

/-- An allocation is owed what it is to receive. -/
theorem amountIn_ofAllocation (s : Schedule) (a : Allocation) (mint : Address) :
    (Payout.ofAllocation s a).receiving.amountIn mint = a.amountIn s mint := by
  unfold Payout.ofAllocation Leg.amountIn Allocation.amountIn
  rw [Asset.mint_ofMint]

/-! ## Counting -/

section

variable {s : Schedule} {allocations : List Allocation} {paid : List AcceptedClaim}

/-- Claims that present different allocations receive no more than all of them together. The claims
are taken one by one, and each takes its allocation out of the list. -/
theorem totalPaid_le_totalCommitted (mint : Address)
    (hindices : paid.Pairwise fun x y => x.index ≠ y.index)
    (hpaid : ∀ x ∈ paid, ∃ c ∈ allocations, c.index = x.index ∧
      x.payout = .ofAllocation s c) :
    totalPaid paid mint ≤ totalCommitted allocations s mint := by
  induction paid generalizing allocations with
  | nil => exact Nat.zero_le _
  | cons x paid ih =>
    obtain ⟨hother, hrest⟩ := List.pairwise_cons.1 hindices
    obtain ⟨c, hc, hindex, hpayout⟩ := hpaid x List.mem_cons_self
    have hleft : ∀ y ∈ paid, ∃ d ∈ allocations.erase c, d.index = y.index ∧
        y.payout = .ofAllocation s d := by
      intro y hy
      obtain ⟨d, hd, hdindex, hdpayout⟩ := hpaid y (List.mem_cons_of_mem _ hy)
      have hne : d ≠ c := by
        rintro rfl
        exact hother y hy (hindex.symm.trans hdindex)
      exact ⟨d, (List.mem_erase_of_ne hne).2 hd, hdindex, hdpayout⟩
    have htake : totalCommitted allocations s mint =
        c.amountIn s mint + totalCommitted (allocations.erase c) s mint :=
      ((List.perm_cons_erase hc).map fun a : Allocation => a.amountIn s mint).sum_nat
    calc totalPaid (x :: paid) mint
        = x.payout.receiving.amountIn mint + totalPaid paid mint := rfl
      _ = c.amountIn s mint + totalPaid paid mint := by rw [hpayout, amountIn_ofAllocation]
      _ ≤ c.amountIn s mint + totalCommitted (allocations.erase c) s mint :=
          Nat.add_le_add_left (ih hrest hleft) _
      _ = totalCommitted allocations s mint := htake.symm

end

/-! ## Accepted claims are committed -/

/-- What two allocations that say the same are owed is the same. -/
theorem Allocation.SameEntry.ofAllocation_eq {encoding : LeafEncoding} {a c : Allocation}
    (h : SameEntry encoding c a) (s : Schedule) :
    Payout.ofAllocation s c = Payout.ofAllocation s a := by
  unfold Payout.ofAllocation
  rw [h.receivingMint, h.receivingAmount, h.sendingAmount]

namespace Schedule

variable {s : Schedule} {encoding : LeafEncoding} {allocations : List Allocation}
  {tree : MerkleTree} {moves : List ScheduleMove} {x : AcceptedClaim}

/-- A new schedule is of its kind and has its terms. -/
theorem of_create {vault : Address} {bump : UInt8} {created : Int64} {kind : ScheduleKind}
    {terms : ScheduleTerms} (h : Schedule.create vault bump created kind terms = .ok s) :
    s.kind = kind ∧ s.unlock = terms.unlock ∧ s.root = terms.root := by
  simp only [create, bind_eq_ok_iff, ensure_eq_ok_iff, exists_const, pure, Except.pure,
    Except.ok.injEq] at h
  obtain ⟨-, rfl⟩ := h
  exact ⟨rfl, rfl, rfl⟩

/-- An accepted claim on a schedule over a built tree presents a committed allocation, and is owed
what that allocation says. -/
theorem committed_of_mem_accepted (built : MerkleTree.build encoding allocations = .ok tree)
    (hroot : s.root = tree.root) (hencoding : s.leafEncoding = encoding)
    (hx : x ∈ s.accepted moves) :
    (∃ c ∈ allocations, Allocation.SameEntry encoding c x.claim.allocation ∧
      x.payout = .ofAllocation s c) ∨
      Merkle.Collides (Merkle.committedPreimages encoding allocations tree)
        (Merkle.presentedPreimages encoding x.claim.allocation x.claim.proof) := by
  obtain ⟨t, marker, now, settlement, hcontinues, hsettle, hpayout⟩ :=
    exists_settle_of_mem_accepted hx
  obtain ⟨-, -, -, -, -, leaf, hleaf, hverify, -⟩ := Claim.settle_eq_ok_iff.1 hsettle
  rw [hcontinues.leafEncoding_eq, hencoding] at hleaf
  rw [hcontinues.root_eq, hroot] at hverify
  rcases Merkle.sameEntry_of_verify built hleaf hverify with ⟨c, hc, hsame⟩ | hcollides
  · refine .inl ⟨c, hc, hsame, ?_⟩
    rw [← hpayout, Claim.payout_of_settle hsettle, hcontinues.ofAllocation_eq,
      hsame.ofAllocation_eq]
  · exact .inr hcollides

/-- Whatever happens to a schedule over a built tree, no index is accepted twice, and, unless two
byte strings collide, one hashed in building the tree and one in checking an accepted claim: each
accepted claim presents the committed allocation of its index and pays what that is owed, and what
is paid in a mint is at most what was committed in it. -/
theorem payouts_never_exceed_the_commitment {vault : Address} {bump : UInt8} {created : Int64}
    {kind : ScheduleKind} {terms : ScheduleTerms}
    (built : MerkleTree.build encoding allocations = .ok tree)
    (schedule : Schedule.create vault bump created kind terms = .ok s)
    (root : terms.root = tree.root) (mode : kind.trackingMode = .bitmap)
    (layout : kind.leafEncoding terms.unlock = encoding) (moves : List ScheduleMove) :
    ((s.accepted moves).Pairwise fun x y => x.index ≠ y.index) ∧
      (((∀ x ∈ s.accepted moves, ∃ c ∈ allocations,
          Allocation.SameEntry encoding c x.claim.allocation ∧ x.payout = .ofAllocation s c ∧
            x.payout.Owes s c) ∧
        ∀ mint, totalPaid (s.accepted moves) mint ≤ totalCommitted allocations s mint) ∨
        ∃ x ∈ s.accepted moves,
          Merkle.Collides (Merkle.committedPreimages encoding allocations tree)
            (Merkle.presentedPreimages encoding x.claim.allocation x.claim.proof)) := by
  obtain ⟨hkind, hunlock, hterms⟩ := of_create schedule
  have hmode : s.kind.trackingMode = .bitmap := by rw [hkind, mode]
  have hroot : s.root = tree.root := hterms.trans root
  have hencoding : s.leafEncoding = encoding := by rw [leafEncoding, hkind, hunlock, layout]
  have hindices := pairwise_index_accepted hmode moves
  refine ⟨hindices, ?_⟩
  by_cases hcollides : ∃ x ∈ s.accepted moves,
      Merkle.Collides (Merkle.committedPreimages encoding allocations tree)
        (Merkle.presentedPreimages encoding x.claim.allocation x.claim.proof)
  · exact .inr hcollides
  · have hcommitted : ∀ x ∈ s.accepted moves, ∃ c ∈ allocations,
        Allocation.SameEntry encoding c x.claim.allocation ∧ x.payout = .ofAllocation s c := by
      intro x hx
      rcases committed_of_mem_accepted built hroot hencoding hx with hcommitted | h
      · exact hcommitted
      · exact absurd ⟨x, hx, h⟩ hcollides
    refine .inl ⟨?_, fun mint => totalPaid_le_totalCommitted mint hindices ?_⟩
    · intro x hx
      obtain ⟨c, hc, hsame, hpayout⟩ := hcommitted x hx
      exact ⟨c, hc, hsame, hpayout, Payout.owes_iff.2 hpayout⟩
    · intro x hx
      obtain ⟨c, hc, hsame, hpayout⟩ := hcommitted x hx
      exact ⟨c, hc, hsame.index, hpayout⟩

/-! ## A small run -/

open MerkleTree

/-- The terms of a schedule for two wallets. -/
def twoWalletTerms : ScheduleTerms where
  eventId := 1
  userCount := 2
  unlock := 0
  root := (ofLeaves [firstLeaf, secondLeaf]).root
  scope := .perMint
  receivingMint := Bytes32.ofNatBE 5
  receivingAccount := Bytes32.ofNatBE 6
  sendingMint := Bytes32.ofNatBE 5
  sendingAccount := Bytes32.ofNatBE 7

/-- The schedule for two wallets, just created. -/
def twoWalletSchedule : Schedule :=
  (Schedule.create (Bytes32.ofNatBE 4) 255 0 .distribution twoWalletTerms).toOption.getD .blank

/-- The claim of the second wallet. -/
def secondClaim : Claim where
  kind := .distribution
  allocation := secondWallet
  proof := [⟨firstLeaf, .left⟩]

theorem create_twoWalletSchedule :
    Schedule.create (Bytes32.ofNatBE 4) 255 0 .distribution twoWalletTerms =
      .ok twoWalletSchedule :=
  rfl

/-- The second wallet presents its claim when it unlocks. -/
theorem settle_secondClaim :
    secondClaim.settle twoWalletSchedule none 20 = .ok
      { payout := .ofAllocation twoWalletSchedule secondWallet
        schedule := { twoWalletSchedule with redemptions := ⟨[2]⟩ }
        marker := none } := by
  have hroot : twoWalletSchedule.root = (ofLeaves [firstLeaf, secondLeaf]).root := rfl
  have hverify : Merkle.verify twoWalletSchedule.root secondLeaf secondClaim.proof = .ok () := by
    rw [hroot, secondClaim, Merkle.verify_eq_ok_iff]
    exact ⟨by simp [Merkle.maxProofLength], computeRoot_of_pair firstLeaf secondLeaf⟩
  have hencoding : twoWalletSchedule.leafEncoding = .timestamped := rfl
  have hleaf : secondClaim.allocation.leafHash twoWalletSchedule.leafEncoding = .ok secondLeaf := by
    rw [hencoding, secondClaim]
    exact leafHash_secondWallet
  exact Claim.settle_eq_ok_iff.2 ⟨rfl, rfl, by decide, by decide, by decide, secondLeaf, hleaf,
    hverify, .bitmap ⟨[0]⟩, .bitmap ⟨[2]⟩, rfl, rfl, rfl⟩

theorem accepted_secondClaim :
    twoWalletSchedule.accepted [.claim secondClaim none 20] =
      [⟨secondClaim, .ofAllocation twoWalletSchedule secondWallet⟩] := by
  rw [accepted, acceptedBy?, settle_secondClaim]
  rfl

/-- What is paid to the second wallet. -/
theorem payouts_to_second_wallet :
    let paid := twoWalletSchedule.accepted [.claim secondClaim none 20]
    paid = [⟨secondClaim, .ofAllocation twoWalletSchedule secondWallet⟩] ∧
      (paid.Pairwise fun x y => x.index ≠ y.index) ∧
      (((∀ x ∈ paid, ∃ c ∈ [secondWallet, firstWallet],
          Allocation.SameEntry .timestamped c x.claim.allocation ∧
            x.payout = .ofAllocation twoWalletSchedule c ∧ x.payout.Owes twoWalletSchedule c) ∧
        ∀ mint, totalPaid paid mint ≤
          totalCommitted [secondWallet, firstWallet] twoWalletSchedule mint) ∨
        ∃ x ∈ paid,
          Merkle.Collides
            (Merkle.committedPreimages .timestamped [secondWallet, firstWallet]
              (ofLeaves [firstLeaf, secondLeaf]))
            (Merkle.presentedPreimages .timestamped x.claim.allocation x.claim.proof)) :=
  ⟨accepted_secondClaim,
    payouts_never_exceed_the_commitment build_twoWallets create_twoWalletSchedule rfl rfl rfl _⟩

end Schedule

end Disbursement
