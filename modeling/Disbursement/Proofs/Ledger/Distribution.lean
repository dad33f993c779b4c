import Disbursement.Proofs.Claim.Submission
import Disbursement.Proofs.Ledger.Accounting
import Mathlib.Algebra.Order.BigOperators.Group.List
import Mathlib.Algebra.Order.Group.Nat

/-!
# Funded distributions are paid out exactly

A ledger has a new schedule that pays wallets and asks nothing of them, and its vault has custody of
all that was committed. The wallets submit their allocations, in any order and as often as they
like. Then each allocation is paid once: its first submission succeeds, since what is still owed is
still there, and every later one is refused as redeemed.

* `Schedule.redeemed` are the allocations whose bit is set. A claim adds one to them
  (`perm_redeemed_mark`), so sums over them grow by what it is owed.
* `FundedDistribution` is the ledger the run starts from, and `Paying` the invariant of the run:
  wallets hold what they had and what was redeemed for them, custody what it had less all that was
  redeemed.
* `funded_distribution_is_paid_out` is the result.
-/

namespace Disbursement

/-! ## Redeemed allocations -/

/-- The allocations that pay a wallet. -/
def allocationsOf (allocations : List Allocation) (owner : Address) : List Allocation :=
  allocations.filter fun a => a.beneficiary = .wallet owner

/-- The allocations whose bit is set. -/
def Schedule.redeemed (s : Schedule) (allocations : List Allocation) : List Allocation :=
  allocations.filter fun a => s.redemptions.bitAt a.index.toNat

section

variable {s t : Schedule} {allocations others : List Allocation} {a : Allocation}
  {mint owner : Address} {marked : RedemptionBitmap}

theorem totalCommitted_cons (a : Allocation) (allocations : List Allocation) (s : Schedule)
    (mint : Address) : totalCommitted (a :: allocations) s mint =
      a.amountIn s mint + totalCommitted allocations s mint :=
  rfl

theorem totalCommitted_allocationsOf_cons (a : Allocation) (allocations : List Allocation)
    (s : Schedule) (mint owner : Address) :
    totalCommitted (allocationsOf (a :: allocations) owner) s mint =
      (if a.beneficiary = .wallet owner then a.amountIn s mint else 0) +
        totalCommitted (allocationsOf allocations owner) s mint := by
  unfold allocationsOf
  rw [List.filter_cons]
  by_cases hwallet : a.beneficiary = .wallet owner
  · rw [if_pos (decide_eq_true hwallet), if_pos hwallet, totalCommitted_cons]
  · rw [if_neg (by simp [hwallet]), if_neg hwallet, Nat.zero_add]

theorem totalCommitted_perm (h : allocations.Perm others) :
    totalCommitted allocations s mint = totalCommitted others s mint :=
  (h.map _).sum_nat

theorem totalCommitted_le_of_subperm (h : allocations.Subperm others) :
    totalCommitted allocations s mint ≤ totalCommitted others s mint := by
  obtain ⟨same, hperm, hsublist⟩ := h
  rw [← totalCommitted_perm hperm]
  exact (hsublist.map _).sum_le_sum fun _ _ => Nat.zero_le _

theorem allocationsOf_perm (h : allocations.Perm others) (owner : Address) :
    (allocationsOf allocations owner).Perm (allocationsOf others owner) :=
  h.filter _

theorem allocationsOf_subperm (h : allocations.Subperm others) (owner : Address) :
    (allocationsOf allocations owner).Subperm (allocationsOf others owner) :=
  h.filter _

theorem nodup_cons_redeemed (hnodup : allocations.Nodup)
    (hfree : t.redemptions.bitAt a.index.toNat = false) :
    (a :: t.redeemed allocations).Nodup := by
  refine List.nodup_cons.2 ⟨fun hmem => ?_, hnodup.filter _⟩
  have hset := (List.mem_filter.1 hmem).2
  rw [hfree] at hset
  exact Bool.false_ne_true hset

/-- An allocation that is not redeemed is committed besides those that are. -/
theorem subperm_cons_redeemed (hnodup : allocations.Nodup) (ha : a ∈ allocations)
    (hfree : t.redemptions.bitAt a.index.toNat = false) :
    (a :: t.redeemed allocations).Subperm allocations :=
  List.subperm_of_subset (nodup_cons_redeemed hnodup hfree)
    (List.cons_subset.2 ⟨ha, List.filter_sublist.subset⟩)

/-- Marking the bit of an allocation makes it one of those that are redeemed. -/
theorem perm_redeemed_mark (hnodup : (allocations.map Allocation.index).Nodup)
    (ha : a ∈ allocations) (hmark : t.redemptions.mark a.index = .ok marked) :
    ({ t with redemptions := marked }.redeemed allocations).Perm (a :: t.redeemed allocations) := by
  have hfree := (RedemptionBitmap.exists_mark_iff.1 ⟨marked, hmark⟩).2
  refine (List.perm_ext_iff_of_nodup (hnodup.of_map.filter _)
    (nodup_cons_redeemed hnodup.of_map hfree)).2 fun c => ?_
  rw [List.mem_cons]
  unfold Schedule.redeemed
  rw [List.mem_filter, List.mem_filter, RedemptionBitmap.bitAt_mark hmark, Bool.or_eq_true,
    decide_eq_true_iff, UInt16.toNat_inj]
  constructor
  · rintro ⟨hc, hset | hindex⟩
    · exact .inr ⟨hc, hset⟩
    · exact .inl (List.inj_on_of_nodup_map hnodup hc ha hindex.symm)
  · rintro (rfl | ⟨hc, hset⟩)
    · exact ⟨ha, .inr rfl⟩
    · exact ⟨hc, .inl hset⟩

end

/-! ## Claims of wallets -/

/-- A request to redeem that a user makes at some time. -/
structure LedgerClaim where
  now : Int64
  user : Address
  request : RedeemRequest

namespace LedgerClaim

/-- What the schedule sees of the claim. -/
def presentation (c : LedgerClaim) : Presentation where
  claim := c.request.claim c.user
  marker := none
  now := c.now

/-- The clock is set, then the request made. -/
def operations (c : LedgerClaim) (address : Address) : List LedgerOperation :=
  [.setNow c.now, .redeem c.user address c.request]

end LedgerClaim

namespace Ledger

variable {l m paid : Ledger} {address signer owner mint : Address} {c : LedgerClaim}
  {claims : List LedgerClaim} {s t : Schedule} {encoding : LeafEncoding}
  {allocations : List Allocation} {tree : MerkleTree} {a : Allocation} {settlement : Settlement}
  {refusal : Refusal}

/-- What a claim is answered. -/
def answer (l : Ledger) (address : Address) (c : LedgerClaim) : Except Failure Payout :=
  ({ l with now := c.now }.redeem c.user address c.request).map Prod.fst

/-- The ledger after claims were made one after another. -/
def afterClaims (l : Ledger) (address : Address) (claims : List LedgerClaim) : Ledger :=
  l.after (claims.flatMap fun c => c.operations address)

theorem afterClaims_append_singleton (l : Ledger) (address : Address) (claims : List LedgerClaim)
    (c : LedgerClaim) : l.afterClaims address (claims ++ [c]) =
      (({ l.afterClaims address claims with now := c.now } : Ledger).transact
        (.redeem c.user address c.request)).2 := by
  unfold afterClaims after
  rw [List.flatMap_append, List.foldl_append]
  have hclock (m : Ledger) : (m.transact (.setNow c.now)).2 = { m with now := c.now } := by
    rw [transact_eq_perform]
    rfl
  show (transact (transact _ (.setNow c.now)).2 _).2 = _
  rw [hclock]

/-- A request without a token, to a schedule with a bitmap: what remains to be decided. -/
theorem redeem_eq_of_bitmap {user : Address} {r : RedeemRequest}
    (hnone : r.entitlement.token? = none)
    (hfound : l.schedule? address = some t) (hmode : t.kind.trackingMode = .bitmap)
    (hsigner : signerOf t.vault = .ok signer) :
    l.redeem user address r = (do
      let settlement ← (r.claim user).settle t none l.now
      let paid ← l.payOut user signer t.sendingAccount settlement.payout
      return (settlement.payout, paid.update address (.schedule settlement.schedule))) := by
  have hpassed : l.passGate user r.entitlement = .ok () := by
    rw [passGate, hnone]
    rfl
  have hloaded : l.schedule address = .ok t := by
    rw [schedule, hfound]
    rfl
  have hslot : l.findMarker t r = .ok none := by
    rw [findMarker, hmode]
    rfl
  have hlift {α : Type} (value : α) :
      (liftM (Except.ok value : Except Refusal α) : Except Failure α) = .ok value := rfl
  simp only [redeem, hpassed, hloaded, hlift, ok_bind, hslot, hsigner, Option.map_none]

/-! ## The run -/

/-- A ledger with a schedule that was just created over a built tree, pays wallets other than the
custody signer and asks nothing of them, where custody has all that was committed, and no wallet has
too much to be paid. -/
structure FundedDistribution (l : Ledger) (address signer : Address) (s : Schedule)
    (encoding : LeafEncoding) (allocations : List Allocation) (tree : MerkleTree) : Prop where
  stored : l.schedule? address = some s
  new : s.NewOver encoding allocations tree
  toWallets : s.kind = .distribution ∨ s.kind = .multi
  signerOf : Ledger.signerOf s.vault = .ok signer
  free : ∀ a ∈ allocations, a.sendingAmount = 0
  apart : ∀ a ∈ allocations, a.beneficiary ≠ .wallet signer
  covered : ∀ mint, totalCommitted allocations s mint ≤ l.holdings mint signer
  room : ∀ a ∈ allocations, ∀ owner, a.beneficiary = .wallet owner → ∀ mint,
    l.holdings mint owner + totalCommitted (allocationsOf allocations owner) s mint < 2 ^ 64

/-- The ledger after a run of claims: wallets have received what was redeemed for them, and custody
has paid it. -/
structure Paying (l : Ledger) (address signer : Address) (s : Schedule) (tree : MerkleTree)
    (allocations : List Allocation) (claims : List LedgerClaim) (m : Ledger) (t : Schedule) :
    Prop where
  submitted : s.OnlySubmitted tree allocations (claims.map LedgerClaim.presentation) t
  stored : m.schedule? address = some t
  wallets : ∀ owner, owner ≠ signer → ∀ mint, m.holdings mint owner =
    l.holdings mint owner + totalCommitted (allocationsOf (t.redeemed allocations) owner) s mint
  custody : ∀ mint, m.holdings mint signer + totalCommitted (t.redeemed allocations) s mint =
    l.holdings mint signer

/-- No allocation is redeemed before the first claim. -/
theorem FundedDistribution.paying
    (h : l.FundedDistribution address signer s encoding allocations tree) :
    Paying l address signer s tree allocations [] l s := by
  have hnone : s.redeemed allocations = [] := by
    rw [Schedule.redeemed, h.new.redemptions]
    simp
  refine
    { submitted := Schedule.onlySubmitted_nil h.new
      stored := h.stored
      wallets := fun owner _ mint => ?_
      custody := fun mint => ?_ }
  · rw [hnone]
    rfl
  · rw [hnone]
    rfl

theorem FundedDistribution.nodup_index
    (h : l.FundedDistribution address signer s encoding allocations tree) :
    (allocations.map Allocation.index).Nodup := by
  obtain ⟨-, leaves, -, hcommits⟩ := MerkleTree.commits_of_build h.new.built
  exact hcommits.nodup

/-- A submission is made by the wallet that the allocation pays. -/
theorem FundedDistribution.toWallet
    (h : l.FundedDistribution address signer s encoding allocations tree)
    (hsubmits : Schedule.Submits s tree a c.presentation) :
    c.request.entitlement.token? = none ∧ a.beneficiary = .wallet c.user := by
  have hkind : c.request.entitlement.kind = s.kind := hsubmits.kind
  obtain ⟨hnone, hwallet⟩ := Entitlement.wallet_of_kind (hkind ▸ h.toWallets)
  refine ⟨hnone, ?_⟩
  rw [← hsubmits.allocation]
  exact hwallet c.user

section

variable (hpaying : Paying l address signer s tree allocations claims m t)
  (h : l.FundedDistribution address signer s encoding allocations tree)
  (ha : a ∈ allocations) (hsubmits : Schedule.Submits s tree a c.presentation)

section

include hpaying h hsubmits

/-- A submission comes down to the slot and the payment. -/
theorem Paying.redeem_eq : ({ m with now := c.now } : Ledger).redeem c.user address c.request = (do
    let settlement ← c.presentation.claim.settle t none c.now
    let paid ← ({ m with now := c.now } : Ledger).payOut c.user signer t.sendingAccount
      settlement.payout
    return (settlement.payout, paid.update address (.schedule settlement.schedule))) := by
  have hmode : t.kind.trackingMode = .bitmap := by
    rw [hpaying.submitted.continues.kind_eq, h.new.mode]
  have hsigner : Ledger.signerOf t.vault = .ok signer := by
    rw [hpaying.submitted.continues.eq_with]
    exact h.signerOf
  exact redeem_eq_of_bitmap (h.toWallet hsubmits).1 hpaying.stored hmode hsigner

end

include hpaying h ha hsubmits

/-- A repeated submission is refused, and nothing is paid. -/
theorem Paying.again (hrepeated : ∃ q ∈ claims, Schedule.Submits s tree a q.presentation) :
    ({ m with now := c.now } : Ledger).redeem c.user address c.request =
      .error (.refusal .alreadyRedeemed) ∧
    Paying l address signer s tree allocations (claims ++ [c]) { m with now := c.now } t := by
  have hpresented : ∃ q ∈ claims.map LedgerClaim.presentation, Schedule.Submits s tree a q := by
    obtain ⟨q, hq, hearlier⟩ := hrepeated
    exact ⟨q.presentation, List.mem_map_of_mem hq, hearlier⟩
  have hsettle := hpaying.submitted.settle_repeated h.new ha hsubmits hpresented
  refine ⟨?_, ?_, hpaying.stored, hpaying.wallets, hpaying.custody⟩
  · rw [hpaying.redeem_eq h hsubmits]
    show (liftM (c.presentation.claim.settle t c.presentation.marker c.presentation.now) >>= _) = _
    rw [hsettle]
    rfl
  · have hsubmitted := hpaying.submitted.submit h.new ha hsubmits
    rw [Presentation.move, Schedule.afterMove, hsettle] at hsubmitted
    rwa [List.map_append]

/-- What a first submission is owed is still there, and there is room for it. -/
theorem Paying.affordable (hfree : t.redemptions.bitAt a.index.toNat = false) :
    a.receivingAmount.toNat ≤ m.holdings (a.receivingMint.getD s.receivingMint) signer ∧
      m.holdings (a.receivingMint.getD s.receivingMint) c.user + a.receivingAmount.toNat <
        2 ^ 64 := by
  set mint := a.receivingMint.getD s.receivingMint with hmint
  have hamount : a.amountIn s mint = a.receivingAmount.toNat := if_pos rfl
  obtain ⟨-, hwallet⟩ := h.toWallet hsubmits
  have hne : c.user ≠ signer := by
    rintro rfl
    exact h.apart a ha hwallet
  have hsubperm := subperm_cons_redeemed (h.nodup_index.of_map) ha hfree
  constructor
  · have hle : totalCommitted (a :: t.redeemed allocations) s mint ≤
        totalCommitted allocations s mint := totalCommitted_le_of_subperm hsubperm
    rw [totalCommitted_cons, hamount] at hle
    have hcovered := h.covered mint
    have hcustody := hpaying.custody mint
    omega
  · have hle : totalCommitted (allocationsOf (a :: t.redeemed allocations) c.user) s mint ≤
        totalCommitted (allocationsOf allocations c.user) s mint :=
      totalCommitted_le_of_subperm (allocationsOf_subperm hsubperm c.user)
    rw [totalCommitted_allocationsOf_cons, if_pos hwallet, hamount] at hle
    have hroom := h.room a ha c.user hwallet mint
    rw [hpaying.wallets c.user hne mint]
    omega

/-- The transfer to the wallet of a first submission keeps the accounts. -/
theorem Paying.transfer {marked : RedemptionBitmap} {paid : Ledger}
    (hmark : t.redemptions.mark a.index = .ok marked)
    (hcarries : (receivingTransfer s signer c.user a).Carries m.holdings paid.holdings) :
    (∀ owner, owner ≠ signer → ∀ mint, paid.holdings mint owner = l.holdings mint owner +
      totalCommitted (allocationsOf ({ t with redemptions := marked }.redeemed allocations) owner)
        s mint) ∧
    ∀ mint, paid.holdings mint signer +
      totalCommitted ({ t with redemptions := marked }.redeemed allocations) s mint =
        l.holdings mint signer := by
  have hredeemed := perm_redeemed_mark h.nodup_index ha hmark
  have hwallet := (h.toWallet hsubmits).2
  have hne : signer ≠ c.user := by
    rintro rfl
    exact h.apart a ha hwallet
  refine ⟨fun owner howner mint => ?_, fun mint => ?_⟩
  · have hgrown : paid.holdings mint owner = m.holdings mint owner +
        (if a.receivingMint.getD s.receivingMint = mint ∧ owner = c.user then
          a.receivingAmount.toNat else 0) := hcarries.eq_add howner mint
    have hshare : (if a.receivingMint.getD s.receivingMint = mint ∧ owner = c.user then
        a.receivingAmount.toNat else 0) =
          if a.beneficiary = .wallet owner then a.amountIn s mint else 0 := by
      by_cases howns : owner = c.user
      · simp only [howns, hwallet, and_true, if_true]
        rfl
      · have hnot : a.beneficiary ≠ .wallet owner := by
          rw [hwallet]
          exact fun hsame => howns (Beneficiary.wallet.inj hsame).symm
        rw [if_neg fun hboth => howns hboth.2, if_neg hnot]
    rw [totalCommitted_perm (allocationsOf_perm hredeemed owner), totalCommitted_allocationsOf_cons,
      hgrown, hshare, hpaying.wallets owner howner mint]
    omega
  · have hsource := hcarries.source_add hne mint
    rw [totalCommitted_perm hredeemed, totalCommitted_cons, ← hpaying.custody mint, ← Nat.add_assoc]
    exact congrArg (· + _) hsource

/-- A first submission is paid. -/
theorem Paying.pay (hfirst : ∀ q ∈ claims, ¬Schedule.Submits s tree a q.presentation) :
    ∃ m' t', ({ m with now := c.now } : Ledger).redeem c.user address c.request =
        .ok (.ofAllocation s a, m') ∧
      Paying l address signer s tree allocations (claims ++ [c]) m' t' := by
  have hpresented : ∀ q ∈ claims.map LedgerClaim.presentation, ¬Schedule.Submits s tree a q := by
    intro q hq
    obtain ⟨earlier, hearlier, rfl⟩ := List.mem_map.1 hq
    exact hfirst earlier hearlier
  obtain ⟨marked, hmark, hsettle⟩ := hpaying.submitted.settle_first h.new ha hsubmits hpresented
  have hfree := (RedemptionBitmap.exists_mark_iff.1 ⟨marked, hmark⟩).2
  have hne : signer ≠ c.user := by
    rintro rfl
    exact h.apart a ha (h.toWallet hsubmits).2
  obtain ⟨hheld, hroom⟩ := hpaying.affordable h ha hsubmits hfree
  obtain ⟨paid, hpaid⟩ := exists_move (l := { m with now := c.now }) hne hheld hroom
  have hcarries : (receivingTransfer s signer c.user a).Carries m.holdings paid.holdings :=
    carries_move (l := { m with now := c.now }) hpaid
  obtain ⟨hwallets, hcustody⟩ := hpaying.transfer h ha hsubmits hmark hcarries
  refine ⟨paid.update address (.schedule { t with redemptions := marked }),
    { t with redemptions := marked }, ?_, ?_, ?_, hwallets, hcustody⟩
  · rw [hpaying.redeem_eq h hsubmits,
      show c.presentation.claim.settle t none c.now = _ from hsettle]
    show (liftM (payOut _ c.user signer t.sendingAccount (.ofAllocation s a)) >>= _ :
      Except Failure (Payout × Ledger)) = _
    rw [payOut_of_free (h.free a ha), hpaid]
    rfl
  · have hsubmitted := hpaying.submitted.submit h.new ha hsubmits
    rw [Presentation.move, Schedule.afterMove, hsettle] at hsubmitted
    rwa [List.map_append]
  · have hthere : paid.arena.get? address = some (.schedule t) := by
      rw [arena_move hpaid]
      exact schedule?_eq_some_iff.1 hpaying.stored
    exact schedule?_eq_some_iff.2 (Arena.get?_update_self hthere)

end

/-- After any run of submissions. The induction is on the run from its end, since each claim finds
what the claims before it have left. -/
theorem FundedDistribution.paying_afterClaims
    (h : l.FundedDistribution address signer s encoding allocations tree)
    (hclaims : ∀ c ∈ claims, ∃ a ∈ allocations, Schedule.Submits s tree a c.presentation) :
    ∃ t, Paying l address signer s tree allocations claims (l.afterClaims address claims) t := by
  induction claims using List.reverseRecOn with
  | nil => exact ⟨s, h.paying⟩
  | append_singleton claims c ih =>
    obtain ⟨t, hpaying⟩ := ih fun q hq => hclaims q (List.mem_append_left _ hq)
    obtain ⟨a, ha, hsubmits⟩ := hclaims c (List.mem_append_right _ (List.mem_singleton_self c))
    rw [afterClaims_append_singleton, transact_eq_perform]
    by_cases hrepeated : ∃ q ∈ claims, Schedule.Submits s tree a q.presentation
    · obtain ⟨hredeem, hagain⟩ := hpaying.again h ha hsubmits hrepeated
      refine ⟨t, ?_⟩
      rw [perform, hredeem]
      exact hagain
    · have hfirst : ∀ q ∈ claims, ¬Schedule.Submits s tree a q.presentation :=
        fun q hq hearlier => hrepeated ⟨q, hq, hearlier⟩
      obtain ⟨m, t', hredeem, hpaid⟩ := hpaying.pay h ha hsubmits hfirst
      refine ⟨t', ?_⟩
      rw [perform, hredeem]
      exact hpaid

/-! ## The result -/

/-- A claim repeats an earlier one if it is for the same index. -/
theorem FundedDistribution.repeats_iff
    (h : l.FundedDistribution address signer s encoding allocations tree)
    (hclaims : ∀ c ∈ claims, ∃ a ∈ allocations, Schedule.Submits s tree a c.presentation)
    (ha : a ∈ allocations) :
    (∃ q ∈ claims, Schedule.Submits s tree a q.presentation) ↔
      ∃ q ∈ claims, q.request.index = a.index := by
  constructor
  · rintro ⟨q, hq, hsubmits⟩
    exact ⟨q, hq, congrArg Allocation.index hsubmits.allocation⟩
  · rintro ⟨q, hq, hindex⟩
    obtain ⟨b, hb, hsubmits⟩ := hclaims q hq
    have hsame : b.index = a.index := by
      rw [← hsubmits.allocation]
      exact hindex
    obtain rfl := h.new.eq_of_index_eq hb ha hsame
    exact ⟨q, hq, hsubmits⟩

/-- A funded distribution is paid out exactly. When wallets submit their allocations in any order
and as often as they like, the first claim for each index is paid what the allocation says, and each
later one is refused as redeemed. Once there was a claim for every allocation, each wallet has
received the sum of its allocations in every mint, and custody has paid what was committed. -/
theorem funded_distribution_is_paid_out
    (h : l.FundedDistribution address signer s encoding allocations tree)
    (hclaims : ∀ c ∈ claims, ∃ a ∈ allocations, Schedule.Submits s tree a c.presentation) :
    (∀ before c after, claims = before ++ c :: after →
      (l.afterClaims address before).answer address c =
        if ∃ q ∈ before, q.request.index = c.request.index then
          .error (.refusal .alreadyRedeemed)
        else .ok (.ofAllocation s (c.request.allocation c.user))) ∧
    ((∀ a ∈ allocations, ∃ c ∈ claims, c.request.index = a.index) →
      (∀ owner, owner ≠ signer → ∀ mint, (l.afterClaims address claims).holdings mint owner =
        l.holdings mint owner + totalCommitted (allocationsOf allocations owner) s mint) ∧
      ∀ mint, (l.afterClaims address claims).holdings mint signer +
        totalCommitted allocations s mint = l.holdings mint signer) := by
  refine ⟨?_, fun hall => ?_⟩
  · rintro before c after rfl
    have hbefore : ∀ q ∈ before, ∃ a ∈ allocations, Schedule.Submits s tree a q.presentation :=
      fun q hq => hclaims q (List.mem_append_left _ hq)
    obtain ⟨t, hpaying⟩ := h.paying_afterClaims hbefore
    obtain ⟨a, ha, hsubmits⟩ := hclaims c (by simp)
    obtain rfl : c.request.allocation c.user = a := hsubmits.allocation
    have hrepeats := h.repeats_iff hbefore ha
    rw [answer]
    split
    next hearlier =>
      rw [(hpaying.again h ha hsubmits (hrepeats.2 hearlier)).1]
      rfl
    next hnew =>
      have hfirst : ∀ q ∈ before, ¬Schedule.Submits s tree _ q.presentation :=
        fun q hq hearlier => hnew (hrepeats.1 ⟨q, hq, hearlier⟩)
      obtain ⟨m, t', hredeem, -⟩ := hpaying.pay h ha hsubmits hfirst
      rw [hredeem]
      rfl
  · obtain ⟨t, hpaying⟩ := h.paying_afterClaims hclaims
    have hdone : t.redeemed allocations = allocations := by
      refine List.filter_eq_self.2 fun a ha => ?_
      rw [hpaying.submitted.bitAt_index_iff h.new ha]
      obtain ⟨c, hc, hsubmits⟩ := (h.repeats_iff hclaims ha).2 (hall a ha)
      exact ⟨c.presentation, List.mem_map_of_mem hc, hsubmits⟩
    have hwallets := hpaying.wallets
    have hcustody := hpaying.custody
    rw [hdone] at hwallets hcustody
    exact ⟨hwallets, hcustody⟩

/-! ## A small run -/

open MerkleTree

/-- The first wallet, without being asked for anything. -/
def freeWallet : Allocation :=
  { firstWallet with sendingAmount := 0 }

/-- The hash of that allocation. -/
def freeLeaf : Digest :=
  (freeWallet.leafHash .timestamped).toOption.getD Bytes32.zero

/-- The schedule for it and the second wallet, just created. -/
def freeSchedule : Schedule :=
  (Schedule.create (Bytes32.ofNatBE 4) 255 0 .distribution
    { Schedule.twoWalletTerms with
      root := (ofLeaves [freeLeaf, secondLeaf]).root }).toOption.getD .blank

/-- The custody signer of its vault. -/
def freeSigner : Address :=
  Bytes32.ofNatBE 0xc4ea228a4b7b903f9c7ff27cf83c2454a207998516bad5624f8dee4f2fc54cd3

/-- A ledger with that schedule, where custody has just enough. -/
def freeLedger : Ledger :=
  ({ new with arena := {
      slot? := fun address => if address = Bytes32.ofNatBE 3 then some 0 else none
      records := [.schedule freeSchedule] } } : Ledger).fund freeSigner (Bytes32.ofNatBE 5) 12

theorem build_freeWallets :
    build .timestamped [secondWallet, freeWallet] = .ok (ofLeaves [freeLeaf, secondLeaf]) :=
  rfl

theorem signerOf_freeSchedule : Ledger.signerOf freeSchedule.vault = .ok freeSigner := by
  have hfound : (Ledger.signerOf freeSchedule.vault).toOption = some freeSigner := by
    decide +kernel
  exact toOption_eq_some_iff.1 hfound

theorem newOver_freeSchedule : freeSchedule.NewOver .timestamped [secondWallet, freeWallet]
    (ofLeaves [freeLeaf, secondLeaf]) where
  built := build_freeWallets
  root := rfl
  userCount := rfl
  mode := rfl
  layout := rfl
  active := rfl
  redemptions := rfl

theorem holdings_freeLedger (mint owner : Address) : freeLedger.holdings mint owner =
    if owner = freeSigner ∧ mint = Bytes32.ofNatBE 5 then 12 else 0 := by
  unfold freeLedger fund
  rw [holdings_putBalance]
  rfl

theorem totalCommitted_freeWallets (mint : Address) :
    totalCommitted [secondWallet, freeWallet] freeSchedule mint =
      if mint = Bytes32.ofNatBE 5 then 12 else 0 := by
  show (if Bytes32.ofNatBE 5 = mint then 5 else 0) +
    ((if Bytes32.ofNatBE 5 = mint then 7 else 0) + 0) = _
  by_cases hmint : mint = Bytes32.ofNatBE 5
  · simp only [if_pos hmint.symm, if_pos hmint, Nat.reduceAdd]
  · simp only [if_neg (Ne.symm hmint), if_neg hmint, Nat.reduceAdd]

theorem fundedDistribution_freeLedger : freeLedger.FundedDistribution (Bytes32.ofNatBE 3) freeSigner
    freeSchedule .timestamped [secondWallet, freeWallet] (ofLeaves [freeLeaf, secondLeaf]) where
  stored := rfl
  new := newOver_freeSchedule
  toWallets := .inl rfl
  signerOf := signerOf_freeSchedule
  free := by simp [secondWallet, freeWallet]
  apart := by decide
  covered mint := by
    rw [totalCommitted_freeWallets, holdings_freeLedger]
    simp
  room a ha owner hwallet mint := by
    have hle : totalCommitted (allocationsOf [secondWallet, freeWallet] owner) freeSchedule mint ≤
        totalCommitted [secondWallet, freeWallet] freeSchedule mint :=
      totalCommitted_le_of_subperm List.filter_sublist.subperm
    rw [totalCommitted_freeWallets] at hle
    rw [holdings_freeLedger]
    split at hle <;> split <;> omega

/-- The claim of the second wallet. -/
def secondRequest (now : Int64) : LedgerClaim where
  now
  user := Bytes32.ofNatBE 8
  request := {
    entitlement := .wallet
    index := 1
    timestamp := 20
    receivingAmount := 5
    sendingAmount := 0
    proof := [⟨freeLeaf, .left⟩] }

/-- The claim of the first wallet. -/
def freeRequest : LedgerClaim where
  now := 10
  user := Bytes32.ofNatBE 9
  request := {
    entitlement := .wallet
    index := 0
    timestamp := 10
    receivingAmount := 7
    sendingAmount := 0
    proof := [⟨secondLeaf, .right⟩] }

theorem submits_secondRequest {now : Int64} (h : 20 ≤ now) :
    freeSchedule.Submits (ofLeaves [freeLeaf, secondLeaf]) secondWallet
      (secondRequest now).presentation where
  kind := rfl
  allocation := rfl
  proof := by
    have habove : Merkle.levelAbove [freeLeaf, secondLeaf] =
        [Merkle.hashNode freeLeaf secondLeaf] := rfl
    show (ofLeaves [freeLeaf, secondLeaf]).proof? 1 = _
    rw [proof?_ofLeaves (by simp) (by simp), habove, proof?_ofLeaves_singleton]
    rfl
  unlocked := h

theorem submits_freeRequest :
    freeSchedule.Submits (ofLeaves [freeLeaf, secondLeaf]) freeWallet freeRequest.presentation where
  kind := rfl
  allocation := rfl
  proof := by
    have habove : Merkle.levelAbove [freeLeaf, secondLeaf] =
        [Merkle.hashNode freeLeaf secondLeaf] := rfl
    show (ofLeaves [freeLeaf, secondLeaf]).proof? 0 = _
    rw [proof?_ofLeaves (by simp) (by simp), habove, proof?_ofLeaves_singleton]
    rfl
  unlocked := by
    show (10 : Int64) ≤ 10
    decide

/-- The second wallet claims, then the first, then the second again in vain. Afterwards they have
five and seven, and custody has nothing. -/
theorem payout_of_free_distribution :
    let claims := [secondRequest 20, freeRequest, secondRequest 25]
    let schedule := Bytes32.ofNatBE 3
    let mint := Bytes32.ofNatBE 5
    freeLedger.answer schedule (secondRequest 20) = .ok (.ofAllocation freeSchedule secondWallet) ∧
      (freeLedger.afterClaims schedule [secondRequest 20]).answer schedule freeRequest =
        .ok (.ofAllocation freeSchedule freeWallet) ∧
      (freeLedger.afterClaims schedule [secondRequest 20, freeRequest]).answer schedule
        (secondRequest 25) = .error (.refusal .alreadyRedeemed) ∧
      (freeLedger.afterClaims schedule claims).holdings mint (Bytes32.ofNatBE 8) = 5 ∧
      (freeLedger.afterClaims schedule claims).holdings mint (Bytes32.ofNatBE 9) = 7 ∧
      (freeLedger.afterClaims schedule claims).holdings mint freeSigner = 0 := by
  intro claims schedule mint
  have hsecond := submits_secondRequest (show (20 : Int64) ≤ 20 by decide)
  have hagain := submits_secondRequest (show (20 : Int64) ≤ 25 by decide)
  have hclaims : ∀ c ∈ claims, ∃ a ∈ [secondWallet, freeWallet],
      freeSchedule.Submits (ofLeaves [freeLeaf, secondLeaf]) a c.presentation := by
    simp only [claims, List.mem_cons, List.not_mem_nil, or_false]
    rintro c (rfl | rfl | rfl)
    · exact ⟨secondWallet, .inl rfl, hsecond⟩
    · exact ⟨freeWallet, .inr rfl, submits_freeRequest⟩
    · exact ⟨secondWallet, .inl rfl, hagain⟩
  obtain ⟨hanswers, hdone⟩ := funded_distribution_is_paid_out fundedDistribution_freeLedger hclaims
  obtain ⟨hwallets, hcustody⟩ := hdone (by
    simp only [claims, List.mem_cons, List.not_mem_nil, or_false]
    rintro a (rfl | rfl)
    · exact ⟨secondRequest 20, .inl rfl, rfl⟩
    · exact ⟨freeRequest, .inr (.inl rfl), rfl⟩)
  refine ⟨?_, ?_, ?_, ?_, ?_, ?_⟩
  · exact hanswers [] (secondRequest 20) [freeRequest, secondRequest 25] rfl
  · exact hanswers [secondRequest 20] freeRequest [secondRequest 25] rfl
  · exact hanswers [secondRequest 20, freeRequest] (secondRequest 25) [] rfl
  · exact hwallets (Bytes32.ofNatBE 8) (by decide) mint
  · exact hwallets (Bytes32.ofNatBE 9) (by decide) mint
  · have hleft := hcustody mint
    rw [totalCommitted_freeWallets, holdings_freeLedger, if_pos rfl, if_pos ⟨rfl, rfl⟩] at hleft
    exact Nat.add_right_cancel (hleft.trans (Nat.zero_add 12).symm)

end Ledger

end Disbursement
