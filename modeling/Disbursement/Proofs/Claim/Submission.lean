import Disbursement.Proofs.Claim.Solvency
import Disbursement.Proofs.Merkle.Completeness
import Disbursement.Proofs.Schedule
import Mathlib.Data.List.Induction

/-!
# No entitled claim is lost

A schedule is created over the tree of a distribution, and the beneficiaries submit their
allocations with the proofs that the tree has for them, each not before it unlocks, in any order and
as often as they like. Between submissions any claims may be made that are refused.

* `Unlocked` says when an allocation may be claimed, layout by layout, and `Submits` what it takes
  to submit it. `Orderly` is a run of submissions and refused claims.
* `passes_of_submits`: a submission passes every check but that of its slot, whatever was claimed
  before.
* `OnlySubmitted` is the invariant of an orderly run: the schedule is still active, and the bits
  that are set are those of the allocations submitted so far.
* `no_entitled_claim_is_lost`: the first submission of an allocation is paid, every later one is
  refused as redeemed, and after all of them every bit is set and counted.
-/

namespace Disbursement

/-! ## Presented claims -/

/-- A claim as it is presented, with or without a marker. -/
structure Presentation where
  claim : Claim
  marker : Option Marker
  now : Int64

/-- A claim that is presented, as a move of the schedule. -/
def Presentation.move (p : Presentation) : ScheduleMove :=
  .claim p.claim p.marker p.now

namespace Schedule

/-- What a presented claim is answered: what is owed, or why it is refused. -/
def answer (s : Schedule) (p : Presentation) : Except Refusal Payout :=
  (p.claim.settle s p.marker p.now).map Settlement.payout

/-- The schedule after claims were presented one after another. -/
def afterPresented (s : Schedule) (presented : List Presentation) : Schedule :=
  s.afterMoves (presented.map Presentation.move)

variable {s t : Schedule} {p : Presentation} {presented : List Presentation} {payout : Payout}
  {refusal : Refusal}

theorem afterPresented_append_singleton (s : Schedule) (presented : List Presentation)
    (p : Presentation) :
    s.afterPresented (presented ++ [p]) = (s.afterPresented presented).afterMove p.move := by
  unfold afterPresented afterMoves
  rw [List.map_append, List.foldl_append]
  rfl

/-- A refused claim changes nothing. -/
theorem afterMove_of_refused (h : s.answer p = .error refusal) : s.afterMove p.move = s := by
  rw [answer, map_eq_error_iff] at h
  rw [Presentation.move, afterMove, h]

/-! ## Submissions -/

/-- When an allocation is unlocked. A layout without a time waits for the schedule, one with a time
for the allocation, and those for token holders for both. -/
def Unlocked (encoding : LeafEncoding) (unlock leafTime now : Int64) : Prop :=
  match encoding with
  | .legacy | .multiLegacy => unlock ≤ now
  | .timestamped | .multiTimestamped => leafTime ≤ now
  | .nftSpecific | .nftCollection => unlock ≤ now ∧ leafTime ≤ now

theorem unlockTime_le_iff {leafTime now : Int64} :
    s.unlockTime leafTime ≤ now ↔ Unlocked s.leafEncoding s.unlock leafTime now := by
  unfold unlockTime Unlocked
  cases s.leafEncoding with
  | legacy | multiLegacy | timestamped | multiTimestamped => exact Iff.rfl
  | nftSpecific | nftCollection =>
    dsimp only
    split
    next hle => exact ⟨fun h => ⟨Int64.le_trans hle h, h⟩, And.right⟩
    next hlt =>
      have hle : leafTime ≤ s.unlock := (Int64.le_total _ _).resolve_right hlt
      exact ⟨fun h => ⟨h, Int64.le_trans hle h⟩, And.left⟩

/-- An allocation of a tree is presented to a schedule of this kind, with the proof that the tree
has for it, once it is unlocked. -/
structure Submits (s : Schedule) (tree : MerkleTree) (a : Allocation) (p : Presentation) :
    Prop where
  kind : p.claim.kind = s.kind
  allocation : p.claim.allocation = a
  proof : tree.proof? a.index.toNat = some p.claim.proof
  unlocked : Unlocked s.leafEncoding s.unlock a.timestamp p.now

/-- A run in which every claim submits one of these allocations or is refused. -/
def Orderly (s : Schedule) (tree : MerkleTree) (allocations : List Allocation)
    (presented : List Presentation) : Prop :=
  ∀ before p after, presented = before ++ p :: after →
    (∃ a ∈ allocations, Submits s tree a p) ∨
      ∃ refusal, (s.afterPresented before).answer p = .error refusal

theorem Orderly.of_append {tree : MerkleTree} {allocations : List Allocation}
    {later : List Presentation} (h : Orderly s tree allocations (presented ++ later)) :
    Orderly s tree allocations presented := by
  rintro before p after rfl
  exact h before p (after ++ later) (by simp)

/-- A schedule that was just created over a built tree, with a bit and a leaf for each
allocation. -/
structure NewOver (s : Schedule) (encoding : LeafEncoding) (allocations : List Allocation)
    (tree : MerkleTree) : Prop where
  built : MerkleTree.build encoding allocations = .ok tree
  root : s.root = tree.root
  userCount : s.userCount.toNat = allocations.length
  mode : s.kind.trackingMode = .bitmap
  layout : s.leafEncoding = encoding
  active : s.isActive = true
  redemptions : s.redemptions = .empty s.userCount

section

variable {encoding : LeafEncoding} {allocations : List Allocation} {tree : MerkleTree}
  {a : Allocation} (new : NewOver s encoding allocations tree)
include new

theorem NewOver.index_lt (ha : a ∈ allocations) : a.index.toNat < s.userCount.toNat := by
  obtain ⟨-, leaves, -, hcommits⟩ := MerkleTree.commits_of_build new.built
  obtain ⟨leaf, -, hget⟩ := hcommits.getElem?_of_mem a ha
  obtain ⟨hlt, -⟩ := List.getElem?_eq_some_iff.1 hget
  rw [new.userCount, ← hcommits.length_eq]
  exact hlt

theorem NewOver.eq_of_index_eq {c : Allocation} (ha : a ∈ allocations) (hc : c ∈ allocations)
    (h : a.index = c.index) : a = c :=
  MerkleTree.eq_of_index_eq new.built ha hc h

/-- Every index below the number of leaves is that of an allocation. -/
theorem NewOver.exists_index_eq {i : Nat} (hi : i < s.userCount.toNat) :
    ∃ a ∈ allocations, a.index.toNat = i := by
  obtain ⟨-, leaves, -, hcommits⟩ := MerkleTree.commits_of_build new.built
  rw [new.userCount, ← hcommits.length_eq] at hi
  obtain ⟨a, ha, hindex, -⟩ := hcommits.mem_of_getElem? i _ (List.getElem?_eq_getElem hi)
  exact ⟨a, ha, hindex⟩

/-- Every allocation can be submitted as soon as it is unlocked. -/
theorem NewOver.exists_submits (ha : a ∈ allocations) {now : Int64}
    (hnow : Unlocked encoding s.unlock a.timestamp now) :
    ∃ p, Submits s tree a p ∧ p.now = now := by
  obtain ⟨leaf, proof, -, hproof, -⟩ := MerkleTree.verify_of_build new.built ha
  exact ⟨⟨⟨s.kind, a, proof⟩, none, now⟩, ⟨rfl, rfl, hproof, by rw [new.layout]; exact hnow⟩, rfl⟩

/-- A submission passes every check but that of its slot, as long as the schedule is active. -/
theorem NewOver.passes_of_submits (ha : a ∈ allocations) (hsubmits : Submits s tree a p)
    (hcontinues : s.Continues t) (hactive : t.isActive = true) : p.claim.Passes t p.now := by
  obtain ⟨hkind, rfl, hproof, hunlocked⟩ := hsubmits
  obtain ⟨leaf, proof, hleaf, hproof', hverify⟩ := MerkleTree.verify_of_build new.built ha
  obtain rfl : p.claim.proof = proof := Option.some.inj (hproof.symm.trans hproof')
  obtain ⟨hlength, -⟩ := Merkle.verify_eq_ok_iff.1 hverify
  have hunlock : t.unlock = s.unlock := by rw [hcontinues.eq_with]
  have hcount : t.userCount = s.userCount := by rw [hcontinues.eq_with]
  exact
    { active := hactive
      kind := by rw [hcontinues.kind_eq, hkind]
      index := by rw [hcount]; exact UInt16.lt_iff_toNat_lt.2 (new.index_lt ha)
      proofLength := hlength
      unlocked := by
        rw [unlockTime_le_iff, hcontinues.leafEncoding_eq, hunlock]
        exact hunlocked
      committed := by
        rw [hcontinues.leafEncoding_eq, hcontinues.root_eq, new.layout, new.root]
        exact ⟨leaf, hleaf, hverify⟩ }

end

/-! ## Orderly runs -/

/-- The schedule after a run of submissions: still active, with the bits of what was submitted. -/
structure OnlySubmitted (s : Schedule) (tree : MerkleTree) (allocations : List Allocation)
    (presented : List Presentation) (t : Schedule) : Prop where
  continues : s.Continues t
  active : t.isActive = true
  bitAt_iff : ∀ position, t.redemptions.bitAt position = true ↔
    ∃ p ∈ presented, ∃ a ∈ allocations, Submits s tree a p ∧ a.index.toNat = position

section

variable {encoding : LeafEncoding} {allocations : List Allocation} {tree : MerkleTree}
  {a : Allocation}

theorem onlySubmitted_nil (new : NewOver s encoding allocations tree) :
    OnlySubmitted s tree allocations [] s where
  continues := .refl s
  active := new.active
  bitAt_iff position := by
    rw [new.redemptions, RedemptionBitmap.bitAt_empty]
    simp

/-- There is a bit for every allocation. -/
theorem OnlySubmitted.lt_size (h : OnlySubmitted s tree allocations presented t)
    (new : NewOver s encoding allocations tree) (ha : a ∈ allocations) :
    a.index.toNat < 8 * t.redemptions.size := by
  rw [h.continues.redemptions.size_eq, new.redemptions, RedemptionBitmap.size_empty]
  exact Nat.lt_of_lt_of_le (new.index_lt ha) (RedemptionBitmap.toNat_le_byteLength s.userCount)

/-- The bit of an allocation says whether it was submitted. -/
theorem OnlySubmitted.bitAt_index_iff (h : OnlySubmitted s tree allocations presented t)
    (new : NewOver s encoding allocations tree) (ha : a ∈ allocations) :
    t.redemptions.bitAt a.index.toNat = true ↔ ∃ p ∈ presented, Submits s tree a p := by
  rw [h.bitAt_iff]
  constructor
  · rintro ⟨p, hp, c, hc, hsubmits, hindex⟩
    obtain rfl := new.eq_of_index_eq hc ha (UInt16.toNat_inj.1 hindex)
    exact ⟨p, hp, hsubmits⟩
  · rintro ⟨p, hp, hsubmits⟩
    exact ⟨p, hp, a, ha, hsubmits, rfl⟩

/-- The bitmap decides on a submission. -/
theorem OnlySubmitted.settle_eq (h : OnlySubmitted s tree allocations presented t)
    (new : NewOver s encoding allocations tree) (ha : a ∈ allocations)
    (hsubmits : Submits s tree a p) :
    p.claim.settle t p.marker p.now = (t.redemptions.mark a.index).map fun marked =>
      { payout := .ofAllocation s a
        schedule := { t with redemptions := marked }
        marker := p.marker } := by
  have hmode : t.kind.trackingMode = .bitmap := by rw [h.continues.kind_eq, new.mode]
  have hpasses := new.passes_of_submits ha hsubmits h.continues h.active
  rw [Claim.settle_of_passes hpasses hmode, hsubmits.allocation, h.continues.ofAllocation_eq]

/-- A first submission is paid and sets the bit of its allocation. -/
theorem OnlySubmitted.settle_first (h : OnlySubmitted s tree allocations presented t)
    (new : NewOver s encoding allocations tree) (ha : a ∈ allocations)
    (hsubmits : Submits s tree a p) (hfirst : ∀ q ∈ presented, ¬Submits s tree a q) :
    ∃ marked, t.redemptions.mark a.index = .ok marked ∧
      p.claim.settle t p.marker p.now = .ok
        { payout := .ofAllocation s a
          schedule := { t with redemptions := marked }
          marker := p.marker } := by
  have hfree : t.redemptions.bitAt a.index.toNat = false := by
    rw [← Bool.not_eq_true, h.bitAt_index_iff new ha]
    rintro ⟨q, hq, hsubmits'⟩
    exact hfirst q hq hsubmits'
  obtain ⟨marked, hmark⟩ := RedemptionBitmap.exists_mark_iff.2 ⟨h.lt_size new ha, hfree⟩
  refine ⟨marked, hmark, ?_⟩
  rw [h.settle_eq new ha hsubmits, hmark]
  rfl

/-- A repeated submission is refused as redeemed. -/
theorem OnlySubmitted.settle_repeated (h : OnlySubmitted s tree allocations presented t)
    (new : NewOver s encoding allocations tree) (ha : a ∈ allocations)
    (hsubmits : Submits s tree a p) (hrepeated : ∃ q ∈ presented, Submits s tree a q) :
    p.claim.settle t p.marker p.now = .error .alreadyRedeemed := by
  have hset : t.redemptions.isRedeemed a.index = .ok true :=
    RedemptionBitmap.isRedeemed_eq_ok_iff_bitAt.2
      ⟨h.lt_size new ha, (h.bitAt_index_iff new ha).2 hrepeated⟩
  rw [h.settle_eq new ha hsubmits, RedemptionBitmap.mark_eq_alreadyRedeemed hset]
  rfl

/-- One more submission. -/
theorem OnlySubmitted.submit (h : OnlySubmitted s tree allocations presented t)
    (new : NewOver s encoding allocations tree) (ha : a ∈ allocations)
    (hsubmits : Submits s tree a p) :
    OnlySubmitted s tree allocations (presented ++ [p]) (t.afterMove p.move) := by
  rw [Presentation.move, afterMove]
  by_cases hrepeated : ∃ q ∈ presented, Submits s tree a q
  · -- the bit is set already, and stays the bit of an earlier submission
    rw [h.settle_repeated new ha hsubmits hrepeated]
    refine ⟨h.continues, h.active, fun position => ?_⟩
    rw [h.bitAt_iff]
    constructor
    · rintro ⟨q, hq, hrest⟩
      exact ⟨q, List.mem_append_left _ hq, hrest⟩
    · rintro ⟨q, hq, c, hc, hsubmits', rfl⟩
      rcases List.mem_append.1 hq with hq | hq
      · exact ⟨q, hq, c, hc, hsubmits', rfl⟩
      · obtain rfl := List.mem_singleton.1 hq
        obtain rfl : a = c := hsubmits.allocation.symm.trans hsubmits'.allocation
        obtain ⟨r, hr, hearlier⟩ := hrepeated
        exact ⟨r, hr, a, ha, hearlier, rfl⟩
  · have hfirst : ∀ q ∈ presented, ¬Submits s tree a q := fun q hq hearlier =>
      hrepeated ⟨q, hq, hearlier⟩
    obtain ⟨marked, hmark, hsettle⟩ := h.settle_first new ha hsubmits hfirst
    rw [hsettle]
    refine ⟨h.continues.trans (.of_mark hmark), h.active, fun position => ?_⟩
    rw [RedemptionBitmap.bitAt_mark hmark, Bool.or_eq_true, h.bitAt_iff, decide_eq_true_iff]
    constructor
    · rintro (⟨q, hq, hrest⟩ | rfl)
      · exact ⟨q, List.mem_append_left _ hq, hrest⟩
      · exact ⟨p, List.mem_append_right _ (List.mem_singleton_self p), a, ha, hsubmits, rfl⟩
    · rintro ⟨q, hq, c, hc, hsubmits', rfl⟩
      rcases List.mem_append.1 hq with hq | hq
      · exact .inl ⟨q, hq, c, hc, hsubmits', rfl⟩
      · obtain rfl := List.mem_singleton.1 hq
        obtain rfl : a = c := hsubmits.allocation.symm.trans hsubmits'.allocation
        exact .inr rfl

/-- One more claim that is refused and submits nothing. -/
theorem OnlySubmitted.refuse (h : OnlySubmitted s tree allocations presented t)
    (hrefused : t.answer p = .error refusal) (hother : ∀ a ∈ allocations, ¬Submits s tree a p) :
    OnlySubmitted s tree allocations (presented ++ [p]) (t.afterMove p.move) := by
  rw [afterMove_of_refused hrefused]
  refine ⟨h.continues, h.active, fun position => ?_⟩
  rw [h.bitAt_iff]
  constructor
  · rintro ⟨q, hq, hrest⟩
    exact ⟨q, List.mem_append_left _ hq, hrest⟩
  · rintro ⟨q, hq, c, hc, hsubmits, hindex⟩
    rcases List.mem_append.1 hq with hq | hq
    · exact ⟨q, hq, c, hc, hsubmits, hindex⟩
    · obtain rfl := List.mem_singleton.1 hq
      exact absurd hsubmits (hother c hc)

/-- The induction is on the run from its end, since what is asked of a claim depends on the claims
before it. -/
theorem onlySubmitted_afterPresented (new : NewOver s encoding allocations tree)
    (h : Orderly s tree allocations presented) :
    OnlySubmitted s tree allocations presented (s.afterPresented presented) := by
  induction presented using List.reverseRecOn with
  | nil => exact onlySubmitted_nil new
  | append_singleton presented p ih =>
    have hbefore := ih h.of_append
    rw [afterPresented_append_singleton]
    by_cases hsubmits : ∃ a ∈ allocations, Submits s tree a p
    · obtain ⟨a, ha, hsubmits⟩ := hsubmits
      exact hbefore.submit new ha hsubmits
    · rcases h presented p [] rfl with hentitled | ⟨refusal, hrefused⟩
      · exact absurd hentitled hsubmits
      · exact hbefore.refuse hrefused fun a ha hsubmits' => hsubmits ⟨a, ha, hsubmits'⟩

end

/-! ## The result -/

/-- Creating a schedule over a built tree succeeds. -/
theorem exists_create {encoding : LeafEncoding} {allocations : List Allocation} {tree : MerkleTree}
    {kind : ScheduleKind} {terms : ScheduleTerms}
    (built : MerkleTree.build encoding allocations = .ok tree) (root : terms.root = tree.root)
    (count : terms.userCount.toNat = allocations.length) (mode : kind.trackingMode = .bitmap)
    (layout : kind.leafEncoding terms.unlock = encoding) (vault : Address) (bump : UInt8)
    (created : Int64) :
    ∃ s, Schedule.create vault bump created kind terms = .ok s ∧
      NewOver s encoding allocations tree := by
  obtain ⟨hne, -⟩ := MerkleTree.commits_of_build built
  have hpositive : 0 < terms.userCount := by
    rw [UInt16.lt_iff_toNat_lt, count]
    exact List.length_pos_iff.2 hne
  obtain ⟨s, hcreate⟩ : ∃ s, Schedule.create vault bump created kind terms = .ok s :=
    ⟨_, create_eq_ok_iff.2 ⟨hpositive, rfl⟩⟩
  refine ⟨s, hcreate, ?_⟩
  obtain ⟨-, rfl⟩ := create_eq_ok_iff.1 hcreate
  exact
    { built
      root
      userCount := count
      mode
      layout
      active := rfl
      redemptions := by rw [trackedLeavesOf, mode] }

/-- No entitled claim is lost. A schedule over a built tree, with as many leaves as there are
allocations, can be created, and every allocation can be submitted from the time it unlocks. In
every run of submissions and refused claims, the first submission of an allocation is answered with
what it is owed, and each later one is refused as redeemed. After all allocations were submitted, as
many leaves are redeemed as there are, and each of them is. -/
theorem no_entitled_claim_is_lost {encoding : LeafEncoding} {allocations : List Allocation}
    {tree : MerkleTree} {kind : ScheduleKind} {terms : ScheduleTerms}
    (built : MerkleTree.build encoding allocations = .ok tree) (root : terms.root = tree.root)
    (count : terms.userCount.toNat = allocations.length) (mode : kind.trackingMode = .bitmap)
    (layout : kind.leafEncoding terms.unlock = encoding) (vault : Address) (bump : UInt8)
    (created : Int64) :
    ∃ s, Schedule.create vault bump created kind terms = .ok s ∧
      (∀ a ∈ allocations, ∀ now, Unlocked encoding terms.unlock a.timestamp now →
        ∃ p, Submits s tree a p ∧ p.now = now) ∧
      ∀ presented, Orderly s tree allocations presented →
        (∀ before p after, presented = before ++ p :: after →
          ∀ a ∈ allocations, Submits s tree a p →
            ((∀ q ∈ before, ¬Submits s tree a q) →
              (s.afterPresented before).answer p = .ok (.ofAllocation s a) ∧
                (Payout.ofAllocation s a).Owes s a) ∧
            ((∃ q ∈ before, Submits s tree a q) →
              (s.afterPresented before).answer p = .error .alreadyRedeemed)) ∧
        ((∀ a ∈ allocations, ∃ p ∈ presented, Submits s tree a p) →
          (s.afterPresented presented).redemptions.count = allocations.length ∧
          ∀ i : UInt16, i.toNat < allocations.length →
            (s.afterPresented presented).redemptions.isRedeemed i = .ok true) := by
  obtain ⟨s, hcreate, new⟩ := exists_create built root count mode layout vault bump created
  obtain ⟨-, hunlock, -⟩ := of_create hcreate
  refine ⟨s, hcreate, ?_, fun presented horderly => ⟨?_, fun hall => ?_⟩⟩
  · intro a ha now hnow
    exact new.exists_submits ha (by rw [hunlock]; exact hnow)
  · rintro before p after rfl a ha hsubmits
    have hbefore := onlySubmitted_afterPresented new horderly.of_append
    refine ⟨fun hfirst => ?_, fun hrepeated => ?_⟩
    · obtain ⟨marked, -, hsettle⟩ := hbefore.settle_first new ha hsubmits hfirst
      refine ⟨?_, Payout.owes_iff.2 rfl⟩
      rw [answer, hsettle]
      rfl
    · rw [answer, hbefore.settle_repeated new ha hsubmits hrepeated]
      rfl
  · have hdone := onlySubmitted_afterPresented new horderly
    have hsize : allocations.length ≤ 8 * (s.afterPresented presented).redemptions.size := by
      rw [hdone.continues.redemptions.size_eq, new.redemptions, RedemptionBitmap.size_empty,
        ← new.userCount]
      exact RedemptionBitmap.toNat_le_byteLength s.userCount
    have hbits (position : Nat) : (s.afterPresented presented).redemptions.bitAt position =
        decide (position < allocations.length) := by
      rw [Bool.eq_iff_iff, hdone.bitAt_iff, decide_eq_true_iff, ← new.userCount]
      constructor
      · rintro ⟨p, -, a, ha, -, rfl⟩
        exact new.index_lt ha
      · intro hlt
        obtain ⟨a, ha, rfl⟩ := new.exists_index_eq hlt
        obtain ⟨p, hp, hsubmits⟩ := hall a ha
        exact ⟨p, hp, a, ha, hsubmits, rfl⟩
    refine ⟨RedemptionBitmap.count_eq_of_bitAt hsize hbits, fun i hi => ?_⟩
    rw [RedemptionBitmap.isRedeemed_eq_ok_iff_bitAt, hbits, decide_eq_true_iff]
    exact ⟨Nat.lt_of_lt_of_le hi hsize, hi⟩

/-! ## A small run -/

open MerkleTree

/-- A run of submissions is orderly. -/
theorem orderly_of_forall_submits {tree : MerkleTree} {allocations : List Allocation}
    (h : ∀ p ∈ presented, ∃ a ∈ allocations, Submits s tree a p) :
    Orderly s tree allocations presented := by
  rintro before p after rfl
  exact .inl (h p (by simp))

/-- The claim of the first wallet. -/
def firstClaim : Claim where
  kind := .distribution
  allocation := firstWallet
  proof := [⟨secondLeaf, .right⟩]

theorem submits_firstClaim :
    Submits twoWalletSchedule (ofLeaves [firstLeaf, secondLeaf]) firstWallet
      ⟨firstClaim, none, 10⟩ where
  kind := rfl
  allocation := rfl
  proof := by
    have habove : Merkle.levelAbove [firstLeaf, secondLeaf] =
        [Merkle.hashNode firstLeaf secondLeaf] := rfl
    show (ofLeaves [firstLeaf, secondLeaf]).proof? 0 = _
    rw [proof?_ofLeaves (by simp) (by simp), habove, proof?_ofLeaves_singleton]
    rfl
  unlocked := by
    show (10 : Int64) ≤ 10
    decide

/-- The second wallet submits its claim from time twenty on. -/
theorem submits_secondClaim {now : Int64} (h : 20 ≤ now) :
    Submits twoWalletSchedule (ofLeaves [firstLeaf, secondLeaf]) secondWallet
      ⟨secondClaim, none, now⟩ where
  kind := rfl
  allocation := rfl
  proof := by
    have habove : Merkle.levelAbove [firstLeaf, secondLeaf] =
        [Merkle.hashNode firstLeaf secondLeaf] := rfl
    show (ofLeaves [firstLeaf, secondLeaf]).proof? 1 = _
    rw [proof?_ofLeaves (by simp) (by simp), habove, proof?_ofLeaves_singleton]
    rfl
  unlocked := h

/-- The second wallet is paid, then the first; a second claim of the second wallet is refused, and
both leaves are redeemed. -/
theorem submissions_of_two_wallets :
    let second : Presentation := ⟨secondClaim, none, 20⟩
    let first : Presentation := ⟨firstClaim, none, 10⟩
    let again : Presentation := ⟨secondClaim, none, 25⟩
    let s := twoWalletSchedule
    s.answer second = .ok (.ofAllocation s secondWallet) ∧
      (s.afterPresented [second]).answer first = .ok (.ofAllocation s firstWallet) ∧
      (s.afterPresented [second, first]).answer again = .error .alreadyRedeemed ∧
      (s.afterPresented [second, first, again]).redemptions.count = 2 ∧
      (s.afterPresented [second, first, again]).redemptions.isRedeemed 1 = .ok true := by
  intro second first again s
  have hmode : ScheduleKind.distribution.trackingMode = .bitmap := rfl
  have hroot : twoWalletTerms.root = (ofLeaves [firstLeaf, secondLeaf]).root := rfl
  obtain ⟨_, hcreate, -, hrun⟩ := no_entitled_claim_is_lost build_twoWallets hroot rfl hmode rfl
    (Bytes32.ofNatBE 4) 255 0
  obtain rfl : s = _ := Except.ok.inj (create_twoWalletSchedule.symm.trans hcreate)
  have hsecond := submits_secondClaim (show (20 : Int64) ≤ 20 by decide)
  have hfirst := submits_firstClaim
  have hagain := submits_secondClaim (show (20 : Int64) ≤ 25 by decide)
  obtain ⟨hanswers, hdone⟩ := hrun [second, first, again] <| orderly_of_forall_submits (by
    simp only [List.mem_cons, List.not_mem_nil, or_false]
    rintro p (rfl | rfl | rfl)
    · exact ⟨secondWallet, .inl rfl, hsecond⟩
    · exact ⟨firstWallet, .inr rfl, hfirst⟩
    · exact ⟨secondWallet, .inl rfl, hagain⟩)
  have hother : ¬Submits s (ofLeaves [firstLeaf, secondLeaf]) firstWallet second := fun h =>
    absurd h.allocation (by decide)
  obtain ⟨hcount, hredeemed⟩ := hdone (by
    simp only [List.mem_cons, List.not_mem_nil, or_false]
    rintro a (rfl | rfl)
    · exact ⟨second, .inl rfl, hsecond⟩
    · exact ⟨first, .inr (.inl rfl), hfirst⟩)
  refine ⟨?_, ?_, ?_, hcount, hredeemed 1 (by decide)⟩
  · exact ((hanswers [] second [first, again] rfl secondWallet (by simp) hsecond).1 (by simp)).1
  · exact ((hanswers [second] first [again] rfl firstWallet (by simp) hfirst).1
      (by simpa using hother)).1
  · exact (hanswers [second, first] again [] rfl secondWallet (by simp) hagain).2
      ⟨second, by simp, hsecond⟩

end Schedule

end Disbursement
