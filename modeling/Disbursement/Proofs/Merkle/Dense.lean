import Disbursement.Proofs.Allocation.Leaf
import Disbursement.Proofs.Check
import Disbursement.Proofs.Merkle.Commitment

/-!
# Which distributions are built

A tree is built for the lists of allocations whose indices are `0, …, n - 1`, each of them once, and
that fit the layout; a list of another kind is refused for the first allocation that has no place.

* `Dense` says that of the indices. Nothing looks whether each index is used: as many different
  indices as there are allocations, none of them too large, leave none out (`dense_iff`).
* `buildConditions` lists what is tested, allocation by allocation, and `decides_build` says that
  nothing else is. An allocation is tested against those before it, which is what `Filled` says of
  the slots.
* `only_dense_distributions_are_built`: which lists are accepted, what the tree of an accepted list
  holds, how the others are refused, and that the order of the list does not matter.
-/

namespace Disbursement.MerkleTree

variable {encoding : LeafEncoding} {allocations others done rest : List Allocation}
  {a : Allocation} {slots : List (Option Digest)} {count : Nat} {tree : MerkleTree}

/-! ## Dense lists -/

/-- The indices of the allocations are exactly `0, …, n - 1`, each of them once, in some order. -/
def Dense (allocations : List Allocation) : Prop :=
  (allocations.map fun a => a.index.toNat).Perm (List.range allocations.length)

/-- No index too large and none used twice leave no index out. -/
theorem dense_iff : Dense allocations ↔
    (∀ a ∈ allocations, a.index.toNat < allocations.length) ∧
      (allocations.map Allocation.index).Nodup := by
  unfold Dense
  constructor
  · intro hperm
    refine ⟨?_, ?_⟩
    · intro a ha
      exact List.mem_range.1 (hperm.mem_iff.1 (List.mem_map_of_mem ha))
    · have hnodup := hperm.nodup_iff.2 List.nodup_range
      refine List.Nodup.of_map UInt16.toNat ?_
      rw [List.map_map]
      exact hnodup
  · rintro ⟨hrange, hnodup⟩
    have hsub : (allocations.map fun a => a.index.toNat) ⊆ List.range allocations.length := by
      intro i hi
      obtain ⟨a, ha, rfl⟩ := List.mem_map.1 hi
      exact List.mem_range.2 (hrange a ha)
    have hlength : (List.range allocations.length).length ≤
        (allocations.map fun a => a.index.toNat).length := by simp
    exact (List.subperm_of_subset (nodup_toNat_index hnodup) hsub).perm_of_length_le hlength

theorem Dense.perm (h : Dense allocations) (hperm : allocations.Perm others) : Dense others := by
  unfold Dense at h ⊢
  rw [← hperm.length_eq]
  exact (hperm.map _).symm.trans h

/-! ## What is tested -/

/-- What an allocation needs that comes behind others in a list of `count`: an index below `count`
that none of the others has, and to fit the layout. -/
def placeConditions (encoding : LeafEncoding) (count : Nat) (before : List Allocation)
    (a : Allocation) : List (Condition Refusal) :=
  [⟨a.index.toNat < count, .nonContiguousLeafIndex⟩,
    ⟨∀ b ∈ before, b.index ≠ a.index, .duplicateLeafIndex⟩,
    ⟨a.Fits encoding, .leafMismatch⟩]

/-- What the allocations of a list need, one after another, behind others in a list of `count`. -/
def placingConditions (encoding : LeafEncoding) (count : Nat) :
    List Allocation → List Allocation → List (Condition Refusal)
  | _, [] => []
  | before, a :: rest =>
    placeConditions encoding count before a ++ placingConditions encoding count (before ++ [a]) rest

/-- What a distribution needs: allocations, and a place for each of them in the order of the
list. -/
def buildConditions (encoding : LeafEncoding) (allocations : List Allocation) :
    List (Condition Refusal) :=
  ⟨allocations ≠ [], .emptyAllocation⟩ ::
    placingConditions encoding allocations.length [] allocations

/-- A slot is free as long as no allocation seen so far has its index. -/
theorem Filled.slot_eq_none_iff (h : Filled encoding done slots) {slot : Option Digest}
    (hslot : slots[a.index.toNat]? = some slot) :
    slot = none ↔ ∀ b ∈ done, b.index ≠ a.index := by
  constructor
  · rintro rfl b hb hindex
    obtain ⟨leaf, -, hused⟩ := h.getElem?_of_mem b hb
    rw [hindex, hslot] at hused
    exact absurd hused (by simp)
  · intro hother
    cases slot with
    | none => rfl
    | some leaf =>
      obtain ⟨b, hb, hindex, -⟩ := h.mem_of_getElem? _ leaf hslot
      exact absurd (UInt16.toNat_inj.1 hindex) (hother b hb)

theorem Filled.decides_place (h : Filled encoding done slots) (a : Allocation) :
    Decides (MerkleTree.place encoding slots a) (placeConditions encoding slots.length done a) := by
  unfold MerkleTree.place placeConditions
  have hrange : (∃ slot, slots[a.index.toNat]? = some slot) ↔ a.index.toNat < slots.length := by
    constructor
    · rintro ⟨slot, hslot⟩
      obtain ⟨hlt, -⟩ := List.getElem?_eq_some_iff.1 hslot
      exact hlt
    · intro hlt
      exact ⟨_, List.getElem?_eq_getElem hlt⟩
  refine (decides_demand hrange _).bind fun slot hslot => ?_
  refine (decides_ensure (h.slot_eq_none_iff (demand_eq_ok_iff.1 hslot)) _).bind fun _ _ => ?_
  exact (a.decides_leafHash encoding).bind fun leaf _ => decides_pure _

/-- Along the list each allocation is tested against those before it. -/
theorem Filled.decides_foldlM (h : Filled encoding done slots) (rest : List Allocation) :
    Decides (rest.foldlM (MerkleTree.place encoding) slots)
      (placingConditions encoding slots.length done rest) := by
  induction rest generalizing done slots with
  | nil => exact decides_pure slots
  | cons a rest ih =>
    rw [List.foldlM_cons]
    refine (h.decides_place a).bind fun next hplace => ?_
    obtain ⟨hnext, hlength⟩ := h.place hplace
    rw [← hlength]
    exact ih hnext

theorem decides_build (encoding : LeafEncoding) (allocations : List Allocation) :
    Decides (build encoding allocations) (buildConditions encoding allocations) := by
  have hnone : Filled encoding [] (List.replicate allocations.length none) := filled_nil _
  have hfold := hnone.decides_foldlM allocations
  rw [List.length_replicate] at hfold
  have hplaced := hfold.bind fun slots _ => decides_pure (ofLeaves (slots.filterMap id))
  rw [List.append_nil] at hplaced
  exact (decides_ensure .rfl _).bind fun _ _ => hplaced

/-! ## Which lists are accepted -/

theorem forall_placeConditions_iff {before : List Allocation} :
    (∀ c ∈ placeConditions encoding count before a, c.holds) ↔
      a.index.toNat < count ∧ (∀ b ∈ before, b.index ≠ a.index) ∧ a.Fits encoding := by
  simp [placeConditions]

theorem forall_placingConditions_iff {before : List Allocation}
    (hbefore : (before.map Allocation.index).Nodup) :
    (∀ c ∈ placingConditions encoding count before rest, c.holds) ↔
      (∀ a ∈ rest, a.index.toNat < count) ∧ ((before ++ rest).map Allocation.index).Nodup ∧
        ∀ a ∈ rest, a.Fits encoding := by
  induction rest generalizing before with
  | nil => simpa [placingConditions] using hbefore
  | cons a rest ih =>
    have hshift : before ++ a :: rest = before ++ [a] ++ rest := List.append_cons before a rest
    rw [placingConditions, List.forall_mem_append, forall_placeConditions_iff, hshift,
      List.forall_mem_cons, List.forall_mem_cons]
    constructor
    · rintro ⟨⟨hrange, hother, hfits⟩, hrest⟩
      obtain ⟨hranges, hnodup, hfit⟩ :=
        (ih (nodup_index_append_singleton.2 ⟨hbefore, hother⟩)).1 hrest
      exact ⟨⟨hrange, hranges⟩, hnodup, hfits, hfit⟩
    · rintro ⟨⟨hrange, hranges⟩, hnodup, hfits, hfit⟩
      have hfront : ((before ++ [a]).map Allocation.index).Nodup := by
        rw [List.map_append] at hnodup
        exact (List.nodup_append.1 hnodup).1
      obtain ⟨-, hother⟩ := nodup_index_append_singleton.1 hfront
      exact ⟨⟨hrange, hother, hfits⟩, (ih hfront).2 ⟨hranges, hnodup, hfit⟩⟩

theorem exists_build_iff : (∃ tree, build encoding allocations = .ok tree) ↔
    allocations ≠ [] ∧ Dense allocations ∧ ∀ a ∈ allocations, a.Fits encoding := by
  have hnone : (([] : List Allocation).map Allocation.index).Nodup := List.nodup_nil
  rw [(decides_build encoding allocations).ok_iff, buildConditions, List.forall_mem_cons,
    forall_placingConditions_iff hnone, List.nil_append, dense_iff, and_assoc]

/-- In another order the allocations make the same tree. -/
theorem build_eq_ok_of_perm (hperm : allocations.Perm others)
    (h : build encoding allocations = .ok tree) : build encoding others = .ok tree := by
  obtain ⟨hne, hdense, hfit⟩ := exists_build_iff.1 ⟨tree, h⟩
  have hfit' : ∀ a ∈ others, a.Fits encoding := fun a ha => hfit a (hperm.mem_iff.2 ha)
  have hne' : others ≠ [] := by
    rintro rfl
    exact hne hperm.eq_nil
  obtain ⟨tree', h'⟩ := exists_build_iff.2 ⟨hne', hdense.perm hperm, hfit'⟩
  obtain ⟨-, leaves, rfl, hcommits⟩ := commits_of_build h
  obtain ⟨-, leaves', rfl, hcommits'⟩ := commits_of_build h'
  rw [h', hcommits.unique hcommits' hperm]

/-- A tree is built for a distribution if and only if it is not empty, its indices are dense and its
allocations fit the layout. The tree then has one leaf for each allocation, which is its hash at the
place of its index. Otherwise the refusal is that of the first condition that fails: that there are
allocations, and then, allocation by allocation in the order of the list, that its index is below
their number, that none before it has this index, and that it fits. In any other order of the list
the tree is the same one, with the same leaves, root and proofs. -/
theorem only_dense_distributions_are_built :
    (∀ (encoding : LeafEncoding) (allocations : List Allocation),
      (∃ tree, build encoding allocations = .ok tree) ↔
        allocations ≠ [] ∧ Dense allocations ∧ ∀ a ∈ allocations, a.Fits encoding) ∧
    (∀ (encoding : LeafEncoding) (allocations : List Allocation) (tree : MerkleTree),
      build encoding allocations = .ok tree →
        tree.leafCount = allocations.length ∧
        ∀ i leaf, tree.leaf? i = some leaf ↔
          ∃ a ∈ allocations, a.index.toNat = i ∧ a.leafHash encoding = .ok leaf) ∧
    (∀ (encoding : LeafEncoding) (allocations : List Allocation) (refusal : Refusal),
      build encoding allocations = .error refusal ↔
        FirstFailing refusal (buildConditions encoding allocations)) ∧
    ∀ (encoding : LeafEncoding) (allocations others : List Allocation), allocations.Perm others →
      ∀ tree, build encoding allocations = .ok tree ↔ build encoding others = .ok tree := by
  refine ⟨fun _ _ => exists_build_iff, ?_, ?_, ?_⟩
  · intro encoding allocations tree built
    obtain ⟨-, leaves, rfl, hcommits⟩ := commits_of_build built
    refine ⟨?_, fun i leaf => ?_⟩
    · rw [leafCount_ofLeaves, hcommits.length_eq]
    · rw [leaf?, leaves_ofLeaves, hcommits.getElem?_eq_some_iff]
  · intro encoding allocations refusal
    exact (decides_build encoding allocations).error_iff refusal
  · intro encoding allocations others hperm tree
    exact ⟨build_eq_ok_of_perm hperm, build_eq_ok_of_perm hperm.symm⟩

/-- Two wallets listed either way make one tree, and one of them listed twice makes none. -/
theorem two_wallets_are_dense :
    [secondWallet, firstWallet].Perm [firstWallet, secondWallet] ∧
      build .timestamped [firstWallet, secondWallet] = .ok (ofLeaves [firstLeaf, secondLeaf]) ∧
      (ofLeaves [firstLeaf, secondLeaf]).leafCount = 2 ∧
      FirstFailing .duplicateLeafIndex
        (buildConditions .timestamped [firstWallet, firstWallet]) := by
  obtain ⟨-, htree, hrefused, hany⟩ := only_dense_distributions_are_built
  have hswap : [secondWallet, firstWallet].Perm [firstWallet, secondWallet] := .swap _ _ _
  refine ⟨hswap, ?_, ?_, ?_⟩
  · exact (hany .timestamped _ _ hswap _).1 build_twoWallets
  · exact (htree .timestamped _ _ build_twoWallets).1
  · exact (hrefused .timestamped _ _).1 rfl

end Disbursement.MerkleTree
