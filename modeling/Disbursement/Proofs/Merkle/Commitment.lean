import Disbursement.Merkle.Tree
import Disbursement.Proofs.Merkle.Levels
import Mathlib.Algebra.GroupWithZero.Nat
import Mathlib.Data.List.Nodup
import Mathlib.Data.List.Perm.Subperm

/-!
# What a built tree commits to

`MerkleTree.build` places each allocation at its index. Nothing in it checks that every slot is
used; that follows by counting, since there are as many slots as allocations and none is used twice.

* `Filled` is the invariant of the loop: the slots in use are those of the allocations seen so far.
* `Commits` is what holds in the end: the leaves are the hashes of the allocations, each at the
  place of its index (`commits_of_build`).
* `Commits.length_le` bounds a distribution by the number of indices there are.
-/

namespace Disbursement.MerkleTree

variable {encoding : LeafEncoding} {allocations : List Allocation}

/-! ## The loop -/

/-- Placing an allocation: its slot is free and its hash goes there. -/
theorem place_eq_ok_iff {slots filled : List (Option Digest)} {a : Allocation} :
    place encoding slots a = .ok filled ↔
      slots[a.index.toNat]? = some none ∧
        ∃ leaf, a.leafHash encoding = .ok leaf ∧ slots.set a.index.toNat (some leaf) = filled := by
  simp only [place, bind_eq_ok_iff, demand_eq_ok_iff, pure, Except.pure, Except.ok.injEq]
  constructor
  · rintro ⟨slot, hslot, ⟨⟩, hfree, leaf, hleaf, hset⟩
    obtain rfl : slot = none := ensure_eq_ok_iff.1 hfree
    exact ⟨hslot, leaf, hleaf, hset⟩
  · rintro ⟨hslot, leaf, hleaf, hset⟩
    exact ⟨none, hslot, (), ensure_eq_ok_iff.2 rfl, leaf, hleaf, hset⟩

/-- One more allocation keeps the indices apart if none of the others has its index. -/
theorem nodup_index_append_singleton {done : List Allocation} {a : Allocation} :
    ((done ++ [a]).map Allocation.index).Nodup ↔
      (done.map Allocation.index).Nodup ∧ ∀ b ∈ done, b.index ≠ a.index := by
  rw [List.map_append, List.map_singleton, List.nodup_append]
  simp

/-- The slots in use are those of the allocations `done`, which share none. -/
structure Filled (encoding : LeafEncoding) (done : List Allocation)
    (slots : List (Option Digest)) : Prop where
  nodup : (done.map Allocation.index).Nodup
  getElem?_of_mem : ∀ a ∈ done, ∃ leaf, a.leafHash encoding = .ok leaf ∧
    slots[a.index.toNat]? = some (some leaf)
  mem_of_getElem? : ∀ i leaf, slots[i]? = some (some leaf) →
    ∃ a ∈ done, a.index.toNat = i ∧ a.leafHash encoding = .ok leaf

theorem filled_nil (n : Nat) : Filled encoding [] (List.replicate n none) where
  nodup := List.nodup_nil
  getElem?_of_mem a h := absurd h List.not_mem_nil
  mem_of_getElem? i leaf h := by
    rw [List.getElem?_replicate] at h
    split at h <;> exact absurd h (by simp)

theorem Filled.place {done : List Allocation} {slots filled : List (Option Digest)}
    {a : Allocation} (h : Filled encoding done slots)
    (hplace : place encoding slots a = .ok filled) :
    Filled encoding (done ++ [a]) filled ∧ filled.length = slots.length := by
  obtain ⟨hfree, leaf, hleaf, rfl⟩ := place_eq_ok_iff.1 hplace
  obtain ⟨hlt, -⟩ := List.getElem?_eq_some_iff.1 hfree
  have hother : ∀ b ∈ done, b.index ≠ a.index := by
    intro b hb heq
    obtain ⟨_, _, hused⟩ := h.getElem?_of_mem b hb
    rw [heq, hfree] at hused
    exact absurd hused (by simp)
  refine ⟨⟨nodup_index_append_singleton.2 ⟨h.nodup, hother⟩, ?_, ?_⟩, List.length_set⟩
  · intro b hb
    rcases List.mem_append.1 hb with hb | hb
    · obtain ⟨leaf', hleaf', hused⟩ := h.getElem?_of_mem b hb
      have hne : a.index.toNat ≠ b.index.toNat := fun heq =>
        hother b hb (UInt16.toNat_inj.1 heq.symm)
      exact ⟨leaf', hleaf', by rw [List.getElem?_set_ne hne, hused]⟩
    · obtain rfl := List.mem_singleton.1 hb
      exact ⟨leaf, hleaf, List.getElem?_set_self hlt⟩
  · intro i leaf' hget
    by_cases hi : a.index.toNat = i
    · subst hi
      rw [List.getElem?_set_self hlt, Option.some.injEq, Option.some.injEq] at hget
      exact ⟨a, by simp, rfl, hget ▸ hleaf⟩
    · rw [List.getElem?_set_ne hi] at hget
      obtain ⟨b, hb, hbi, hbleaf⟩ := h.mem_of_getElem? i leaf' hget
      exact ⟨b, List.mem_append_left _ hb, hbi, hbleaf⟩

theorem Filled.foldlM {done rest : List Allocation} {slots filled : List (Option Digest)}
    (h : Filled encoding done slots)
    (hfold : rest.foldlM (MerkleTree.place encoding) slots = .ok filled) :
    Filled encoding (done ++ rest) filled ∧ filled.length = slots.length := by
  induction rest generalizing done slots with
  | nil =>
    obtain rfl : slots = filled := Except.ok.inj hfold
    rw [List.append_nil]
    exact ⟨h, rfl⟩
  | cons a rest ih =>
    rw [List.foldlM_cons] at hfold
    obtain ⟨next, hplace, hrest⟩ := bind_eq_ok_iff.1 hfold
    obtain ⟨hnext, hlength⟩ := h.place hplace
    obtain ⟨hfilled, hlength'⟩ := ih hnext hrest
    rw [List.append_assoc, List.singleton_append] at hfilled
    exact ⟨hfilled, hlength'.trans hlength⟩

/-! ## Counting -/

theorem nodup_toNat_index {done : List Allocation} (h : (done.map Allocation.index).Nodup) :
    (done.map fun a => a.index.toNat).Nodup := by
  have hinj : Function.Injective UInt16.toNat := fun i j hij => UInt16.toNat_inj.1 hij
  have hmap : (done.map fun a => a.index.toNat) = (done.map Allocation.index).map UInt16.toNat := by
    rw [List.map_map]
    rfl
  rw [hmap]
  exact h.map hinj

/-- As many allocations as slots leave no slot free. -/
theorem Filled.getElem?_isSome {done : List Allocation} {slots : List (Option Digest)}
    (h : Filled encoding done slots) (hlength : slots.length = done.length) {i : Nat}
    (hi : i < slots.length) : ∃ leaf, slots[i]? = some (some leaf) := by
  have hsub : (done.map fun a => a.index.toNat) ⊆ List.range slots.length := by
    intro j hj
    obtain ⟨a, ha, rfl⟩ := List.mem_map.1 hj
    obtain ⟨_, -, hused⟩ := h.getElem?_of_mem a ha
    obtain ⟨hlt, -⟩ := List.getElem?_eq_some_iff.1 hused
    exact List.mem_range.2 hlt
  have hperm : (done.map fun a => a.index.toNat).Perm (List.range slots.length) :=
    (List.subperm_of_subset (nodup_toNat_index h.nodup) hsub).perm_of_length_le
      (by simp [hlength])
  obtain ⟨a, ha, rfl⟩ := List.mem_map.1 (hperm.mem_iff.2 (List.mem_range.2 hi))
  obtain ⟨leaf, -, hused⟩ := h.getElem?_of_mem a ha
  exact ⟨leaf, hused⟩

theorem eq_map_some {slots : List (Option Digest)}
    (h : ∀ i, i < slots.length → ∃ leaf, slots[i]? = some (some leaf)) :
    slots = (slots.filterMap id).map some := by
  induction slots with
  | nil => rfl
  | cons slot slots ih =>
    obtain ⟨leaf, hleaf⟩ := h 0 (Nat.zero_lt_succ _)
    obtain rfl : slot = some leaf := Option.some.inj hleaf
    have htail := ih fun i hi => h (i + 1) (Nat.succ_lt_succ hi)
    have hcons : (some leaf :: slots).filterMap id = leaf :: slots.filterMap id := rfl
    rw [hcons, List.map_cons, ← htail]

/-! ## The result -/

/-- The leaves are the hashes of the allocations, each at the place of its index. -/
structure Commits (encoding : LeafEncoding) (allocations : List Allocation)
    (leaves : List Digest) : Prop where
  length_eq : leaves.length = allocations.length
  nodup : (allocations.map Allocation.index).Nodup
  getElem?_of_mem : ∀ a ∈ allocations, ∃ leaf, a.leafHash encoding = .ok leaf ∧
    leaves[a.index.toNat]? = some leaf
  mem_of_getElem? : ∀ i leaf, leaves[i]? = some leaf →
    ∃ a ∈ allocations, a.index.toNat = i ∧ a.leafHash encoding = .ok leaf

/-- The leaf at a place is that of the allocation with this index. -/
theorem Commits.getElem?_eq_some_iff {leaves : List Digest} {i : Nat} {leaf : Digest}
    (h : Commits encoding allocations leaves) : leaves[i]? = some leaf ↔
      ∃ a ∈ allocations, a.index.toNat = i ∧ a.leafHash encoding = .ok leaf := by
  constructor
  · exact h.mem_of_getElem? i leaf
  · rintro ⟨a, ha, rfl, hleaf⟩
    obtain ⟨leaf', hleaf', hget⟩ := h.getElem?_of_mem a ha
    obtain rfl : leaf' = leaf := Except.ok.inj (hleaf'.symm.trans hleaf)
    exact hget

/-- The allocations determine the leaves, in whatever order they are listed. -/
theorem Commits.unique {others : List Allocation} {leaves leaves' : List Digest}
    (h : Commits encoding allocations leaves) (h' : Commits encoding others leaves')
    (hperm : allocations.Perm others) : leaves = leaves' := by
  apply List.ext_getElem?
  intro i
  apply Option.ext
  intro leaf
  rw [h.getElem?_eq_some_iff, h'.getElem?_eq_some_iff]
  simp only [hperm.mem_iff]

/-- A tree that was built is the tree over the hashes of its allocations. -/
theorem commits_of_build {tree : MerkleTree} (h : build encoding allocations = .ok tree) :
    allocations ≠ [] ∧ ∃ leaves, ofLeaves leaves = tree ∧
      Commits encoding allocations leaves := by
  simp only [build, bind_eq_ok_iff, pure, Except.pure, Except.ok.injEq] at h
  obtain ⟨⟨⟩, hne, slots, hfold, rfl⟩ := h
  obtain ⟨hfilled, hlength⟩ := (filled_nil allocations.length).foldlM hfold
  rw [List.nil_append] at hfilled
  rw [List.length_replicate] at hlength
  have hsome := eq_map_some fun i hi => hfilled.getElem?_isSome hlength hi
  have hget (i : Nat) (leaf : Digest) :
      (slots.filterMap id)[i]? = some leaf ↔ slots[i]? = some (some leaf) := by
    conv => rhs; rw [hsome]
    simp
  refine ⟨ensure_eq_ok_iff.1 hne, slots.filterMap id, rfl, ?_, hfilled.nodup, ?_, ?_⟩
  · rw [← hlength, hsome, List.length_map]
    simp
  · intro a ha
    obtain ⟨leaf, hleaf, hused⟩ := hfilled.getElem?_of_mem a ha
    exact ⟨leaf, hleaf, (hget _ _).2 hused⟩
  · intro i leaf hleaf
    exact hfilled.mem_of_getElem? i leaf ((hget _ _).1 hleaf)

/-- A tree commits one allocation for an index. -/
theorem eq_of_index_eq {tree : MerkleTree} (h : build encoding allocations = .ok tree)
    {x y : Allocation} (hx : x ∈ allocations) (hy : y ∈ allocations) (hindex : x.index = y.index) :
    x = y := by
  obtain ⟨-, leaves, -, hcommits⟩ := commits_of_build h
  exact List.inj_on_of_nodup_map hcommits.nodup hx hy hindex

/-- There are no more allocations than indices. -/
theorem Commits.length_le {leaves : List Digest} (h : Commits encoding allocations leaves) :
    leaves.length ≤ 2 ^ 16 := by
  have hsub : (allocations.map fun a => a.index.toNat) ⊆ List.range (2 ^ 16) := by
    intro j hj
    obtain ⟨a, -, rfl⟩ := List.mem_map.1 hj
    exact List.mem_range.2 a.index.toNat_lt
  have hle := (List.subperm_of_subset (nodup_toNat_index h.nodup) hsub).length_le
  rwa [List.length_map, List.length_range, ← h.length_eq] at hle

/-! ## A small distribution -/

/-- A wallet that is paid seven and pays two. -/
def firstWallet : Allocation where
  index := 0
  timestamp := 10
  beneficiary := .wallet (Bytes32.ofNatBE 9)
  receivingMint := none
  receivingAmount := 7
  sendingAmount := 2

/-- A wallet that is paid five. -/
def secondWallet : Allocation where
  index := 1
  timestamp := 20
  beneficiary := .wallet (Bytes32.ofNatBE 8)
  receivingMint := none
  receivingAmount := 5
  sendingAmount := 0

/-- The hash of the first wallet. -/
def firstLeaf : Digest :=
  (firstWallet.leafHash .timestamped).toOption.getD Bytes32.zero

/-- The hash of the second wallet. -/
def secondLeaf : Digest :=
  (secondWallet.leafHash .timestamped).toOption.getD Bytes32.zero

/-- The allocations need not be listed in the order of their indices. -/
theorem build_twoWallets :
    build .timestamped [secondWallet, firstWallet] = .ok (ofLeaves [firstLeaf, secondLeaf]) :=
  rfl

theorem leafHash_secondWallet : secondWallet.leafHash .timestamped = .ok secondLeaf :=
  rfl

end Disbursement.MerkleTree
