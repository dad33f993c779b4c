import Disbursement.Allocation.Leaf
import Disbursement.Merkle.Proof

/-!
# The commitment tree

The tree of a distribution, kept level by level. Neighbours are hashed together; the last node of an
odd level moves up unchanged and contributes no sibling there.

* `MerkleTree.ofLeaves` builds the levels from leaf hashes, `MerkleTree.build` from allocations
  whose indices are exactly `0, …, n - 1` in any order.
* `MerkleTree.root` is what a schedule publishes and `MerkleTree.proof?` what a claimant presents.
-/

namespace Disbursement

/-! ## Levels -/

namespace Merkle

/-- The level above: neighbours hashed together, an odd last node unchanged. -/
def levelAbove : List Digest → List Digest
  | left :: right :: rest => hashNode left right :: levelAbove rest
  | rest => rest

/-- A level without two neighbours has at most one node. -/
theorem eq_nil_or_singleton {level : List Digest}
    (h : ∀ left right rest, level = left :: right :: rest → False) :
    level = [] ∨ ∃ node, level = [node] := by
  cases level with
  | nil => exact .inl rfl
  | cons node rest =>
    cases rest with
    | nil => exact .inr ⟨node, rfl⟩
    | cons right rest => exact (h node right rest rfl).elim

theorem length_levelAbove (level : List Digest) :
    (levelAbove level).length = (level.length + 1) / 2 := by
  fun_induction levelAbove level with
  | case1 left right rest ih => simp only [List.length_cons, ih]; omega
  | case2 rest h =>
    obtain rfl | ⟨node, rfl⟩ := eq_nil_or_singleton h
    · rfl
    · simp

/-- The levels from the given one up to a level of at most one node. -/
def levelsFrom (level : List Digest) : List (List Digest) :=
  if level.length ≤ 1 then [level] else level :: levelsFrom (levelAbove level)
termination_by level.length
decreasing_by rw [length_levelAbove]; omega

end Merkle

/-- A commitment tree; the first level holds the leaves. -/
structure MerkleTree where
  /-- The nodes level by level. -/
  levels : List (List Digest)
  deriving DecidableEq

namespace MerkleTree

/-! ## Construction -/

/-- The tree over these leaf hashes. -/
def ofLeaves (leaves : List Digest) : MerkleTree :=
  ⟨Merkle.levelsFrom leaves⟩

/-- Put the leaf of an allocation into its slot, which must exist and be free. -/
def place (encoding : LeafEncoding) (slots : List (Option Digest)) (a : Allocation) :
    Except Refusal (List (Option Digest)) := do
  let slot ← demand slots[a.index.toNat]? .nonContiguousLeafIndex
  ensure (slot = none) .duplicateLeafIndex
  let leaf ← a.leafHash encoding
  return slots.set a.index.toNat (some leaf)

/-- The tree of a distribution. There are as many slots as allocations, and none is used twice, so
all are filled in the end. -/
def build (encoding : LeafEncoding) (allocations : List Allocation) :
    Except Refusal MerkleTree := do
  ensure (allocations ≠ []) .emptyAllocation
  let slots ← allocations.foldlM (place encoding) (List.replicate allocations.length none)
  return ofLeaves (slots.filterMap id)

/-! ## Reading a tree -/

/-- The leaf hashes in order. -/
def leaves (tree : MerkleTree) : List Digest :=
  tree.levels.headD []

/-- The number of leaves. -/
def leafCount (tree : MerkleTree) : Nat :=
  tree.leaves.length

/-- The leaf hash at an index. -/
def leaf? (tree : MerkleTree) (index : Nat) : Option Digest :=
  tree.leaves[index]?

/-- The single node of the last level, or zero bytes if there is none. -/
def root (tree : MerkleTree) : Digest :=
  (tree.levels.getLastD []).headD Bytes32.zero

/-- The siblings met on the way up from a position of the first of these levels. -/
def siblings : List (List Digest) → Nat → List ProofNode
  | [], _ => []
  | level :: above, position =>
    let rest := siblings above (position / 2)
    if position % 2 = 0 then
      match level[position + 1]? with
      | some hash => { hash, side := .right } :: rest
      | none => rest
    else
      match level[position - 1]? with
      | some hash => { hash, side := .left } :: rest
      | none => rest

/-- The proof of the leaf at an index, if there is such a leaf. -/
def proof? (tree : MerkleTree) (index : Nat) : Option (List ProofNode) :=
  if index < tree.leafCount then some (siblings tree.levels.dropLast index) else none

end MerkleTree

end Disbursement
