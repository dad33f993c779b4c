import Disbursement.Merkle.Tree

/-!
# The levels of a commitment tree

A tree is built from the leaves up, and a proof is read off it in the same direction. This file
turns both into recursions on the level of the leaves, which is how the results on proofs are
proved: the tree over a level and the tree over the level above it have the same root
(`root_ofLeaves_levelAbove`), and the proof of a position is the sibling that the position has on
its level, followed by the proof of its half in the tree above (`proof?_ofLeaves`).

* `sibling?` is the one entry that a level contributes to a proof, or nothing where the last node of
  an odd level is promoted.
* `computeRoot_sibling?` says that climbing past it arrives at the node above.
* `exists_children` says where a node of the level above comes from.
-/

namespace Disbursement.Merkle

/-! ## One level -/

/-- The node that a level contributes to the proof of a position. -/
def sibling? (level : List Digest) (position : Nat) : Option ProofNode :=
  if position % 2 = 0 then level[position + 1]?.map fun hash => { hash, side := .right }
  else level[position - 1]?.map fun hash => { hash, side := .left }

theorem computeRoot_append (leaf : Digest) (below above : List ProofNode) :
    computeRoot leaf (below ++ above) = computeRoot (computeRoot leaf below) above :=
  List.foldl_append

/-- A node of the level above is the hash of two neighbours or a promoted node. -/
theorem getElem?_levelAbove (level : List Digest) (k : Nat) :
    (levelAbove level)[k]? =
      match level[2 * k]?, level[2 * k + 1]? with
      | some left, some right => some (hashNode left right)
      | some promoted, none => some promoted
      | none, _ => none := by
  fun_induction levelAbove level generalizing k with
  | case1 left right rest ih =>
    cases k with
    | zero => rfl
    | succ k =>
      have heven : 2 * (k + 1) = 2 * k + 2 := by omega
      rw [List.getElem?_cons_succ, ih, heven]
      rfl
  | case2 rest h =>
    obtain rfl | ⟨promoted, rfl⟩ := eq_nil_or_singleton h
    · rfl
    · cases k with
      | zero => rfl
      | succ k =>
        have heven : [promoted][2 * (k + 1)]? = none := List.getElem?_eq_none (by simp; omega)
        rw [heven]
        rfl

/-- Where a node of the level above comes from: two children, or the last node of an odd level. -/
theorem exists_children {level : List Digest} {k : Nat} {node : Digest}
    (h : (levelAbove level)[k]? = some node) :
    (∃ left right, level[2 * k]? = some left ∧ level[2 * k + 1]? = some right ∧
      hashNode left right = node) ∨
      (level[2 * k]? = some node ∧ level[2 * k + 1]? = none) := by
  rw [getElem?_levelAbove] at h
  split at h
  next left right hleft hright => exact .inl ⟨left, right, hleft, hright, Option.some.inj h⟩
  next promoted hpromoted hnone => exact .inr ⟨by rw [hpromoted, h], hnone⟩
  next => exact absurd h (by simp)

/-- Climbing from a position past its sibling arrives at the node above. -/
theorem computeRoot_sibling? {level : List Digest} {position : Nat} {node : Digest}
    (h : level[position]? = some node) :
    (levelAbove level)[position / 2]? =
      some (computeRoot node (sibling? level position).toList) := by
  rw [getElem?_levelAbove]
  by_cases heven : position % 2 = 0
  · have hpos : 2 * (position / 2) = position := by omega
    rw [hpos, h, sibling?, if_pos heven]
    cases level[position + 1]? <;> rfl
  · have hpos : 2 * (position / 2) + 1 = position := by omega
    have hsib : 2 * (position / 2) = position - 1 := by omega
    obtain ⟨hlt, -⟩ := List.getElem?_eq_some_iff.1 h
    obtain ⟨left, hleft⟩ : ∃ left, level[position - 1]? = some left :=
      ⟨_, List.getElem?_eq_getElem (show position - 1 < level.length by omega)⟩
    rw [hpos, hsib, h, sibling?, if_neg heven, hleft]
    rfl

/-! ## All levels -/

theorem levelsFrom_of_lt {level : List Digest} (h : 1 < level.length) :
    levelsFrom level = level :: levelsFrom (levelAbove level) := by
  rw [levelsFrom, if_neg (Nat.not_le_of_lt h)]

theorem levelsFrom_ne_nil (level : List Digest) : levelsFrom level ≠ [] := by
  rw [levelsFrom]
  split <;> simp

end Disbursement.Merkle

namespace Disbursement.MerkleTree

open Merkle

/-! ## The tree over a level -/

theorem siblings_cons (level : List Digest) (above : List (List Digest)) (position : Nat) :
    siblings (level :: above) position =
      (sibling? level position).toList ++ siblings above (position / 2) := by
  rw [siblings, sibling?]
  split
  · cases level[position + 1]? <;> rfl
  · cases level[position - 1]? <;> rfl

@[simp] theorem leaves_ofLeaves (leaves : List Digest) : (ofLeaves leaves).leaves = leaves := by
  rw [MerkleTree.leaves, ofLeaves, levelsFrom]
  split <;> rfl

@[simp] theorem leafCount_ofLeaves (leaves : List Digest) :
    (ofLeaves leaves).leafCount = leaves.length := by
  rw [leafCount, leaves_ofLeaves]

theorem root_ofLeaves_singleton (leaf : Digest) : (ofLeaves [leaf]).root = leaf := by
  rw [root, ofLeaves, levelsFrom]
  rfl

/-- Going up one level keeps the root. -/
theorem root_ofLeaves_levelAbove {level : List Digest} (h : 1 < level.length) :
    (ofLeaves (levelAbove level)).root = (ofLeaves level).root := by
  rw [root, root, ofLeaves, ofLeaves, levelsFrom_of_lt h,
    List.getLastD_eq_getLast?, List.getLastD_eq_getLast?,
    List.getLast?_cons_of_ne_nil (levelsFrom_ne_nil _)]

/-- Of two leaves, the second leads to the root with the first as its sibling. -/
theorem computeRoot_of_pair (left right : Digest) :
    computeRoot right [⟨left, .left⟩] = (ofLeaves [left, right]).root := by
  have habove : levelAbove [left, right] = [computeRoot right [⟨left, .left⟩]] := rfl
  rw [← root_ofLeaves_levelAbove (by simp), habove, root_ofLeaves_singleton]

theorem proof?_ofLeaves_singleton (leaf : Digest) : (ofLeaves [leaf]).proof? 0 = some [] := by
  rw [proof?, leafCount_ofLeaves, ofLeaves, levelsFrom]
  rfl

theorem proof?_ofLeaves_of_length_le {leaves : List Digest} {index : Nat}
    (h : leaves.length ≤ index) : (ofLeaves leaves).proof? index = none := by
  rw [proof?, leafCount_ofLeaves, if_neg (by omega)]

/-- A proof starts with the sibling on the level of the leaves and goes on in the tree above. -/
theorem proof?_ofLeaves {level : List Digest} {position : Nat} (h : 1 < level.length)
    (hp : position < level.length) :
    (ofLeaves level).proof? position =
      ((ofLeaves (levelAbove level)).proof? (position / 2)).map
        ((sibling? level position).toList ++ ·) := by
  have hhalf : position / 2 < (levelAbove level).length := by
    rw [length_levelAbove]
    omega
  rw [proof?, proof?, leafCount_ofLeaves, leafCount_ofLeaves, if_pos hp, if_pos hhalf, ofLeaves,
    ofLeaves, levelsFrom_of_lt h, List.dropLast_cons_of_ne_nil (levelsFrom_ne_nil _), siblings_cons]
  rfl

end Disbursement.MerkleTree
