import Disbursement.Proofs.Merkle.Levels
import Mathlib.Algebra.GroupWithZero.Nat
import Mathlib.Data.Nat.Log
import Mathlib.Order.Bounds.Basic

/-!
# The tree from the root down

A tree is built by levels, from the leaves up. Read from the root down it splits its leaves: the
first of them, as many as the largest power of two below their number (`splitPoint`), stand below
the left child of the root, and the others below the right one.

* `splitRoot` and `splitProof` are the root and the proofs that this reading gives.
* A front whose length is a power of two goes up level by level without touching what follows it
  (`levelAbove_append`, `sibling?_append_of_lt`, `sibling?_append_add`), so both sides grow as trees
  of their own until one node is left of each (`root_append`, `proof?_append_of_lt`,
  `proof?_append_add`).
* `levels_agree_with_splitting`: both readings have the same root and the same proofs.
-/

namespace Disbursement.Merkle

/-! ## Where the leaves are split -/

/-- The largest power of two below a number of leaves. -/
def splitPoint (count : Nat) : Nat :=
  2 ^ Nat.log 2 (count - 1)

variable {count : Nat}

theorem splitPoint_lt (h : 1 < count) : splitPoint count < count := by
  have hle : splitPoint count ≤ count - 1 := Nat.pow_log_le_self 2 (by omega)
  omega

theorem splitPoint_pos (count : Nat) : 0 < splitPoint count :=
  Nat.two_pow_pos _

/-- No more leaves stand behind the split than before it. -/
theorem le_splitPoint_add_self (count : Nat) : count ≤ splitPoint count + splitPoint count := by
  have hlt : count - 1 < 2 ^ (Nat.log 2 (count - 1) + 1) := Nat.lt_pow_succ_log_self (by omega) _
  rw [Nat.pow_succ] at hlt
  unfold splitPoint
  omega

theorem isGreatest_splitPoint (h : 1 < count) :
    IsGreatest {k | (∃ height, 2 ^ height = k) ∧ k < count} (splitPoint count) := by
  constructor
  · exact ⟨⟨_, rfl⟩, splitPoint_lt h⟩
  · rintro k ⟨⟨height, rfl⟩, hlt⟩
    have hheight : height ≤ Nat.log 2 (count - 1) := Nat.le_log_of_pow_le (by omega) (by omega)
    exact Nat.pow_le_pow_right (by omega) hheight

/-- The root of the leaves, from the roots of both sides of their split. -/
def splitRoot (leaves : List Digest) : Digest :=
  if leaves.length ≤ 1 then leaves.headD Bytes32.zero
  else hashNode (splitRoot (leaves.take (splitPoint leaves.length)))
    (splitRoot (leaves.drop (splitPoint leaves.length)))
termination_by leaves.length
decreasing_by
  · have hlt : splitPoint leaves.length < leaves.length := splitPoint_lt (by omega)
    rw [List.length_take]
    omega
  · have hpos := splitPoint_pos leaves.length
    rw [List.length_drop]
    omega

/-- The proof of a leaf: its proof on its own side of the split, and then the root of the other
side. -/
def splitProof (leaves : List Digest) (index : Nat) : List ProofNode :=
  if leaves.length ≤ 1 then []
  else if index < splitPoint leaves.length then
    splitProof (leaves.take (splitPoint leaves.length)) index ++
      [{ hash := splitRoot (leaves.drop (splitPoint leaves.length)), side := .right }]
  else
    splitProof (leaves.drop (splitPoint leaves.length)) (index - splitPoint leaves.length) ++
      [{ hash := splitRoot (leaves.take (splitPoint leaves.length)), side := .left }]
termination_by leaves.length
decreasing_by
  · have hlt : splitPoint leaves.length < leaves.length := splitPoint_lt (by omega)
    rw [List.length_take]
    omega
  · have hpos := splitPoint_pos leaves.length
    rw [List.length_drop]
    omega

/-! ## A front of even length -/

variable {left right : List Digest}

/-- Nodes of an even front are paired among themselves. -/
theorem levelAbove_append (h : left.length % 2 = 0) :
    levelAbove (left ++ right) = levelAbove left ++ levelAbove right := by
  fun_induction levelAbove left with
  | case1 first second rest ih =>
    have hrest : rest.length % 2 = 0 := by
      simp only [List.length_cons] at h
      omega
    rw [List.cons_append, List.cons_append, levelAbove, ih hrest, List.cons_append]
  | case2 rest hrest =>
    obtain rfl | ⟨node, rfl⟩ := eq_nil_or_singleton hrest
    · rfl
    · simp at h

/-- The sibling of a position in an even front is in the front. -/
theorem sibling?_append_of_lt {position : Nat} (h : left.length % 2 = 0)
    (hp : position < left.length) : sibling? (left ++ right) position = sibling? left position := by
  unfold sibling?
  split
  · rw [List.getElem?_append_left (by omega)]
  · rw [List.getElem?_append_left (by omega)]

/-- The sibling of a position behind an even front is behind it. -/
theorem sibling?_append_add (h : left.length % 2 = 0) (position : Nat) :
    sibling? (left ++ right) (left.length + position) = sibling? right position := by
  have hparity : (left.length + position) % 2 = position % 2 := by omega
  unfold sibling?
  rw [hparity]
  split
  · rw [Nat.add_assoc, List.getElem?_append_right (by omega), Nat.add_sub_cancel_left]
  · have hbefore : left.length + position - 1 - left.length = position - 1 := by omega
    rw [List.getElem?_append_right (by omega), hbefore]

theorem levelAbove_of_length_le {level : List Digest} (h : level.length ≤ 1) :
    levelAbove level = level := by
  cases level with
  | nil => rfl
  | cons node rest =>
    obtain rfl : rest = [] := List.length_eq_zero_iff.1 (by simpa using h)
    rfl

end Disbursement.Merkle

namespace Disbursement.MerkleTree

open Merkle

/-! ## One level up -/

/-- Going up keeps the root also where there is nothing to pair. -/
theorem root_levelAbove (level : List Digest) :
    (ofLeaves (levelAbove level)).root = (ofLeaves level).root := by
  by_cases h : 1 < level.length
  · exact root_ofLeaves_levelAbove h
  · rw [levelAbove_of_length_le (by omega)]

theorem proof?_levelAbove {level : List Digest} {position : Nat} (hp : position < level.length) :
    (ofLeaves level).proof? position =
      ((ofLeaves (levelAbove level)).proof? (position / 2)).map
        ((sibling? level position).toList ++ ·) := by
  by_cases h : 1 < level.length
  · exact proof?_ofLeaves h hp
  · obtain ⟨node, rfl⟩ := List.length_eq_one_iff.1 (show level.length = 1 by omega)
    obtain rfl : position = 0 := by simpa using hp
    rw [levelAbove_of_length_le (by simp), Nat.zero_div, proof?_ofLeaves_singleton]
    rfl

/-! ## Two sides -/

variable {left right : List Digest} {height : Nat}

theorem length_levelAbove_of_pow (h : left.length = 2 ^ (height + 1)) :
    left.length % 2 = 0 ∧ (levelAbove left).length = 2 ^ height := by
  rw [Nat.pow_succ] at h
  rw [length_levelAbove]
  omega

theorem levelAbove_ne_nil (h : right ≠ []) : levelAbove right ≠ [] := by
  apply List.ne_nil_of_length_pos
  have hpos := List.length_pos_iff.2 h
  rw [length_levelAbove]
  omega

theorem length_levelAbove_le (h : right.length ≤ 2 ^ (height + 1)) :
    (levelAbove right).length ≤ 2 ^ height := by
  rw [Nat.pow_succ] at h
  rw [length_levelAbove]
  omega

theorem eq_singleton_of_length_le (hne : right ≠ []) (h : right.length ≤ 1) :
    ∃ node, right = [node] := by
  have hpos := List.length_pos_iff.2 hne
  exact List.length_eq_one_iff.1 (by omega)

/-- A full front and what follows it, which is no longer: the root is that of both sides, hashed
together. The induction is on the height of the front; one level up both sides are half as long. -/
theorem root_append (hleft : left.length = 2 ^ height) (hne : right ≠ [])
    (hright : right.length ≤ 2 ^ height) :
    (ofLeaves (left ++ right)).root = hashNode (ofLeaves left).root (ofLeaves right).root := by
  induction height generalizing left right with
  | zero =>
    obtain ⟨first, rfl⟩ := List.length_eq_one_iff.1 hleft
    obtain ⟨second, rfl⟩ := eq_singleton_of_length_le hne hright
    rw [← root_levelAbove, root_ofLeaves_singleton, root_ofLeaves_singleton]
    exact root_ofLeaves_singleton (hashNode first second)
  | succ height ih =>
    obtain ⟨heven, hhalf⟩ := length_levelAbove_of_pow hleft
    calc (ofLeaves (left ++ right)).root
        = (ofLeaves (levelAbove left ++ levelAbove right)).root := by
          rw [← root_levelAbove, levelAbove_append heven]
      _ = hashNode (ofLeaves (levelAbove left)).root (ofLeaves (levelAbove right)).root :=
          ih hhalf (levelAbove_ne_nil hne) (length_levelAbove_le hright)
      _ = hashNode (ofLeaves left).root (ofLeaves right).root := by
          rw [root_levelAbove, root_levelAbove]

/-- A proof that continues alike above, and has the same sibling here, continues alike here. -/
theorem proof?_of_levelAbove {level side : List Digest} {position index : Nat} {node : ProofNode}
    (hposition : position < level.length) (hindex : index < side.length)
    (hsibling : sibling? level position = sibling? side index)
    (h : (ofLeaves (levelAbove level)).proof? (position / 2) =
      ((ofLeaves (levelAbove side)).proof? (index / 2)).map (· ++ [node])) :
    (ofLeaves level).proof? position = ((ofLeaves side).proof? index).map (· ++ [node]) := by
  rw [proof?_levelAbove hposition, proof?_levelAbove hindex, h, hsibling, Option.map_map,
    Option.map_map]
  congr 1
  funext above
  exact (List.append_assoc _ _ _).symm

/-- A leaf of the front has the proof that it has there, and then the root of the other side. -/
theorem proof?_append_of_lt {index : Nat} (hleft : left.length = 2 ^ height) (hne : right ≠ [])
    (hright : right.length ≤ 2 ^ height) (hindex : index < left.length) :
    (ofLeaves (left ++ right)).proof? index = ((ofLeaves left).proof? index).map
      (· ++ [{ hash := (ofLeaves right).root, side := .right }]) := by
  induction height generalizing left right index with
  | zero =>
    obtain ⟨first, rfl⟩ := List.length_eq_one_iff.1 hleft
    obtain ⟨second, rfl⟩ := eq_singleton_of_length_le hne hright
    obtain rfl : index = 0 := by simpa using hindex
    have habove : levelAbove ([first] ++ [second]) = [hashNode first second] := rfl
    rw [proof?_levelAbove (by simp), habove, Nat.zero_div, proof?_ofLeaves_singleton,
      proof?_ofLeaves_singleton, root_ofLeaves_singleton]
    rfl
  | succ height ih =>
    obtain ⟨heven, hhalf⟩ := length_levelAbove_of_pow hleft
    refine proof?_of_levelAbove (by rw [List.length_append]; omega) hindex
      (sibling?_append_of_lt heven hindex) ?_
    rw [levelAbove_append heven, ← root_levelAbove right]
    exact ih hhalf (levelAbove_ne_nil hne) (length_levelAbove_le hright)
      (by rw [length_levelAbove]; omega)

/-- A leaf behind the front has the proof that it has there, and then the root of the front. -/
theorem proof?_append_add {index : Nat} (hleft : left.length = 2 ^ height)
    (hright : right.length ≤ 2 ^ height) (hindex : index < right.length) :
    (ofLeaves (left ++ right)).proof? (left.length + index) =
      ((ofLeaves right).proof? index).map
        (· ++ [{ hash := (ofLeaves left).root, side := .left }]) := by
  induction height generalizing left right index with
  | zero =>
    obtain ⟨first, rfl⟩ := List.length_eq_one_iff.1 hleft
    obtain ⟨second, rfl⟩ := eq_singleton_of_length_le (List.ne_nil_of_length_pos (by omega)) hright
    obtain rfl : index = 0 := by simpa using hindex
    have habove : levelAbove ([first] ++ [second]) = [hashNode first second] := rfl
    have hposition : ([first].length + 0) / 2 = 0 := by simp
    rw [proof?_levelAbove (by simp), habove, hposition, proof?_ofLeaves_singleton,
      proof?_ofLeaves_singleton, root_ofLeaves_singleton]
    rfl
  | succ height ih =>
    obtain ⟨heven, hhalf⟩ := length_levelAbove_of_pow hleft
    have hposition : (left.length + index) / 2 = (levelAbove left).length + index / 2 := by
      rw [length_levelAbove]
      omega
    refine proof?_of_levelAbove (by rw [List.length_append]; omega) hindex
      (sibling?_append_add heven index) ?_
    rw [levelAbove_append heven, hposition, ← root_levelAbove left]
    exact ih hhalf (length_levelAbove_le hright) (by rw [length_levelAbove]; omega)

/-! ## Both readings -/

variable {leaves : List Digest}

/-- There are leaves on both sides of the split: as many as the split point says before it, and no
more behind it. -/
structure Sides (leaves front behind : List Digest) : Prop where
  append_eq : front ++ behind = leaves
  length_front : front.length = splitPoint leaves.length
  front_ne_nil : front ≠ []
  behind_ne_nil : behind ≠ []
  length_behind_le : behind.length ≤ splitPoint leaves.length

theorem sides_take_drop (h : ¬leaves.length ≤ 1) :
    Sides leaves (leaves.take (splitPoint leaves.length))
      (leaves.drop (splitPoint leaves.length)) := by
  have hpos := splitPoint_pos leaves.length
  have hlt : splitPoint leaves.length < leaves.length := splitPoint_lt (by omega)
  have hle := le_splitPoint_add_self leaves.length
  have hfront : (leaves.take (splitPoint leaves.length)).length = splitPoint leaves.length := by
    rw [List.length_take]
    omega
  have hbehind : (leaves.drop (splitPoint leaves.length)).length =
      leaves.length - splitPoint leaves.length := List.length_drop
  refine ⟨List.take_append_drop _ _, hfront, ?_, ?_, ?_⟩
  · exact List.ne_nil_of_length_pos (by omega)
  · exact List.ne_nil_of_length_pos (by omega)
  · omega

theorem root_eq_splitRoot (hne : leaves ≠ []) : (ofLeaves leaves).root = splitRoot leaves := by
  fun_induction splitRoot leaves with
  | case1 leaves h =>
    obtain ⟨leaf, rfl⟩ := eq_singleton_of_length_le hne h
    exact root_ofLeaves_singleton leaf
  | case2 leaves h ihfront ihbehind =>
    have hsides := sides_take_drop h
    rw [← ihfront hsides.front_ne_nil, ← ihbehind hsides.behind_ne_nil,
      ← root_append hsides.length_front hsides.behind_ne_nil hsides.length_behind_le,
      hsides.append_eq]

theorem proof?_eq_splitProof {index : Nat} (hindex : index < leaves.length) :
    (ofLeaves leaves).proof? index = some (splitProof leaves index) := by
  fun_induction splitProof leaves index with
  | case1 leaves index h =>
    obtain ⟨leaf, rfl⟩ := List.length_eq_one_iff.1 (show leaves.length = 1 by omega)
    obtain rfl : index = 0 := by simpa using hindex
    exact proof?_ofLeaves_singleton leaf
  | case2 leaves index h hbefore ih =>
    have hsides := sides_take_drop h
    have hfront : index < (leaves.take (splitPoint leaves.length)).length := by
      rw [hsides.length_front]
      exact hbefore
    have happend := proof?_append_of_lt hsides.length_front hsides.behind_ne_nil
      hsides.length_behind_le hfront
    rw [hsides.append_eq, ih hfront, root_eq_splitRoot hsides.behind_ne_nil] at happend
    exact happend
  | case3 leaves index h hafter ih =>
    have hsides := sides_take_drop h
    have hbehind : index - splitPoint leaves.length <
        (leaves.drop (splitPoint leaves.length)).length := by
      rw [List.length_drop]
      omega
    have happend := proof?_append_add hsides.length_front hsides.length_behind_le hbehind
    rw [hsides.append_eq, hsides.length_front, Nat.add_sub_of_le (Nat.le_of_not_lt hafter),
      ih hbehind, root_eq_splitRoot hsides.front_ne_nil] at happend
    exact happend

/-- The levels end in one node. -/
theorem getLast?_levels (hne : leaves ≠ []) :
    (ofLeaves leaves).levels.getLast? = some [(ofLeaves leaves).root] := by
  rw [root, List.getLastD_eq_getLast?]
  induction leaves using levelsFrom.induct with
  | case1 level h =>
    obtain ⟨leaf, rfl⟩ := eq_singleton_of_length_le hne h
    rw [ofLeaves, levelsFrom]
    rfl
  | case2 level h ih =>
    have habove := ih (levelAbove_ne_nil hne)
    rw [ofLeaves] at habove ⊢
    rw [levelsFrom_of_lt (Nat.lt_of_not_le h), List.getLast?_cons_of_ne_nil (levelsFrom_ne_nil _)]
    exact habove

/-- The levels make the tree that splitting the leaves makes. Leaves are split at the largest power
of two below their number. If there are any, the levels end in a single node, which is the root; it
is the root that splitting gives, and the proof of each leaf is the list of the roots that splitting
meets beside the way to that leaf, from the leaf on up, each with its side. -/
theorem levels_agree_with_splitting :
    (∀ count, 1 < count →
      IsGreatest {k | (∃ height, 2 ^ height = k) ∧ k < count} (splitPoint count)) ∧
    ∀ leaves : List Digest, leaves ≠ [] →
      (ofLeaves leaves).levels.getLast? = some [(ofLeaves leaves).root] ∧
      (ofLeaves leaves).root = splitRoot leaves ∧
      ∀ index, index < leaves.length →
        (ofLeaves leaves).proof? index = some (splitProof leaves index) := by
  refine ⟨fun count => isGreatest_splitPoint, ?_⟩
  intro leaves hne
  exact ⟨getLast?_levels hne, root_eq_splitRoot hne, fun index => proof?_eq_splitProof⟩

theorem splitPoint_two : splitPoint 2 = 1 := by
  decide

theorem splitPoint_three : splitPoint 3 = 2 := by
  decide

/-- Of three leaves the last stands alone on its side. -/
theorem splitRoot_three (first second third : Digest) :
    splitRoot [first, second, third] = hashNode (hashNode first second) third := by
  simp [splitRoot, splitPoint_two, splitPoint_three]

theorem splitProof_three (first second third : Digest) :
    splitProof [first, second, third] 2 =
      [{ hash := hashNode first second, side := .left }] := by
  simp [splitProof, splitRoot, splitPoint_two, splitPoint_three]

/-- A tree of three leaves, and the proof of the one that is promoted. -/
theorem splitting_of_three_leaves :
    [Bytes32.ofNatBE 1, Bytes32.ofNatBE 2, Bytes32.ofNatBE 3] ≠ [] ∧
      (ofLeaves [Bytes32.ofNatBE 1, Bytes32.ofNatBE 2, Bytes32.ofNatBE 3]).root =
        hashNode (hashNode (Bytes32.ofNatBE 1) (Bytes32.ofNatBE 2)) (Bytes32.ofNatBE 3) ∧
      (ofLeaves [Bytes32.ofNatBE 1, Bytes32.ofNatBE 2, Bytes32.ofNatBE 3]).proof? 2 =
        some [{ hash := hashNode (Bytes32.ofNatBE 1) (Bytes32.ofNatBE 2), side := .left }] := by
  obtain ⟨-, hlevels⟩ := levels_agree_with_splitting
  obtain ⟨-, hroot, hproof⟩ :=
    hlevels [Bytes32.ofNatBE 1, Bytes32.ofNatBE 2, Bytes32.ofNatBE 3] (List.cons_ne_nil _ _)
  refine ⟨List.cons_ne_nil _ _, ?_, ?_⟩
  · rw [hroot, splitRoot_three]
  · rw [hproof 2 (Nat.lt_succ_self 2), splitProof_three]

end Disbursement.MerkleTree
