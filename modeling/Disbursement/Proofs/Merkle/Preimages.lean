import Disbursement.Proofs.Allocation.Leaf
import Disbursement.Proofs.Merkle.Levels

/-!
# What is hashed

A commitment is only as good as its hash function. The results that rest on it do not assume that
collisions are impossible: they end in two byte strings that collide, one of which was hashed when
the tree was built and one when the claim was checked. This file lists both sides.

* `committedPreimages` is what is hashed to build the tree of a distribution: its leaves and the
  neighbours of every level.
* `presentedPreimages` is what is hashed to check an allocation and a proof against a root.
* `Collides` says that a byte string of the one list and a different one of the other have the same
  digest.
* `leaf_preimages_are_unambiguous`: what is hashed for a leaf says which layout it is in and all
  that the layout writes down, and is never what is hashed for a node.
-/

namespace Disbursement.Merkle

/-! ## Collisions -/

/-- Two different byte strings, one hashed here and one there, have the same digest. -/
def Collides (committed presented : List Bytes) : Prop :=
  ∃ x ∈ committed, ∃ y ∈ presented, x ≠ y ∧ Keccak256.digest x = Keccak256.digest y

/-- Byte strings with the same digest are the same, or they collide. -/
theorem eq_or_collides {committed presented : List Bytes} {x y : Bytes} (hx : x ∈ committed)
    (hy : y ∈ presented) (h : Keccak256.digest x = Keccak256.digest y) :
    x = y ∨ Collides committed presented := by
  by_cases hxy : x = y
  · exact .inl hxy
  · exact .inr ⟨x, hx, y, hy, hxy, h⟩

/-! ## Leaves and nodes -/

theorem leafPreimage_ne_nodePreimage (tag : UInt8) (bytes : Bytes) (left right : Digest) :
    leafPreimage tag bytes ≠ nodePreimage left right := by
  intro h
  exact absurd (List.cons.inj h).1 (by decide)

theorem leafPreimage_inj {tag tag' : UInt8} {bytes bytes' : Bytes}
    (h : leafPreimage tag bytes = leafPreimage tag' bytes') : tag = tag' ∧ bytes = bytes' :=
  List.cons.inj (List.cons.inj h).2

theorem nodePreimage_inj {left right left' right' : Digest}
    (h : nodePreimage left right = nodePreimage left' right') :
    left = left' ∧ right = right' := by
  have hlength : left.toList.length = left'.toList.length := by
    rw [left.length_toList, left'.length_toList]
  obtain ⟨hleft, hright⟩ := List.append_inj (List.cons.inj h).2 hlength
  exact ⟨Bytes32.ext hleft, Bytes32.ext hright⟩

/-- What is hashed for a leaf determines its layout and what the layout writes down, and nothing
more; it is not what is hashed for any node. An allocation has a leaf if and only if its beneficiary
and its mint are those that the layout is made for, and is refused as a mismatch otherwise. -/
theorem leaf_preimages_are_unambiguous :
    (∀ (a b : Allocation) (e f : LeafEncoding) (bytes bytes' : Bytes),
      a.leafBytes e = .ok bytes → b.leafBytes f = .ok bytes' →
        (leafPreimage e.tag bytes = leafPreimage f.tag bytes' ↔
          e = f ∧ Allocation.SameEntry e a b)) ∧
    (∀ (a : Allocation) (e : LeafEncoding) (bytes : Bytes) (left right : Digest),
      a.leafBytes e = .ok bytes → leafPreimage e.tag bytes ≠ nodePreimage left right) ∧
    ∀ (a : Allocation) (e : LeafEncoding),
      ((∃ bytes, a.leafBytes e = .ok bytes) ↔ a.Fits e) ∧
        ∀ refusal, a.leafBytes e = .error refusal ↔ ¬a.Fits e ∧ refusal = .leafMismatch := by
  refine ⟨?_, ?_, ?_⟩
  · intro a b e f bytes bytes' ha hb
    constructor
    · intro hsame
      obtain ⟨htag, rfl⟩ := leafPreimage_inj hsame
      obtain rfl := LeafEncoding.tag_injective htag
      exact ⟨rfl, Allocation.leafBytes_inj ha hb⟩
    · rintro ⟨rfl, hentry⟩
      obtain rfl : bytes = bytes' := by
        rw [hentry.leafBytes_eq, hb] at ha
        exact (Except.ok.inj ha).symm
      rfl
  · intro a e bytes left right _
    exact leafPreimage_ne_nodePreimage e.tag bytes left right
  · intro a e
    have hdecides := a.decides_leafBytes e
    refine ⟨?_, fun refusal => ?_⟩
    · rw [hdecides.ok_iff, List.forall_mem_singleton]
    · rw [hdecides.error_iff, FirstFailing.cons_iff, or_iff_left, eq_comm (a := refusal)]
      rintro ⟨-, hnone⟩
      exact FirstFailing.not_nil hnone

/-- A wallet whose entry unlocks at some time. -/
def timedWallet (timestamp : Int64) : Allocation where
  index := 3
  timestamp
  beneficiary := .wallet (Bytes32.ofNatBE 9)
  receivingMint := none
  receivingAmount := 7
  sendingAmount := 2

/-- The time of an entry shows in a leaf that carries one, and in no other. -/
theorem preimages_of_timed_wallets :
    (∃ early late, (timedWallet 1).leafBytes .legacy = .ok early ∧
      (timedWallet 2).leafBytes .legacy = .ok late ∧
      leafPreimage LeafEncoding.legacy.tag early = leafPreimage LeafEncoding.legacy.tag late) ∧
    ∃ early late, (timedWallet 1).leafBytes .timestamped = .ok early ∧
      (timedWallet 2).leafBytes .timestamped = .ok late ∧
      leafPreimage LeafEncoding.timestamped.tag early ≠
        leafPreimage LeafEncoding.timestamped.tag late := by
  obtain ⟨hsame, -, -⟩ := leaf_preimages_are_unambiguous
  refine ⟨⟨_, _, rfl, rfl, ?_⟩, ⟨_, _, rfl, rfl, ?_⟩⟩
  · refine (hsame (timedWallet 1) (timedWallet 2) .legacy .legacy _ _ rfl rfl).2 ⟨rfl, ?_⟩
    exact ⟨rfl, fun carries => absurd carries (by decide), rfl, rfl, rfl, rfl⟩
  · intro hequal
    obtain ⟨-, hentry⟩ :=
      (hsame (timedWallet 1) (timedWallet 2) .timestamped .timestamped _ _ rfl rfl).1 hequal
    exact absurd (hentry.timestamp rfl) (by decide)

/-! ## Checking a proof -/

/-- What is hashed to climb past a sibling. -/
def climbPreimage (current : Digest) (node : ProofNode) : Bytes :=
  match node.side with
  | .left => nodePreimage node.hash current
  | .right => nodePreimage current node.hash

theorem climb_eq_digest (current : Digest) (node : ProofNode) :
    climb current node = Keccak256.digest (climbPreimage current node) := by
  unfold climb climbPreimage
  cases node.side <;> rfl

/-- What is hashed to fold a leaf through a proof. -/
def foldPreimages : Digest → List ProofNode → List Bytes
  | _, [] => []
  | current, node :: above =>
    climbPreimage current node :: foldPreimages (climb current node) above

theorem climbPreimage_mem_foldPreimages (leaf : Digest) (below above : List ProofNode)
    (node : ProofNode) :
    climbPreimage (computeRoot leaf below) node ∈ foldPreimages leaf (below ++ node :: above) := by
  induction below generalizing leaf with
  | nil => exact List.mem_cons_self
  | cons first below ih => exact List.mem_cons_of_mem _ (ih (climb leaf first))

/-- What is hashed to check a proof of an allocation that is encoded in some layout. -/
def presentedPreimages (encoding : LeafEncoding) (a : Allocation) (proof : List ProofNode) :
    List Bytes :=
  match a.leafBytes encoding with
  | .ok bytes =>
    leafPreimage encoding.tag bytes :: foldPreimages (hashLeaf encoding.tag bytes) proof
  | .error _ => []

/-! ## Building a tree -/

/-- What is hashed to make the level above. -/
def pairPreimages : List Digest → List Bytes
  | left :: right :: rest => nodePreimage left right :: pairPreimages rest
  | _ => []

theorem nodePreimage_mem_pairPreimages {level : List Digest} {k : Nat} {left right : Digest}
    (hleft : level[2 * k]? = some left) (hright : level[2 * k + 1]? = some right) :
    nodePreimage left right ∈ pairPreimages level := by
  fun_induction pairPreimages level generalizing k with
  | case1 l r rest ih =>
    cases k with
    | zero =>
      obtain rfl : l = left := Option.some.inj hleft
      obtain rfl : r = right := Option.some.inj hright
      exact List.mem_cons_self
    | succ k => exact List.mem_cons_of_mem _ (ih (k := k) hleft hright)
  | case2 rest h =>
    obtain rfl | ⟨promoted, rfl⟩ := eq_nil_or_singleton h
    · exact absurd hleft (by simp)
    · exact absurd hright (by simp)

/-- What is hashed to build the tree over some leaves: the pairs of every level. -/
def treePreimages (tree : MerkleTree) : List Bytes :=
  tree.levels.flatMap pairPreimages

theorem treePreimages_ofLeaves {level : List Digest} (h : 1 < level.length) :
    treePreimages (.ofLeaves level) =
      pairPreimages level ++ treePreimages (.ofLeaves (levelAbove level)) := by
  rw [treePreimages, treePreimages, MerkleTree.ofLeaves, MerkleTree.ofLeaves,
    levelsFrom_of_lt h, List.flatMap_cons]

/-- What is hashed to build the tree of a distribution. -/
def committedPreimages (encoding : LeafEncoding) (allocations : List Allocation)
    (tree : MerkleTree) : List Bytes :=
  (allocations.filterMap fun a =>
    (a.leafBytes encoding).toOption.map (leafPreimage encoding.tag)) ++ treePreimages tree

theorem leafPreimage_mem_committedPreimages {encoding : LeafEncoding}
    {allocations : List Allocation} {a : Allocation} {bytes : Bytes} (tree : MerkleTree)
    (ha : a ∈ allocations) (hbytes : a.leafBytes encoding = .ok bytes) :
    leafPreimage encoding.tag bytes ∈ committedPreimages encoding allocations tree := by
  refine List.mem_append_left _ (List.mem_filterMap.2 ⟨a, ha, ?_⟩)
  rw [hbytes]
  rfl

end Disbursement.Merkle
