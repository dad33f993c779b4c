import Disbursement.Proofs.Merkle.Commitment
import Disbursement.Proofs.Merkle.Preimages
import Disbursement.Proofs.Merkle.Verify

/-!
# A root binds its leaves

Whoever presents a proof chooses its length, every sibling and every side. If it is accepted against
the root of a built tree, then it is the proof that the tree itself hands out for the index that the
presented allocation names, and the allocation at that index has the same leaf
(`accepted_proof_is_the_committed_one`). Otherwise two byte strings can be named that collide, one
hashed when the tree was built and one when the proof was checked.

The argument goes down from the root. `SplitsAt` is its invariant: on every level of the tree
the presented fold passes through a node of that level, and what it does from there on is the tree's
own proof of that node.
-/

namespace Disbursement.Merkle

/-! ## One level down -/

variable {level : List Digest} {leaf : Digest} {proof : List ProofNode}

/-- The presented fold passes through the level: a first part of the proof leads to one of its
nodes, and the rest is the tree's own proof of that node. -/
def SplitsAt (level : List Digest) (leaf : Digest) (proof : List ProofNode) : Prop :=
  ∃ position below above, proof = below ++ above ∧
    level[position]? = some (computeRoot leaf below) ∧
    (MerkleTree.ofLeaves level).proof? position = some above

/-- The proof of a node with a sibling, from the proof of its parent. -/
theorem proof?_cons {k position : Nat} {node : ProofNode} {above : List ProofNode}
    (hmany : 1 < level.length) (hposition : position < level.length) (hk : position / 2 = k)
    (hsibling : sibling? level position = some node)
    (h : (MerkleTree.ofLeaves (levelAbove level)).proof? k = some above) :
    (MerkleTree.ofLeaves level).proof? position = some (node :: above) := by
  rw [MerkleTree.proof?_ofLeaves hmany hposition, hk, h, hsibling]
  rfl

/-- A climb that arrives at the hash of two neighbours started at one of them, with the other as
sibling, or the two preimages collide. -/
theorem climb_eq_hashNode {built presented : List Bytes} {current left right : Digest}
    {node : ProofNode} (hnode : nodePreimage left right ∈ built)
    (hclimb : climbPreimage current node ∈ presented)
    (h : climb current node = hashNode left right) :
    (current = left ∧ node = ⟨right, .right⟩) ∨ (current = right ∧ node = ⟨left, .left⟩) ∨
      Collides built presented := by
  rw [climb_eq_digest] at h
  rcases eq_or_collides hnode hclimb h.symm with hpreimage | hcollides
  · obtain ⟨hash, side⟩ := node
    cases side with
    | left =>
      obtain ⟨rfl, rfl⟩ := nodePreimage_inj hpreimage
      exact .inr (.inl ⟨rfl, rfl⟩)
    | right =>
      obtain ⟨rfl, rfl⟩ := nodePreimage_inj hpreimage
      exact .inl ⟨rfl, rfl⟩
  · exact .inr (.inr hcollides)

/-- Below the hash of two neighbours. The last step of the first part of the proof climbs from one
of them past the other; there is such a step, since the preimage of the presented leaf is not that
of a node. -/
theorem splitsAt_of_pair {built presented : List Bytes} {tag : UInt8} {bytes : Bytes} {k : Nat}
    {below above : List ProofNode} {left right : Digest} (hmany : 1 < level.length)
    (hleaf : hashLeaf tag bytes = leaf) (hbuilt : pairPreimages level ⊆ built)
    (hpresented : leafPreimage tag bytes :: foldPreimages leaf (below ++ above) ⊆ presented)
    (hleft : level[2 * k]? = some left) (hright : level[2 * k + 1]? = some right)
    (hhash : hashNode left right = computeRoot leaf below)
    (hproof : (MerkleTree.ofLeaves (levelAbove level)).proof? k = some above) :
    SplitsAt level leaf (below ++ above) ∨ Collides built presented := by
  have hnode : nodePreimage left right ∈ built :=
    hbuilt (nodePreimage_mem_pairPreimages hleft hright)
  obtain ⟨hlt, -⟩ := List.getElem?_eq_some_iff.1 hright
  rcases List.eq_nil_or_concat below with rfl | ⟨init, node, rfl⟩
  · have hdigest : Keccak256.digest (nodePreimage left right) =
        Keccak256.digest (leafPreimage tag bytes) := hhash.trans hleaf.symm
    rcases eq_or_collides hnode (hpresented List.mem_cons_self) hdigest with heq | hcollides
    · exact absurd heq.symm (leafPreimage_ne_nodePreimage tag bytes left right)
    · exact .inr hcollides
  · rw [List.concat_eq_append, List.append_assoc, List.singleton_append] at hpresented ⊢
    rw [List.concat_eq_append, computeRoot_append] at hhash
    have hclimb : climbPreimage (computeRoot leaf init) node ∈ presented :=
      hpresented (List.mem_cons_of_mem _ (climbPreimage_mem_foldPreimages leaf init above node))
    rcases climb_eq_hashNode hnode hclimb hhash.symm with ⟨hcur, rfl⟩ | ⟨hcur, rfl⟩ | hcollides
    · have hsibling : sibling? level (2 * k) = some ⟨right, .right⟩ := by
        rw [sibling?, if_pos (by omega), hright]
        rfl
      exact .inl ⟨2 * k, init, _, rfl, by rw [hcur, hleft],
        proof?_cons hmany (by omega) (by omega) hsibling hproof⟩
    · have hsibling : sibling? level (2 * k + 1) = some ⟨left, .left⟩ := by
        rw [sibling?, if_neg (by omega), Nat.add_sub_cancel, hleft]
        rfl
      exact .inl ⟨2 * k + 1, init, _, rfl, by rw [hcur, hright],
        proof?_cons hmany hlt (by omega) hsibling hproof⟩
    · exact .inr hcollides

/-- Below a promoted node, which is its own last node and has no sibling there. -/
theorem splitsAt_of_promoted {k : Nat} {below above : List ProofNode} (hmany : 1 < level.length)
    (hpromoted : level[2 * k]? = some (computeRoot leaf below))
    (hnone : level[2 * k + 1]? = none)
    (hproof : (MerkleTree.ofLeaves (levelAbove level)).proof? k = some above) :
    SplitsAt level leaf (below ++ above) := by
  obtain ⟨hlt, -⟩ := List.getElem?_eq_some_iff.1 hpromoted
  have hhalf : 2 * k / 2 = k := by omega
  have hsibling : sibling? level (2 * k) = none := by
    rw [sibling?, if_pos (by omega), hnone]
    rfl
  refine ⟨2 * k, below, above, rfl, hpromoted, ?_⟩
  rw [MerkleTree.proof?_ofLeaves hmany hlt, hhalf, hproof, hsibling]
  rfl

/-! ## Down to the leaves -/

/-- A fold that arrives at the root passes through every level. -/
theorem splitsAt_of_computeRoot_eq_root {built presented : List Bytes} {tag : UInt8}
    {bytes : Bytes} (hne : level ≠ []) (hleaf : hashLeaf tag bytes = leaf)
    (hbuilt : treePreimages (.ofLeaves level) ⊆ built)
    (hpresented : leafPreimage tag bytes :: foldPreimages leaf proof ⊆ presented)
    (h : computeRoot leaf proof = (MerkleTree.ofLeaves level).root) :
    SplitsAt level leaf proof ∨ Collides built presented := by
  induction level using levelsFrom.induct with
  | case1 level hlevel =>
    have hone : level.length = 1 := by
      have := List.length_pos_of_ne_nil hne
      omega
    obtain ⟨top, rfl⟩ := List.length_eq_one_iff.1 hone
    rw [MerkleTree.root_ofLeaves_singleton] at h
    refine .inl ⟨0, proof, [], (List.append_nil proof).symm, ?_,
      MerkleTree.proof?_ofLeaves_singleton top⟩
    rw [h]
    rfl
  | case2 level hlevel ih =>
    have hmany : 1 < level.length := by omega
    rw [treePreimages_ofLeaves hmany] at hbuilt
    have habove : levelAbove level ≠ [] := by
      apply List.ne_nil_of_length_pos
      rw [length_levelAbove]
      omega
    rw [← MerkleTree.root_ofLeaves_levelAbove hmany] at h
    rcases ih habove (fun x hx => hbuilt (List.mem_append_right _ hx)) h with hsplits | hcollides
    · obtain ⟨k, below, above, rfl, hget, hproof⟩ := hsplits
      rcases exists_children hget with ⟨left, right, hleft, hright, hhash⟩ | ⟨hpromoted, hnone⟩
      · exact splitsAt_of_pair hmany hleaf (fun x hx => hbuilt (List.mem_append_left _ hx))
          hpresented hleft hright hhash hproof
      · exact .inl (splitsAt_of_promoted hmany hpromoted hnone hproof)
    · exact .inr hcollides

/-- A fold that arrives at a committed leaf has taken no step: it started there, with the same
preimage. -/
theorem leaf_of_computeRoot_eq {built presented : List Bytes} {tag tag' : UInt8}
    {bytes bytes' : Bytes} {below above : List ProofNode} (hleaf : hashLeaf tag bytes = leaf)
    (hbuilt : leafPreimage tag' bytes' ∈ built)
    (hpresented : leafPreimage tag bytes :: foldPreimages leaf (below ++ above) ⊆ presented)
    (h : computeRoot leaf below = hashLeaf tag' bytes') :
    (below = [] ∧ tag = tag' ∧ bytes = bytes') ∨ Collides built presented := by
  rcases List.eq_nil_or_concat below with rfl | ⟨init, node, rfl⟩
  · have hdigest : Keccak256.digest (leafPreimage tag' bytes') =
        Keccak256.digest (leafPreimage tag bytes) := h.symm.trans hleaf.symm
    rcases eq_or_collides hbuilt (hpresented List.mem_cons_self) hdigest with heq | hcollides
    · obtain ⟨htag, hbytes⟩ := leafPreimage_inj heq.symm
      exact .inl ⟨rfl, htag, hbytes⟩
    · exact .inr hcollides
  · rw [List.concat_eq_append, List.append_assoc, List.singleton_append] at hpresented
    have hclimb := hpresented
      (List.mem_cons_of_mem _ (climbPreimage_mem_foldPreimages leaf init above node))
    rw [List.concat_eq_append, computeRoot_append] at h
    have hdigest := h.symm.trans (climb_eq_digest (computeRoot leaf init) node)
    rcases eq_or_collides hbuilt hclimb hdigest with heq | hcollides
    · unfold climbPreimage at heq
      split at heq
      · exact absurd heq (leafPreimage_ne_nodePreimage _ _ _ _)
      · exact absurd heq (leafPreimage_ne_nodePreimage _ _ _ _)
    · exact .inr hcollides

/-! ## Binding -/

/-- A fold that starts at an encoded allocation and arrives at the root of the tree over committed
leaves: the layout is the committed one, some allocation of this index has these bytes, and the
proof is the one that the tree hands out. -/
theorem committed_of_computeRoot {encoding claimed : LeafEncoding}
    {allocations : List Allocation} {leaves : List Digest} {a : Allocation} {bytes : Bytes}
    (hne : allocations ≠ []) (hcommits : MerkleTree.Commits encoding allocations leaves)
    (hbytes : a.leafBytes claimed = .ok bytes)
    (hroot : computeRoot (hashLeaf claimed.tag bytes) proof = (MerkleTree.ofLeaves leaves).root) :
    (claimed = encoding ∧
      (∃ c ∈ allocations, c.index = a.index ∧ c.leafBytes encoding = .ok bytes) ∧
      (MerkleTree.ofLeaves leaves).proof? a.index.toNat = some proof) ∨
      Collides (committedPreimages encoding allocations (.ofLeaves leaves))
        (presentedPreimages claimed a proof) := by
  have hleaves : leaves ≠ [] := by
    rintro rfl
    exact hne (List.length_eq_zero_iff.1 hcommits.length_eq.symm)
  have hpresented :
      leafPreimage claimed.tag bytes :: foldPreimages (hashLeaf claimed.tag bytes) proof ⊆
        presentedPreimages claimed a proof := by
    rw [presentedPreimages, hbytes]
    exact fun x hx => hx
  have htree : treePreimages (.ofLeaves leaves) ⊆
      committedPreimages encoding allocations (.ofLeaves leaves) :=
    fun x hx => List.mem_append_right _ hx
  rcases splitsAt_of_computeRoot_eq_root hleaves rfl htree hpresented hroot with
    ⟨position, below, above, rfl, hget, hproof⟩ | hcollides
  · obtain ⟨c, hc, hposition, hcleaf⟩ := hcommits.mem_of_getElem? position _ hget
    obtain ⟨cbytes, hcbytes, hchash⟩ := Allocation.leafHash_eq_ok_iff.1 hcleaf
    have hcommitted := leafPreimage_mem_committedPreimages (.ofLeaves leaves) hc hcbytes
    rcases leaf_of_computeRoot_eq rfl hcommitted hpresented hchash.symm with
      ⟨rfl, htag, rfl⟩ | hcollides
    · obtain rfl := LeafEncoding.tag_injective htag
      have hindex : c.index = a.index := (Allocation.leafBytes_inj hcbytes hbytes).index
      refine .inl ⟨rfl, ⟨c, hc, hindex, hcbytes⟩, ?_⟩
      rw [← hindex, hposition]
      exact hproof
    · exact .inr hcollides
  · exact .inr hcollides

/-- An accepted allocation says what a committed one says. -/
theorem sameEntry_of_verify {encoding : LeafEncoding} {allocations : List Allocation}
    {tree : MerkleTree} {a : Allocation} {leaf : Digest}
    (built : MerkleTree.build encoding allocations = .ok tree)
    (hashed : a.leafHash encoding = .ok leaf) (accepted : verify tree.root leaf proof = .ok ()) :
    (∃ c ∈ allocations, Allocation.SameEntry encoding c a) ∨
      Collides (committedPreimages encoding allocations tree)
        (presentedPreimages encoding a proof) := by
  obtain ⟨hne, leaves, rfl, hcommits⟩ := MerkleTree.commits_of_build built
  obtain ⟨bytes, hbytes, rfl⟩ := Allocation.leafHash_eq_ok_iff.1 hashed
  obtain ⟨-, hroot⟩ := verify_eq_ok_iff.1 accepted
  rcases committed_of_computeRoot hne hcommits hbytes hroot with ⟨-, hcommitted, -⟩ | hcollides
  · obtain ⟨c, hc, -, hcbytes⟩ := hcommitted
    exact .inl ⟨c, hc, Allocation.leafBytes_inj hcbytes hbytes⟩
  · exact .inr hcollides

/-- Binding. If an allocation, hashed in any layout, is accepted with any proof against the root of
a built tree, then the layout is that of the tree, the tree commits an allocation of this index with
these bytes, and the proof is node for node the one that the tree hands out for the index; or two
byte strings collide, one hashed in building the tree and one in checking the proof. -/
theorem accepted_proof_is_the_committed_one {encoding claimed : LeafEncoding}
    {allocations : List Allocation} {tree : MerkleTree} {a : Allocation} {leaf : Digest}
    {proof : List ProofNode} (built : MerkleTree.build encoding allocations = .ok tree)
    (hashed : a.leafHash claimed = .ok leaf) (accepted : verify tree.root leaf proof = .ok ()) :
    (claimed = encoding ∧
      (∃ c ∈ allocations, c.index = a.index ∧ c.leafBytes encoding = a.leafBytes encoding) ∧
      tree.proof? a.index.toNat = some proof) ∨
      Collides (committedPreimages encoding allocations tree)
        (presentedPreimages claimed a proof) := by
  obtain ⟨hne, leaves, rfl, hcommits⟩ := MerkleTree.commits_of_build built
  obtain ⟨bytes, hbytes, rfl⟩ := Allocation.leafHash_eq_ok_iff.1 hashed
  obtain ⟨-, hroot⟩ := verify_eq_ok_iff.1 accepted
  rcases committed_of_computeRoot hne hcommits hbytes hroot with
    ⟨rfl, ⟨c, hc, hindex, hcbytes⟩, hproof⟩ | hcollides
  · exact .inl ⟨rfl, ⟨c, hc, hindex, hcbytes.trans hbytes.symm⟩, hproof⟩
  · exact .inr hcollides

open MerkleTree in
/-- The second of two wallets, which proves its leaf with that of the first. -/
theorem accepted_proof_of_second_wallet :
    build .timestamped [secondWallet, firstWallet] = .ok (ofLeaves [firstLeaf, secondLeaf]) ∧
      secondWallet.leafHash .timestamped = .ok secondLeaf ∧
      verify (ofLeaves [firstLeaf, secondLeaf]).root secondLeaf [⟨firstLeaf, .left⟩] = .ok () ∧
      ((LeafEncoding.timestamped = .timestamped ∧
        (∃ c ∈ [secondWallet, firstWallet], c.index = secondWallet.index ∧
          c.leafBytes .timestamped = secondWallet.leafBytes .timestamped) ∧
        (ofLeaves [firstLeaf, secondLeaf]).proof? secondWallet.index.toNat =
          some [⟨firstLeaf, .left⟩]) ∨
        Collides
          (committedPreimages .timestamped [secondWallet, firstWallet]
            (ofLeaves [firstLeaf, secondLeaf]))
          (presentedPreimages .timestamped secondWallet [⟨firstLeaf, .left⟩])) := by
  have accepted :
      verify (ofLeaves [firstLeaf, secondLeaf]).root secondLeaf [⟨firstLeaf, .left⟩] = .ok () :=
    verify_eq_ok_iff.2 ⟨by simp [maxProofLength], computeRoot_of_pair firstLeaf secondLeaf⟩
  exact ⟨build_twoWallets, leafHash_secondWallet, accepted,
    accepted_proof_is_the_committed_one build_twoWallets leafHash_secondWallet accepted⟩

end Disbursement.Merkle
