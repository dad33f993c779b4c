import Disbursement.Proofs.Merkle.Commitment
import Disbursement.Proofs.Merkle.Verify
import Mathlib.Algebra.GroupWithZero.Nat
import Mathlib.Data.Nat.Log

/-!
# Every leaf has a proof that is accepted

A tree hands out a proof for each of its leaves and for nothing else. The proof leads to the root
and is no longer than the binary logarithm of the number of leaves, rounded up
(`proof?_leads_to_root`), so the bound on the length of proofs is out of reach: it would take more
than `2 ^ 32` leaves to exceed it, and a distribution has at most `2 ^ 16`.
-/

namespace Disbursement.MerkleTree

open Merkle

/-! ## Proofs of a tree -/

theorem length_toList_sibling?_le (level : List Digest) (position : Nat) :
    (sibling? level position).toList.length ≤ 1 := by
  cases sibling? level position <;> simp

/-- The proof of a leaf: it exists, it leads to the root, and it has at most one node for each time
that the number of leaves can be halved. The induction is on the levels; a position and its half one
level up are in step whether or not the level contributes a sibling. -/
theorem proof?_leads_to_root {leaves : List Digest} {index : Nat} {leaf : Digest}
    (h : leaves[index]? = some leaf) :
    ∃ proof, (ofLeaves leaves).proof? index = some proof ∧
      computeRoot leaf proof = (ofLeaves leaves).root ∧
      proof.length ≤ Nat.clog 2 leaves.length := by
  induction leaves using levelsFrom.induct generalizing index leaf with
  | case1 level hlevel =>
    obtain ⟨hlt, -⟩ := List.getElem?_eq_some_iff.1 h
    obtain rfl : index = 0 := by omega
    obtain ⟨only, rfl⟩ := List.length_eq_one_iff.1 (show level.length = 1 by omega)
    obtain rfl : only = leaf := Option.some.inj h
    exact ⟨[], proof?_ofLeaves_singleton only, (root_ofLeaves_singleton only).symm,
      Nat.zero_le _⟩
  | case2 level hlevel ih =>
    obtain ⟨hlt, -⟩ := List.getElem?_eq_some_iff.1 h
    have hmany : 1 < level.length := by omega
    obtain ⟨above, hproof, hroot, hlength⟩ := ih (computeRoot_sibling? h)
    refine ⟨(sibling? level index).toList ++ above, ?_, ?_, ?_⟩
    · rw [proof?_ofLeaves hmany hlt, hproof]
      rfl
    · rw [computeRoot_append, hroot, root_ofLeaves_levelAbove hmany]
    · have hsibling := length_toList_sibling?_le level index
      have hhalf : (level.length + 2 - 1) / 2 = (levelAbove level).length := by
        rw [length_levelAbove]
        omega
      rw [List.length_append, Nat.clog_of_two_le (by omega) hmany, hhalf]
      omega

/-- A proof of a tree with up to `2 ^ depth` leaves has at most `depth` nodes. -/
theorem length_proof?_le {leaves : List Digest} {depth index : Nat} {proof : List ProofNode}
    (hleaves : leaves.length ≤ 2 ^ depth) (h : (ofLeaves leaves).proof? index = some proof) :
    proof.length ≤ depth := by
  have hlt : index < leaves.length := by
    by_contra hle
    rw [proof?_ofLeaves_of_length_le (Nat.le_of_not_lt hle)] at h
    exact absurd h (by simp)
  obtain ⟨proof', hproof', -, hlength⟩ := proof?_leads_to_root (List.getElem?_eq_getElem hlt)
  obtain rfl : proof' = proof := Option.some.inj (hproof'.symm.trans h)
  exact hlength.trans (Nat.clog_le_of_le_pow hleaves)

/-- The proof of a leaf is accepted in a tree with up to `2 ^ 32` leaves. -/
theorem verify_proof? {leaves : List Digest} {index : Nat} {leaf : Digest}
    (hleaves : leaves.length ≤ 2 ^ maxProofLength) (h : leaves[index]? = some leaf) :
    ∃ proof, (ofLeaves leaves).proof? index = some proof ∧
      verify (ofLeaves leaves).root leaf proof = .ok () := by
  obtain ⟨proof, hproof, hroot, -⟩ := proof?_leads_to_root h
  exact ⟨proof, hproof, verify_eq_ok_iff.2 ⟨length_proof?_le hleaves hproof, hroot⟩⟩

/-! ## Proofs of a distribution -/

/-- Every allocation of a built tree has a proof that is accepted. -/
theorem verify_of_build {encoding : LeafEncoding} {allocations : List Allocation}
    {tree : MerkleTree} (built : build encoding allocations = .ok tree) {a : Allocation}
    (ha : a ∈ allocations) :
    ∃ leaf proof, a.leafHash encoding = .ok leaf ∧ tree.proof? a.index.toNat = some proof ∧
      verify tree.root leaf proof = .ok () := by
  obtain ⟨-, leaves, rfl, hcommits⟩ := commits_of_build built
  obtain ⟨leaf, hleaf, hget⟩ := hcommits.getElem?_of_mem a ha
  have hbound : leaves.length ≤ 2 ^ maxProofLength :=
    hcommits.length_le.trans (Nat.pow_le_pow_right (by omega) (by decide))
  obtain ⟨proof, hproof, hverify⟩ := verify_proof? hbound hget
  exact ⟨leaf, proof, hleaf, hproof, hverify⟩

/-- Honest proofs exist and are accepted. Every leaf of a tree has a proof that leads to the root,
with at most as many nodes as the rounded binary logarithm of the number of leaves, and accepted up
to `2 ^ 32` leaves; an index behind the leaves has none. In a built tree no proof has more than
sixteen nodes, and the proof of every allocation is accepted. -/
theorem honest_proofs_are_accepted :
    (∀ (leaves : List Digest) (index : Nat) (h : index < leaves.length),
      ∃ proof, (ofLeaves leaves).proof? index = some proof ∧
        computeRoot leaves[index] proof = (ofLeaves leaves).root ∧
        proof.length ≤ Nat.clog 2 leaves.length ∧
        (leaves.length ≤ 2 ^ 32 →
          verify (ofLeaves leaves).root leaves[index] proof = .ok ())) ∧
    (∀ (leaves : List Digest) (index : Nat), leaves.length ≤ index →
      (ofLeaves leaves).proof? index = none) ∧
    (∀ (encoding : LeafEncoding) (allocations : List Allocation) (tree : MerkleTree),
      build encoding allocations = .ok tree →
        (∀ index proof, tree.proof? index = some proof → proof.length ≤ 16) ∧
        ∀ a ∈ allocations, ∃ leaf proof, a.leafHash encoding = .ok leaf ∧
          tree.proof? a.index.toNat = some proof ∧ verify tree.root leaf proof = .ok ()) := by
  refine ⟨?_, fun leaves index => proof?_ofLeaves_of_length_le, ?_⟩
  · intro leaves index h
    have hget : leaves[index]? = some leaves[index] := List.getElem?_eq_getElem h
    obtain ⟨proof, hproof, hroot, hlength⟩ := proof?_leads_to_root hget
    refine ⟨proof, hproof, hroot, hlength, fun hleaves => ?_⟩
    exact verify_eq_ok_iff.2 ⟨length_proof?_le hleaves hproof, hroot⟩
  · intro encoding allocations tree built
    refine ⟨?_, fun a ha => verify_of_build built ha⟩
    intro index proof hproof
    obtain ⟨-, leaves, rfl, hcommits⟩ := commits_of_build built
    exact length_proof?_le hcommits.length_le hproof

/-- The tree of two wallets, and the proof of the second. -/
theorem honest_proofs_of_two_wallets :
    1 < [firstLeaf, secondLeaf].length ∧
      (∃ proof, (ofLeaves [firstLeaf, secondLeaf]).proof? 1 = some proof ∧
        computeRoot secondLeaf proof = (ofLeaves [firstLeaf, secondLeaf]).root ∧
        proof.length ≤ Nat.clog 2 2 ∧
        (2 ≤ 2 ^ 32 →
          verify (ofLeaves [firstLeaf, secondLeaf]).root secondLeaf proof = .ok ())) ∧
      build .timestamped [secondWallet, firstWallet] = .ok (ofLeaves [firstLeaf, secondLeaf]) ∧
      ∀ a ∈ [secondWallet, firstWallet], ∃ leaf proof, a.leafHash .timestamped = .ok leaf ∧
        (ofLeaves [firstLeaf, secondLeaf]).proof? a.index.toNat = some proof ∧
        verify (ofLeaves [firstLeaf, secondLeaf]).root leaf proof = .ok () := by
  obtain ⟨leafProofs, -, builtProofs⟩ := honest_proofs_are_accepted
  exact ⟨by simp, leafProofs [firstLeaf, secondLeaf] 1 (by simp), build_twoWallets,
    (builtProofs _ _ _ build_twoWallets).2⟩

end Disbursement.MerkleTree
