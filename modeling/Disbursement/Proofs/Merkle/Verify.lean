import Disbursement.Merkle.Proof
import Disbursement.Proofs.Check

/-!
# When a proof is accepted

Digests are compared byte by byte, collecting the bits in which they differ. No difference is lost
on the way (`differing_eq_zero_iff`), so the comparison is equality, and a proof is accepted exactly
if it is short enough and leads from the leaf to the root (`verify_eq_ok_iff`). Of a proof that is
refused, the length is looked at first (`decides_verify`).
-/

namespace Disbursement.Merkle

/-- Bits once collected stay collected: the result is zero only if nothing was collected before and
the two byte strings agree. -/
theorem differing_eq_zero_iff {xs ys : Bytes} (h : xs.length = ys.length) (differing : UInt8) :
    (xs.zip ys).foldl (fun differing (x, y) => differing ||| (x ^^^ y)) differing = 0 ↔
      differing = 0 ∧ xs = ys := by
  induction xs generalizing ys differing with
  | nil =>
    obtain rfl : ys = [] := List.length_eq_zero_iff.1 h.symm
    simp
  | cons x xs ih =>
    cases ys with
    | nil => exact absurd h (by simp)
    | cons y ys =>
      have htail : xs.length = ys.length := by simpa using h
      rw [List.zip_cons_cons, List.foldl_cons, ih htail, UInt8.or_eq_zero_iff,
        UInt8.xor_eq_zero_iff, List.cons.injEq, and_assoc]

theorem digestsEqual_eq_true_iff {a b : Digest} : digestsEqual a b = true ↔ a = b := by
  have hlength : a.toList.length = b.toList.length := by
    rw [a.length_toList, b.length_toList]
  rw [digestsEqual, beq_iff_eq, differing_eq_zero_iff hlength 0]
  constructor
  · rintro ⟨-, h⟩
    exact Bytes32.ext h
  · rintro rfl
    exact ⟨rfl, rfl⟩

/-- A proof is accepted if and only if it is not overlong and leads to the root. -/
theorem verify_eq_ok_iff {root leaf : Digest} {proof : List ProofNode} :
    verify root leaf proof = .ok () ↔
      proof.length ≤ maxProofLength ∧ computeRoot leaf proof = root := by
  rw [verify, bind_eq_ok_iff, ← digestsEqual_eq_true_iff]
  constructor
  · rintro ⟨⟨⟩, hlength, hroot⟩
    exact ⟨ensure_eq_ok_iff.1 hlength, ensure_eq_ok_iff.1 hroot⟩
  · rintro ⟨hlength, hroot⟩
    exact ⟨(), ensure_eq_ok_iff.2 hlength, ensure_eq_ok_iff.2 hroot⟩

/-- What is tested of a proof, in this order, and how it is refused. -/
theorem decides_verify (root leaf : Digest) (proof : List ProofNode) :
    Decides (verify root leaf proof)
      [⟨proof.length ≤ maxProofLength, .invalidProofLength⟩,
        ⟨computeRoot leaf proof = root, .invalidProof⟩] := by
  unfold verify
  refine (decides_ensure .rfl _).bind fun _ _ => ?_
  exact decides_ensure digestsEqual_eq_true_iff _

/-- To compare two digests without stopping at the first difference is to ask whether they are
equal. So a proof that is not overlong is accepted if and only if it leads from the leaf to the
root; an overlong one is refused for its length, and one that leads elsewhere as invalid. -/
theorem comparison_is_equality :
    (∀ a b : Digest, digestsEqual a b = true ↔ a = b) ∧
    (∀ (root leaf : Digest) (proof : List ProofNode), proof.length ≤ maxProofLength →
      (verify root leaf proof = .ok () ↔ computeRoot leaf proof = root)) ∧
    ∀ (root leaf : Digest) (proof : List ProofNode),
      Decides (verify root leaf proof)
        [⟨proof.length ≤ maxProofLength, .invalidProofLength⟩,
          ⟨computeRoot leaf proof = root, .invalidProof⟩] := by
  refine ⟨fun a b => digestsEqual_eq_true_iff, ?_, decides_verify⟩
  intro root leaf proof hlength
  rw [verify_eq_ok_iff]
  exact and_iff_right hlength

end Disbursement.Merkle
