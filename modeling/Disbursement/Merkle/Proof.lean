import Disbursement.Check
import Disbursement.Codec
import Disbursement.Merkle.Hash
import Disbursement.Refusal

/-!
# Inclusion proofs

A proof is the list of siblings on the way from a leaf to the root, each with the side it stands on.
`Merkle.computeRoot` folds a leaf through it, and `Merkle.verify` compares the result with a root.
-/

namespace Disbursement

/-- The side of a sibling. -/
inductive Side where
  | left
  | right
  deriving DecidableEq

/-- A sibling on the way to the root. -/
structure ProofNode where
  /-- The hash of the sibling. -/
  hash : Digest
  /-- The side on which it stands. -/
  side : Side
  deriving DecidableEq

namespace ProofNode

/-- The wire format of a side. -/
def sideCodec : Codec Side :=
  .enumeration [.left, .right]

/-- The wire format of a sibling. -/
def codec : Codec ProofNode :=
  (Codec.bytes32.pair sideCodec).imap (fun (hash, side) => { hash, side })
    fun node => (node.hash, node.side)

end ProofNode

namespace Merkle

/-- The longest proof that is looked at. -/
def maxProofLength : Nat := 32

/-- The hash above `current` and its sibling. -/
def climb (current : Digest) (node : ProofNode) : Digest :=
  match node.side with
  | .left => hashNode node.hash current
  | .right => hashNode current node.hash

/-- The root that a proof leads to from a leaf. -/
def computeRoot (leaf : Digest) (proof : List ProofNode) : Digest :=
  proof.foldl climb leaf

/-- Accept a proof that is not overlong and leads from the leaf to the root. -/
def verify (root leaf : Digest) (proof : List ProofNode) : Except Refusal Unit := do
  ensure (proof.length ≤ maxProofLength) .invalidProofLength
  ensure (digestsEqual (computeRoot leaf proof) root) .invalidProof

end Merkle

end Disbursement
