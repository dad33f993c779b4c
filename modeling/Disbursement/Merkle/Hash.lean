import Disbursement.Digest.Keccak256

/-!
# Hashing in the commitment tree

Leaves and inner nodes are hashed behind different first bytes, so that no leaf is ever read as a
node; a leaf carries in addition the tag of its encoding.

* `Merkle.leafPreimage` and `Merkle.nodePreimage` are the byte strings that are hashed.
* `Merkle.digestsEqual` compares two digests without stopping at the first difference.
-/

namespace Disbursement.Merkle

/-- What is hashed for a leaf: zero, the tag of its encoding, its bytes. -/
def leafPreimage (tag : UInt8) (bytes : Bytes) : Bytes :=
  0x00 :: tag :: bytes

/-- What is hashed for a node: one, its left child, its right child. -/
def nodePreimage (left right : Digest) : Bytes :=
  0x01 :: (left.toList ++ right.toList)

/-- The hash of a leaf. -/
def hashLeaf (tag : UInt8) (bytes : Bytes) : Digest :=
  Keccak256.digest (leafPreimage tag bytes)

/-- The hash of a node. -/
def hashNode (left right : Digest) : Digest :=
  Keccak256.digest (nodePreimage left right)

/-- Whether two digests agree, by collecting the differing bits of all bytes. -/
def digestsEqual (a b : Digest) : Bool :=
  (a.toList.zip b.toList).foldl (fun differing (x, y) => differing ||| (x ^^^ y)) 0 == 0

end Disbursement.Merkle
