import Disbursement.Check
import Disbursement.Codec
import Disbursement.Refusal

/-!
# Ownership

Ownership changes hands in two steps: the owner proposes a candidate, and the candidate accepts.
`Ownership.propose`, `Ownership.accept` and `Ownership.cancel` are the moves.
-/

namespace Disbursement

/-- Who owns a vault, and who may become its owner. -/
inductive Ownership where
  /-- No change is proposed. -/
  | owned (owner : Address)
  /-- The candidate may accept. -/
  | pending (owner candidate : Address)
  deriving DecidableEq

namespace Ownership

/-- The current owner. -/
def owner : Ownership → Address
  | owned owner => owner
  | pending owner _ => owner

/-- The proposed successor. -/
def candidate? : Ownership → Option Address
  | owned _ => none
  | pending _ candidate => some candidate

/-- Name a successor, in place of any earlier one. It is neither the owner nor the zero key. -/
def propose (o : Ownership) (candidate : Address) : Except Refusal Ownership := do
  ensure (candidate ≠ Bytes32.zero) .invalidOwner
  ensure (candidate ≠ o.owner) .invalidOwner
  return pending o.owner candidate

/-- The candidate becomes the owner; the previous owner is returned as well. -/
def accept (o : Ownership) (acceptor : Address) : Except Refusal (Address × Ownership) :=
  match o with
  | owned _ => throw .noPendingTransfer
  | pending owner candidate => do
    ensure (acceptor = candidate) .unauthorized
    return (owner, owned candidate)

/-- Drop the proposal; the candidate who was dropped is returned as well. -/
def cancel : Ownership → Except Refusal (Address × Ownership)
  | owned _ => throw .noPendingTransfer
  | pending owner candidate => return (candidate, owned owner)

/-- The wire format: a tag and one or two keys. -/
def codec : Codec Ownership where
  encode
    | owned owner => 0 :: owner.toList
    | pending owner candidate => 1 :: (owner.toList ++ candidate.toList)
  decode input := do
    let (tag, rest) ← Codec.u8.decode input
    match tag with
    | 0 =>
      let (owner, rest) ← Codec.bytes32.decode rest
      return (owned owner, rest)
    | 1 =>
      let ((owner, candidate), rest) ← (Codec.bytes32.pair .bytes32).decode rest
      return (pending owner candidate, rest)
    | _ => throw (.unknownVariant tag)

/-- The length of the longest written form. -/
def maxLength : Nat :=
  1 + 32 + 32

end Ownership

end Disbursement
