import Disbursement.Proofs.InPlace
import Disbursement.Proofs.Vault

/-!
# Vaults in place

A vault is written where it stands, and what is tried with it may be refused on the way: the list of
admins is gone through entry by entry, and a handshake looks at the candidate first. The checks come
before the first write, so that nothing is left of a move that is refused.

* `VaultMove` lists what can be tried, and `Vault.respond` is one move: what it comes back with and
  the vault that it leaves.
* `Vault.outcome` is what is computed for a move.
* `Vault.atomic_moveInPlace`: the vault that is left is the one that was computed, and after a
  refusal the one that was found.
-/

namespace Disbursement

/-- What can be tried with a vault. -/
inductive VaultMove where
  | create (owner : Address) (bump signerNonce : UInt8)
  | setAdmins (admins : List Address)
  | propose (candidate : Address)
  | accept (acceptor : Address)
  | cancel
  deriving DecidableEq

/-- What a move comes back with that is not refused. -/
inductive VaultAnswer where
  | done
  /-- The previous owner, or the candidate who was dropped. -/
  | key (key : Address)
  deriving DecidableEq

/-- A computation that writes a vault. -/
abbrev VaultInPlace (α : Type) := InPlace Vault Refusal α

namespace Vault

variable {v w : Vault} {move : VaultMove} {answer : VaultAnswer}

/-! ## Moves in place -/

/-- Make a vault anew, field by field. -/
def createInPlace (owner : Address) (bump signerNonce : UInt8) : VaultInPlace Unit := do
  modify fun v => { v with bump }
  modify fun v => { v with signerNonce }
  modify fun v => { v with ownership := .owned owner }
  modify fun v => { v with admins := [] }

/-- Go through a list of admins and stop at the first who stands in it before, or else write the
list. -/
def setAdminsInPlace (admins : List Address) : VaultInPlace Unit := do
  ensure (admins.length ≤ maxAdmins) Refusal.tooManyAdmins
  for (admin, i) in admins.zipIdx do
    ensure (admin ∉ admins.take i) Refusal.duplicateAdmin
  modify fun v => { v with admins }

/-- Name a successor. -/
def proposeInPlace (candidate : Address) : VaultInPlace Unit := do
  let owner := (← get).owner
  ensure (candidate ≠ Bytes32.zero) Refusal.invalidOwner
  ensure (candidate ≠ owner) Refusal.invalidOwner
  modify fun v => { v with ownership := .pending owner candidate }

/-- Become the owner; the previous owner is returned. -/
def acceptInPlace (acceptor : Address) : VaultInPlace Address := do
  match (← get).ownership with
  | .owned _ => throw .noPendingTransfer
  | .pending owner candidate =>
    ensure (acceptor = candidate) Refusal.unauthorized
    modify fun v => { v with ownership := .owned candidate }
    return owner

/-- Drop the proposal; the candidate is returned. -/
def cancelInPlace : VaultInPlace Address := do
  match (← get).ownership with
  | .owned _ => throw .noPendingTransfer
  | .pending owner candidate =>
    modify fun v => { v with ownership := .owned owner }
    return candidate

def moveInPlace : VaultMove → VaultInPlace VaultAnswer
  | .create owner bump signerNonce => do
    createInPlace owner bump signerNonce
    return .done
  | .setAdmins admins => do
    setAdminsInPlace admins
    return .done
  | .propose candidate => do
    proposeInPlace candidate
    return .done
  | .accept acceptor => do
    let previous ← acceptInPlace acceptor
    return .key previous
  | .cancel => do
    let dropped ← cancelInPlace
    return .key dropped

/-- The answer to a move, and what it leaves of the vault. -/
def respond (v : Vault) (move : VaultMove) : Except Refusal VaultAnswer × Vault :=
  (moveInPlace move).start v

/-! ## What is left -/

/-- What is computed for a move: its answer and the vault afterwards. -/
def outcome (v : Vault) : VaultMove → Except Refusal (VaultAnswer × Vault)
  | .create owner bump signerNonce => .ok (.done, create owner bump signerNonce)
  | .setAdmins admins => (v.setAdmins admins).map fun w => (.done, w)
  | .propose candidate => (v.propose candidate).map fun w => (.done, w)
  | .accept acceptor => (v.accept acceptor).map fun (previous, w) => (.key previous, w)
  | .cancel => v.cancel.map fun (dropped, w) => (.key dropped, w)

/-- The loop over the admins writes nothing, so it is the check that `requireDistinct` makes. -/
theorem setAdminsInPlace_eq (admins : List Address) :
    setAdminsInPlace admins = (do
      ensure (admins.length ≤ maxAdmins) Refusal.tooManyAdmins
      requireDistinct admins
      modify fun v => { v with admins }) := by
  unfold setAdminsInPlace requireDistinct
  rw [InPlace.forIn_check, bind_pure_unit]

theorem atomic_setAdminsInPlace (v : Vault) (admins : List Address) :
    (setAdminsInPlace admins).Atomic v (do
      let w ← v.setAdmins admins
      return ((), w)) := by
  rw [setAdminsInPlace_eq]
  simp only [setAdmins, bind_assoc]
  refine .check fun _ => ?_
  refine .check fun _ => ?_
  rfl

theorem atomic_proposeInPlace (v : Vault) (candidate : Address) :
    (proposeInPlace candidate).Atomic v (do
      let w ← v.propose candidate
      return ((), w)) := by
  simp only [propose, Ownership.propose, bind_assoc]
  show InPlace.Atomic (liftM (ensure (candidate ≠ Bytes32.zero) Refusal.invalidOwner) >>= _) _ _
  refine .check fun _ => ?_
  refine .check fun _ => ?_
  rfl

theorem atomic_acceptInPlace (v : Vault) (acceptor : Address) :
    (acceptInPlace acceptor).Atomic v (v.accept acceptor) := by
  obtain ⟨bump, signerNonce, ownership, admins⟩ := v
  cases ownership with
  | owned owner => rfl
  | pending owner candidate =>
    simp only [accept, Ownership.accept, bind_assoc]
    show InPlace.Atomic (liftM (ensure (acceptor = candidate) Refusal.unauthorized) >>= _) _ _
    refine .check fun _ => ?_
    rfl

theorem atomic_cancelInPlace (v : Vault) : cancelInPlace.Atomic v v.cancel := by
  obtain ⟨bump, signerNonce, ownership, admins⟩ := v
  cases ownership with
  | owned owner => rfl
  | pending owner candidate => rfl

theorem atomic_done {f : VaultInPlace Unit} {computed : Except Refusal Vault}
    (h : f.Atomic v (do
      let w ← computed
      return ((), w))) :
    InPlace.Atomic (f >>= fun _ => pure VaultAnswer.done) v (computed.map fun w => (.done, w)) := by
  have hdone := h.map fun _ => VaultAnswer.done
  cases computed with
  | error refusal => exact hdone
  | ok w => exact hdone

/-- A move leaves what is computed for it, and a move that is refused what it found. -/
theorem atomic_moveInPlace (v : Vault) (move : VaultMove) :
    (moveInPlace move).Atomic v (v.outcome move) := by
  cases move with
  | create owner bump signerNonce => rfl
  | setAdmins admins => exact atomic_done (atomic_setAdminsInPlace v admins)
  | propose candidate => exact atomic_done (atomic_proposeInPlace v candidate)
  | accept acceptor => exact (atomic_acceptInPlace v acceptor).map VaultAnswer.key
  | cancel => exact (atomic_cancelInPlace v).map VaultAnswer.key

/-- What a move that succeeds comes back with, and what it makes of the vault. -/
inductive Moves (v : Vault) : VaultMove → VaultAnswer → Vault → Prop where
  | create (owner : Address) (bump signerNonce : UInt8) :
      Moves v (.create owner bump signerNonce) .done (create owner bump signerNonce)
  | setAdmins (admins : List Address) (few : admins.length ≤ maxAdmins)
      (distinct : admins.Nodup) : Moves v (.setAdmins admins) .done { v with admins }
  | propose (candidate : Address) (proper : candidate ≠ Bytes32.zero ∧ candidate ≠ v.owner) :
      Moves v (.propose candidate) .done { v with ownership := .pending v.owner candidate }
  | accept (previous acceptor : Address) (pending : v.ownership = .pending previous acceptor) :
      Moves v (.accept acceptor) (.key previous) { v with ownership := .owned acceptor }
  | cancel (dropped : Address) (pending : v.ownership = .pending v.owner dropped) :
      Moves v .cancel (.key dropped) { v with ownership := .owned v.owner }

theorem outcome_eq_ok_iff : v.outcome move = .ok (answer, w) ↔ v.Moves move answer w := by
  constructor
  · intro h
    cases move with
    | create owner bump signerNonce =>
      cases h
      exact .create owner bump signerNonce
    | setAdmins admins =>
      obtain ⟨_, hset, ⟨⟩⟩ := map_eq_ok_iff.1 h
      obtain ⟨few, distinct, rfl⟩ := setAdmins_eq_ok_iff.1 hset
      exact .setAdmins admins few distinct
    | propose candidate =>
      obtain ⟨_, hpropose, ⟨⟩⟩ := map_eq_ok_iff.1 h
      obtain ⟨proper, rfl⟩ := propose_eq_ok_iff.1 hpropose
      exact .propose candidate proper
    | accept acceptor =>
      obtain ⟨⟨previous, _⟩, haccept, ⟨⟩⟩ := map_eq_ok_iff.1 h
      obtain ⟨pending, rfl⟩ := accept_eq_ok_iff.1 haccept
      exact .accept previous acceptor pending
    | cancel =>
      obtain ⟨⟨dropped, _⟩, hcancel, ⟨⟩⟩ := map_eq_ok_iff.1 h
      obtain ⟨pending, rfl⟩ := cancel_eq_ok_iff.1 hcancel
      exact .cancel dropped pending
  · intro h
    cases h with
    | create owner bump signerNonce => rfl
    | setAdmins admins few distinct =>
      exact map_eq_ok_iff.2 ⟨_, setAdmins_eq_ok_iff.2 ⟨few, distinct, rfl⟩, rfl⟩
    | propose candidate proper =>
      exact map_eq_ok_iff.2 ⟨_, propose_eq_ok_iff.2 ⟨proper, rfl⟩, rfl⟩
    | accept previous acceptor pending =>
      exact map_eq_ok_iff.2 ⟨(previous, _), accept_eq_ok_iff.2 ⟨pending, rfl⟩, rfl⟩
    | cancel dropped pending =>
      exact map_eq_ok_iff.2 ⟨(dropped, _), cancel_eq_ok_iff.2 ⟨pending, rfl⟩, rfl⟩

/-- A move succeeds in place exactly as it does when it is computed. -/
theorem respond_eq_ok_iff : v.respond move = (.ok answer, w) ↔ v.Moves move answer w := by
  rw [← outcome_eq_ok_iff, respond, atomic_moveInPlace v move]
  cases v.outcome move with
  | error refusal => exact ⟨nofun, nofun⟩
  | ok computed => exact ⟨by rintro ⟨⟩; rfl, by rintro ⟨⟩; rfl⟩

/-- A refusal leaves nothing behind. -/
theorem left_of_refused {refusal : Refusal} (h : (v.respond move).1 = .error refusal) :
    (v.respond move).2 = v :=
  (atomic_moveInPlace v move).left_of_error h

end Vault

end Disbursement
