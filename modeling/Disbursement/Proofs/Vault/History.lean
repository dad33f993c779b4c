import Disbursement.Proofs.Codec.Length
import Disbursement.Proofs.Record
import Disbursement.Proofs.Vault.InPlace

/-!
# Histories of a vault

A vault is created, and then anything may be tried with it where it stands, by anyone and in any
order: its admins are replaced, owners are proposed, dropped and accept, and it is created anew.
What succeeded so far decides what the vault allows next.

* `lastHandshake?` is the last of the moves that ownership depends on, and `lastAdmins` the list of
  admins that was set last; both are read off the moves that succeeded.
* `Follows` says that a vault agrees with such a history. It is kept by every move that succeeds
  (`Follows.moved`), so it holds at every moment of a run (`Follows.afterMoves`).
* `vault_follows_its_history`: admins stay few and distinct, the vault fits its account, exactly the
  key that was proposed last can accept, and authority is with the owner and the admins set last.
-/

namespace Disbursement

namespace VaultMove

/-- Whether ownership depends on the move. -/
def isHandshake : VaultMove → Bool
  | setAdmins _ => false
  | create .. | propose _ | accept _ | cancel => true

/-- The admins that the move sets; a vault starts without any. -/
def admins? : VaultMove → Option (List Address)
  | create .. => some []
  | setAdmins admins => some admins
  | propose _ | accept _ | cancel => none

end VaultMove

namespace Vault

variable {v w : Vault} {done moves : List VaultMove} {move : VaultMove} {answer : VaultAnswer}
  {k : Address}

/-! ## Moves one after another -/

/-- What a move leaves of a vault. -/
def afterMove (v : Vault) (move : VaultMove) : Vault :=
  (v.respond move).2

/-- The vault after moves one after another. -/
def afterMoves (v : Vault) (moves : List VaultMove) : Vault :=
  moves.foldl afterMove v

/-- The moves that succeed, in their order. -/
def succeeded : Vault → List VaultMove → List VaultMove
  | _, [] => []
  | v, move :: moves =>
    match v.respond move with
    | (.ok _, w) => move :: w.succeeded moves
    | (.error _, w) => w.succeeded moves

/-! ## What a history says -/

/-- The last move that ownership depends on. -/
def lastHandshake? (done : List VaultMove) : Option VaultMove :=
  done.reverse.find? VaultMove.isHandshake

/-- The admins that were set last. -/
def lastAdmins (done : List VaultMove) : List Address :=
  (done.reverse.findSome? VaultMove.admins?).getD []

@[simp] theorem lastHandshake?_append_singleton (done : List VaultMove) (move : VaultMove) :
    lastHandshake? (done ++ [move]) =
      if move.isHandshake then some move else lastHandshake? done := by
  rw [lastHandshake?, List.reverse_append, List.reverse_singleton, List.singleton_append,
    List.find?_cons]
  cases move.isHandshake <;> rfl

@[simp] theorem lastAdmins_append_singleton (done : List VaultMove) (move : VaultMove) :
    lastAdmins (done ++ [move]) = move.admins?.getD (lastAdmins done) := by
  rw [lastAdmins, List.reverse_append, List.reverse_singleton, List.singleton_append,
    List.findSome?_cons]
  cases move.admins? <;> rfl

/-- A vault agrees with the moves that have succeeded. -/
structure Follows (v : Vault) (done : List VaultMove) : Prop where
  few : v.admins.length ≤ maxAdmins
  distinct : v.admins.Nodup
  admins_eq : v.admins = lastAdmins done
  /-- A candidate is neither the owner nor the zero key. -/
  proper : ∀ candidate, v.ownership.candidate? = some candidate →
    candidate ≠ v.owner ∧ candidate ≠ Bytes32.zero
  candidate?_eq_some_iff : ∀ k, v.ownership.candidate? = some k ↔
    lastHandshake? done = some (.propose k)

theorem follows_create (done : List VaultMove) (owner : Address) (bump signerNonce : UInt8) :
    (create owner bump signerNonce).Follows (done ++ [.create owner bump signerNonce]) where
  few := Nat.zero_le _
  distinct := .nil
  admins_eq := by simp [create, VaultMove.admins?]
  proper candidate h := absurd h (by simp [create, Ownership.candidate?])
  candidate?_eq_some_iff k := by simp [create, Ownership.candidate?, VaultMove.isHandshake]

/-- A move that succeeds is the last one of its history. -/
theorem Follows.moved (h : v.Follows done) (hmoves : v.Moves move answer w) :
    w.Follows (done ++ [move]) := by
  cases hmoves with
  | create owner bump signerNonce => exact follows_create done owner bump signerNonce
  | setAdmins admins few distinct =>
    refine ⟨few, distinct, ?_, h.proper, fun k => ?_⟩
    · simp [VaultMove.admins?]
    · simp [VaultMove.isHandshake, h.candidate?_eq_some_iff]
  | propose candidate proper =>
    refine ⟨h.few, h.distinct, ?_, ?_, fun k => ?_⟩
    · simp [VaultMove.admins?, h.admins_eq]
    · rintro _ ⟨⟩
      exact ⟨proper.2, proper.1⟩
    · simp [VaultMove.isHandshake, Ownership.candidate?]
  | accept previous acceptor pending =>
    refine ⟨h.few, h.distinct, ?_, ?_, fun k => ?_⟩
    · simp [VaultMove.admins?, h.admins_eq]
    · simp [Ownership.candidate?]
    · simp [VaultMove.isHandshake, Ownership.candidate?]
  | cancel dropped pending =>
    refine ⟨h.few, h.distinct, ?_, ?_, fun k => ?_⟩
    · simp [VaultMove.admins?, h.admins_eq]
    · simp [Ownership.candidate?]
    · simp [VaultMove.isHandshake, Ownership.candidate?]

/-- A refused move is not part of the history, and changes nothing. -/
theorem Follows.afterMoves (h : v.Follows done) (moves : List VaultMove) :
    (v.afterMoves moves).Follows (done ++ v.succeeded moves) := by
  induction moves generalizing v done with
  | nil =>
    rw [succeeded, List.append_nil]
    exact h
  | cons move moves ih =>
    rw [Vault.afterMoves, List.foldl_cons, succeeded, afterMove]
    rcases hrespond : v.respond move with ⟨refusal | answer, w⟩
    · obtain rfl : w = v := by
        have hleft := left_of_refused (congrArg Prod.fst hrespond)
        rwa [hrespond] at hleft
      exact ih h
    · rw [List.append_cons]
      exact ih (h.moved (respond_eq_ok_iff.1 hrespond))

/-! ## What the owner can rely on -/

theorem owner_eq_of_candidate? {o : Ownership} (h : o.candidate? = some k) :
    o = .pending o.owner k := by
  cases o with
  | owned owner => exact absurd h (by simp [Ownership.candidate?])
  | pending owner candidate =>
    obtain rfl := Option.some.inj h
    rfl

/-- A key can accept exactly while it is the candidate. -/
theorem exists_respond_accept_iff :
    (∃ answer w, v.respond (.accept k) = (.ok answer, w)) ↔ v.ownership.candidate? = some k := by
  constructor
  · rintro ⟨answer, w, haccept⟩
    cases respond_eq_ok_iff.1 haccept with
    | accept previous acceptor pending =>
      rw [pending]
      rfl
  · intro h
    exact ⟨_, _, respond_eq_ok_iff.2 (.accept v.owner k (owner_eq_of_candidate? h))⟩

/-- Who accepts is told the owner before. -/
theorem of_respond_accept (h : v.respond (.accept k) = (.ok answer, w)) :
    answer = .key v.owner ∧ w.owner = k := by
  cases respond_eq_ok_iff.1 h with
  | accept previous acceptor pending =>
    refine ⟨?_, rfl⟩
    rw [owner, pending]
    rfl

/-- Only an acceptance or a new start changes the owner. -/
theorem owner_afterMove (howner : (v.afterMove move).owner ≠ v.owner) :
    (∃ k, move = .accept k) ∨ ∃ owner bump signerNonce, move = .create owner bump signerNonce := by
  rw [afterMove] at howner
  rcases hrespond : v.respond move with ⟨refusal | answer, w⟩
  · rw [left_of_refused (congrArg Prod.fst hrespond)] at howner
    exact absurd rfl howner
  · rw [hrespond] at howner
    cases respond_eq_ok_iff.1 hrespond with
    | create owner bump signerNonce => exact .inr ⟨owner, bump, signerNonce, rfl⟩
    | accept previous acceptor => exact .inl ⟨acceptor, rfl⟩
    | setAdmins | propose | cancel => exact absurd rfl howner

theorem length_encode_ownership (o : Ownership) :
    (Ownership.codec.encode o).length ≤ Ownership.maxLength := by
  cases o <;> simp [Ownership.codec, Ownership.maxLength]

/-- A vault with few admins fits its account. -/
theorem length_encode_le (h : v.admins.length ≤ maxAdmins) : (Record.encode v).length ≤ space := by
  have hownership := length_encode_ownership v.ownership
  rw [Record.length_encode, space]
  show 8 + (codec.encode v).length ≤ _
  simp only [codec, Codec.length_encode_imap, Codec.length_encode_pair, Codec.length_encode_u8,
    Codec.length_encode_list Codec.length_encode_bytes32]
  omega

/-- What is true of a vault that was made by these moves, all of which succeeded. -/
structure MadeBy (v : Vault) (done : List VaultMove) : Prop where
  few : v.admins.length ≤ maxAdmins
  distinct : v.admins.Nodup
  proper : ∀ candidate, v.ownership.candidate? = some candidate →
    candidate ≠ v.owner ∧ candidate ≠ Bytes32.zero
  /-- It fits its account. -/
  fits : (Record.encode v).length ≤ space
  /-- What a refused move leaves is the vault it found. -/
  refused : ∀ move refusal, (v.respond move).1 = .error refusal → (v.respond move).2 = v
  /-- In place a move does what is computed for it. -/
  computed : ∀ move, (moveInPlace move).Atomic v (v.outcome move)
  /-- Only who was proposed last can accept, and only if nothing came between. -/
  exists_accept_iff : ∀ k, (∃ answer w, v.respond (.accept k) = (.ok answer, w)) ↔
    lastHandshake? done = some (.propose k)
  accept : ∀ k answer w, v.respond (.accept k) = (.ok answer, w) →
    answer = .key v.owner ∧ w.owner = k
  owner : ∀ move, (v.afterMove move).owner ≠ v.owner →
    (∃ k, move = .accept k) ∨ ∃ owner bump signerNonce, move = .create owner bump signerNonce
  requireOwner_iff : ∀ k, v.requireOwner k = .ok () ↔ k = v.owner
  requireAdmin_iff : ∀ k, v.requireAdmin k = .ok () ↔ k = v.owner ∨ k ∈ lastAdmins done

theorem Follows.madeBy (h : v.Follows done) : v.MadeBy done where
  few := h.few
  distinct := h.distinct
  proper := h.proper
  fits := length_encode_le h.few
  refused _ _ := left_of_refused
  computed := atomic_moveInPlace v
  exists_accept_iff k := by rw [exists_respond_accept_iff, h.candidate?_eq_some_iff]
  accept _ _ _ := of_respond_accept
  owner _ := owner_afterMove
  requireOwner_iff k := by rw [requireOwner, ensure_eq_ok_iff]
  requireAdmin_iff k := by rw [requireAdmin, ensure_eq_ok_iff, h.admins_eq]

/-- A vault follows its history. Whatever is tried after a vault was created, at every moment its
admins are few and distinct, a candidate is neither the owner nor the zero key, and the vault fits
its account; a move is written where the vault stands, and one that is refused leaves the vault as
it was; exactly the key can accept that the last successful creation, proposal, acceptance or
cancellation proposed, and it becomes the owner in place of the one who is returned; only acceptance
and a new creation change the owner; and authority is with the owner and the admins that were set
last. -/
theorem vault_follows_its_history (owner : Address) (bump signerNonce : UInt8)
    (moves : List VaultMove) :
    ((create owner bump signerNonce).afterMoves moves).MadeBy
      (.create owner bump signerNonce :: (create owner bump signerNonce).succeeded moves) :=
  ((follows_create [] owner bump signerNonce).afterMoves moves).madeBy

-- a proposal that was dropped cannot be accepted any more, and a later one can
example : let owner := Bytes32.ofNatBE 1
    let candidate := Bytes32.ofNatBE 2
    let v := create owner 255 254
    v.succeeded [.propose candidate, .cancel, .accept candidate, .propose candidate,
        .accept candidate] =
      [.propose candidate, .cancel, .propose candidate, .accept candidate] := by
  decide

end Vault

end Disbursement
