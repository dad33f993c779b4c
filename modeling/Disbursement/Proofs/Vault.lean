import Disbursement.Instruction.Basic
import Disbursement.Proofs.Check
import Disbursement.Vault.Basic
import Mathlib.Algebra.GroupWithZero.Nat
import Mathlib.Data.List.Nodup

/-!
# Changes of a vault

`Vault.Changes` lists the four changes and who signs for each: the owner for three of them, and the
candidate for the change of owner. Whatever the change, the two bumps stay (`Vault.Changes.bump_eq`,
`Vault.Changes.signerNonce_eq`), and the admins stay few and distinct
(`Vault.Changes.admins_bounded`).
-/

namespace Disbursement.Vault

variable {v w : Vault} {admins : List Address} {candidate acceptor previous dropped : Address}
  {signs : Address → Bool} {i : Instruction}

/-! ## One change -/

/-- A list names nobody twice if and only if none of its entries stands before itself. -/
theorem nodup_iff_notMem_take :
    admins.Nodup ↔ ∀ entry ∈ admins.zipIdx, entry.1 ∉ admins.take entry.2 := by
  constructor
  · rintro hdistinct ⟨admin, i⟩ hentry hearlier
    obtain ⟨hi, hadmin⟩ := List.getElem?_eq_some_iff.1 (List.mem_zipIdx_iff_getElem?.1 hentry)
    obtain ⟨j, hj, hsame⟩ := List.mem_take_iff_getElem.1 hearlier
    have hji : j = i := (List.Nodup.getElem_inj_iff hdistinct).1 (hsame.trans hadmin.symm)
    dsimp only at hj
    omega
  · intro hfirst
    rw [List.nodup_iff_pairwise_ne, List.pairwise_iff_getElem]
    intro i j hi hj hij hsame
    have hentry : (admins[j], j) ∈ admins.zipIdx :=
      List.mem_zipIdx_iff_getElem?.2 (List.getElem?_eq_getElem hj)
    have hbefore : i < min j admins.length := by omega
    exact hfirst _ hentry (List.mem_take_iff_getElem.2 ⟨i, hbefore, hsame⟩)

/-- The loop over the list finds a repetition exactly if there is one. -/
theorem requireDistinct_eq_ok_iff {u : Unit} : requireDistinct admins = .ok u ↔ admins.Nodup := by
  rw [nodup_iff_notMem_take, requireDistinct, bind_pure_unit, forIn_eq_ok_iff]
  simp only [ensure_eq_ok_iff]

theorem setAdmins_eq_ok_iff :
    v.setAdmins admins = .ok w ↔
      admins.length ≤ maxAdmins ∧ admins.Nodup ∧ { v with admins } = w := by
  simp only [setAdmins, bind_eq_ok_iff, ensure_eq_ok_iff, requireDistinct_eq_ok_iff, exists_const,
    pure_eq_ok_iff]

theorem propose_eq_ok_iff :
    v.propose candidate = .ok w ↔
      (candidate ≠ Bytes32.zero ∧ candidate ≠ v.owner) ∧
        { v with ownership := .pending v.owner candidate } = w := by
  simp only [propose, Ownership.propose, owner, bind_eq_ok_iff, ensure_eq_ok_iff, exists_const,
    pure_eq_ok_iff]
  constructor
  · rintro ⟨_, ⟨hzero, howner, rfl⟩, rfl⟩
    exact ⟨⟨hzero, howner⟩, rfl⟩
  · rintro ⟨⟨hzero, howner⟩, rfl⟩
    exact ⟨_, ⟨hzero, howner, rfl⟩, rfl⟩

theorem accept_eq_ok_iff :
    v.accept acceptor = .ok (previous, w) ↔
      v.ownership = .pending previous acceptor ∧ { v with ownership := .owned acceptor } = w := by
  cases hownership : v.ownership with
  | owned owner => simp [accept, Ownership.accept, hownership, throw, throwThe,
      MonadExceptOf.throw, bind, Except.bind]
  | pending owner candidate =>
    simp only [accept, Ownership.accept, hownership, bind_eq_ok_iff, ensure_eq_ok_iff, exists_const,
      pure_eq_ok_iff, Prod.exists, Prod.mk.injEq, Ownership.pending.injEq]
    constructor
    · rintro ⟨_, _, ⟨rfl, rfl, rfl⟩, rfl, rfl⟩
      exact ⟨⟨rfl, rfl⟩, rfl⟩
    · rintro ⟨⟨rfl, rfl⟩, rfl⟩
      exact ⟨_, _, ⟨rfl, rfl, rfl⟩, rfl, rfl⟩

theorem cancel_eq_ok_iff :
    v.cancel = .ok (dropped, w) ↔
      v.ownership = .pending v.owner dropped ∧ { v with ownership := .owned v.owner } = w := by
  cases hownership : v.ownership with
  | owned owner => simp [cancel, Ownership.cancel, hownership, throw, throwThe,
      MonadExceptOf.throw, bind, Except.bind]
  | pending owner candidate =>
    simp [cancel, Ownership.cancel, hownership, Vault.owner, Ownership.owner, pure, Except.pure,
      bind, Except.bind]

/-! ## All changes -/

/-- The owner or an admin signs. -/
def SignedByAdmin (signs : Address → Bool) (v : Vault) : Prop :=
  ∃ admin, signs admin = true ∧ (admin = v.owner ∨ admin ∈ v.admins)

/-- What an instruction makes of a vault, given who signs. -/
inductive Changes (signs : Address → Bool) (v : Vault) : Instruction → Vault → Prop where
  /-- The owner replaces the admins. -/
  | admins (admins : List Address) (signed : signs v.owner = true)
      (few : admins.length ≤ maxAdmins) (distinct : admins.Nodup) :
      Changes signs v (.setVault admins) { v with admins }
  /-- The owner proposes a successor. -/
  | proposed (candidate : Address) (signed : signs v.owner = true)
      (proper : candidate ≠ Bytes32.zero ∧ candidate ≠ v.owner) :
      Changes signs v (.transferOwnership candidate)
        { v with ownership := .pending v.owner candidate }
  /-- The proposed successor becomes the owner. -/
  | accepted (previous candidate : Address) (signed : signs candidate = true)
      (pending : v.ownership = .pending previous candidate) :
      Changes signs v .acceptOwnership { v with ownership := .owned candidate }
  /-- The owner drops the proposal. -/
  | cancelled (candidate : Address) (signed : signs v.owner = true)
      (pending : v.ownership = .pending v.owner candidate) :
      Changes signs v .cancelOwnershipTransfer { v with ownership := .owned v.owner }

namespace Changes

variable (h : Changes signs v i w)
include h

theorem bump_eq : w.bump = v.bump := by
  cases h <;> rfl

theorem signerNonce_eq : w.signerNonce = v.signerNonce := by
  cases h <;> rfl

theorem admins_bounded (hfew : v.admins.length ≤ maxAdmins) (hdistinct : v.admins.Nodup) :
    w.admins.length ≤ maxAdmins ∧ w.admins.Nodup := by
  cases h with
  | admins _ _ few distinct => exact ⟨few, distinct⟩
  | proposed | accepted | cancelled => exact ⟨hfew, hdistinct⟩

/-- A list of admins that could be read can be written. -/
theorem length_admins_lt (hlength : v.admins.length < 2 ^ 32) : w.admins.length < 2 ^ 32 := by
  cases h with
  | admins _ _ few => exact Nat.lt_of_le_of_lt few (by decide)
  | proposed | accepted | cancelled => exact hlength

end Changes

end Disbursement.Vault
