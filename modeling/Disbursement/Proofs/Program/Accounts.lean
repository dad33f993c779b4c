import Disbursement.Program.Accounts

/-!
# What the accounts of an instruction say

An instruction that succeeds has taken all its accounts, and every check on them holds. The lemmas
of this file turn the steps of an intake into that statement, one by one: the list starts with the
address that was taken (`Takes`), and the address signed, holds a record of this program, or is a
program. The last section passes through the checks that follow and the lifts by which they join a
longer sequence.
-/

namespace Disbursement

/-- The addresses of the accounts of a call, in their order. -/
def Call.addresses (call : Call) : List Address :=
  call.accounts.map AccountMeta.address

namespace Program

variable {α β : Type} {c : Chain} {call : Call} {accounts left rest : List AccountMeta}
  {address : Address} {addresses : List Address}

/-! ## What was taken -/

/-- The accounts start with these addresses, and the rest follows. -/
def Takes (accounts : List AccountMeta) (addresses : List Address) (rest : List AccountMeta) :
    Prop :=
  ∃ taken, taken.map AccountMeta.address = addresses ∧ taken ++ rest = accounts

namespace Takes

theorem nil (accounts : List AccountMeta) : Takes accounts [] accounts :=
  ⟨[], rfl, rfl⟩

theorem append {more : List Address} (h : Takes accounts addresses left)
    (h' : Takes left more rest) : Takes accounts (addresses ++ more) rest := by
  obtain ⟨taken, rfl, rfl⟩ := h
  obtain ⟨taken', rfl, rfl⟩ := h'
  exact ⟨taken ++ taken', List.map_append, List.append_assoc _ _ _⟩

/-- What was taken from the accounts of a call stands at the start of their addresses. -/
theorem addresses_eq (h : Takes call.accounts addresses rest) :
    call.addresses = addresses ++ rest.map AccountMeta.address := by
  obtain ⟨taken, rfl, haccounts⟩ := h
  rw [Call.addresses, ← haccounts, List.map_append]

theorem isPrefix (h : Takes call.accounts addresses rest) : addresses <+: call.addresses :=
  ⟨_, h.addresses_eq.symm⟩

/-- Addresses at the start of the list can be taken. -/
theorem exists_iff :
    (∃ rest, Takes call.accounts addresses rest) ↔ addresses <+: call.addresses := by
  constructor
  · rintro ⟨rest, htakes⟩
    exact htakes.isPrefix
  · rintro ⟨behind, happend⟩
    obtain ⟨taken, rest, haccounts, htaken, -⟩ := List.map_eq_append_iff.1 happend.symm
    exact ⟨rest, taken, htaken, haccounts.symm⟩

/-- They are taken one after another. -/
theorem cons_iff : Takes accounts (address :: addresses) rest ↔
    ∃ left, Takes accounts [address] left ∧ Takes left addresses rest := by
  constructor
  · rintro ⟨taken, haddresses, rfl⟩
    obtain ⟨m, more, rfl, rfl, rfl⟩ := List.map_eq_cons_iff.1 haddresses
    exact ⟨more ++ rest, ⟨[m], rfl, rfl⟩, ⟨more, rfl, rfl⟩⟩
  · rintro ⟨left, hfirst, hmore⟩
    exact hfirst.append hmore

end Takes

/-! ## Intakes -/

theorem run'_eq_ok_iff {take : Intake α} {value : α} :
    take.run' accounts = .ok value ↔ ∃ rest, take.run accounts = .ok (value, rest) := by
  rw [StateT.run'_eq]
  cases take.run accounts with
  | error failure => simp [Functor.map, Except.map]
  | ok taken => simp [Functor.map, Except.map, Prod.ext_iff]

theorem run_bind_eq_ok_iff {take : Intake α} {next : α → Intake β} {value : β} :
    (take >>= next).run accounts = .ok (value, rest) ↔
      ∃ a left, take.run accounts = .ok (a, left) ∧ (next a).run left = .ok (value, rest) := by
  rw [StateT.run_bind, bind_eq_ok_iff, Prod.exists]

theorem run_pure_eq_ok_iff {a value : α} :
    (pure a : Intake α).run accounts = .ok (value, rest) ↔ a = value ∧ accounts = rest := by
  rw [StateT.run_pure, pure_eq_ok_iff, Prod.mk.injEq]

theorem run_ite_bind_eq_ok_iff {p : Prop} [Decidable p] {yes no : Intake α} {next : α → Intake β}
    {value : β} :
    (if p then yes >>= next else no >>= next).run accounts = .ok (value, rest) ↔
      ∃ a left, (if p then yes else no).run accounts = .ok (a, left) ∧
        (next a).run left = .ok (value, rest) := by
  split <;> exact run_bind_eq_ok_iff

theorem run_get_eq_ok_iff {taken : List AccountMeta} :
    (get : Intake (List AccountMeta)).run accounts = .ok (taken, rest) ↔
      accounts = taken ∧ accounts = rest :=
  run_pure_eq_ok_iff

theorem run_lift_eq_ok_iff {check : Except EntryError α} {value : α} :
    (liftM check : Intake α).run accounts = .ok (value, rest) ↔
      check = .ok value ∧ accounts = rest := by
  cases check with
  | error failure => exact iff_of_false (by rintro ⟨⟩) (by rintro ⟨⟨⟩, -⟩)
  | ok a =>
    have hrun : (liftM (.ok a : Except EntryError α) : Intake α).run accounts =
        .ok (a, accounts) := rfl
    rw [hrun]
    simp

/-! ## Steps of an intake -/

theorem nextAccount_eq_ok_iff :
    nextAccount.run accounts = .ok (address, rest) ↔ Takes accounts [address] rest := by
  cases accounts with
  | nil =>
    have hnone : nextAccount.run [] = .error (.entry .tooFewAccounts) := rfl
    rw [hnone]
    refine iff_of_false (by rintro ⟨⟩) ?_
    rintro ⟨taken, haddress, hnil⟩
    obtain ⟨rfl, -⟩ := List.append_eq_nil_iff.1 hnil
    exact absurd haddress (by simp)
  | cons m accounts =>
    have hsome : nextAccount.run (m :: accounts) = .ok (m.address, accounts) := rfl
    rw [hsome]
    constructor
    · intro h
      obtain ⟨rfl, rfl⟩ := Prod.mk.inj (Except.ok.inj h)
      exact ⟨[m], rfl, rfl⟩
    · rintro ⟨taken, haddress, happend⟩
      obtain ⟨m', rfl, rfl⟩ := List.map_eq_singleton_iff.1 haddress
      obtain ⟨rfl, rfl⟩ := List.cons.inj happend
      rfl

theorem nextSigner_eq_ok_iff :
    (nextSigner call).run accounts = .ok (address, rest) ↔
      Takes accounts [address] rest ∧ call.signs address = true := by
  simp only [nextSigner, run_bind_eq_ok_iff, nextAccount_eq_ok_iff, run_lift_eq_ok_iff,
    run_pure_eq_ok_iff, ensure_eq_ok_iff, exists_const]
  constructor
  · rintro ⟨_, _, hnext, _, ⟨hsigns, rfl⟩, rfl, rfl⟩
    exact ⟨hnext, hsigns⟩
  · rintro ⟨hnext, hsigns⟩
    exact ⟨_, _, hnext, _, ⟨hsigns, rfl⟩, rfl, rfl⟩

theorem nextRecord_eq_ok_iff [Record α] {loaded : Loaded α} :
    (nextRecord α c).run accounts = .ok (loaded, rest) ↔
      Takes accounts [loaded.address] rest ∧
        (c.account loaded.address).loadRecord = .ok loaded.record := by
  simp only [nextRecord, run_bind_eq_ok_iff, nextAccount_eq_ok_iff, run_lift_eq_ok_iff,
    run_pure_eq_ok_iff]
  constructor
  · rintro ⟨_, _, hnext, _, _, ⟨hload, rfl⟩, rfl, rfl⟩
    exact ⟨hnext, hload⟩
  · rintro ⟨hnext, hload⟩
    exact ⟨_, _, hnext, _, _, ⟨hload, rfl⟩, rfl, rfl⟩

theorem nextProgram_eq_ok_iff {program : Address} {u : Unit} :
    (nextProgram c program).run accounts = .ok (u, rest) ↔
      Takes accounts [program] rest ∧ (c.account program).isExecutable = true := by
  simp only [nextProgram, run_bind_eq_ok_iff, nextAccount_eq_ok_iff, run_lift_eq_ok_iff,
    ensure_eq_ok_iff, exists_const]
  constructor
  · rintro ⟨_, _, hnext, _, ⟨rfl, rfl⟩, hexecutable, rfl⟩
    exact ⟨hnext, hexecutable⟩
  · rintro ⟨hnext, hexecutable⟩
    exact ⟨_, _, hnext, _, ⟨rfl, rfl⟩, hexecutable, rfl⟩

/-! ## Checks that follow -/

@[simp] theorem lift_refusal_eq_ok_iff {check : Except Refusal α} {value : α} :
    (liftM check : Except Failure α) = .ok value ↔ check = .ok value :=
  mapError_eq_ok_iff

@[simp] theorem lift_entry_eq_ok_iff {check : Except EntryError α} {value : α} :
    (liftM check : Except Failure α) = .ok value ↔ check = .ok value :=
  mapError_eq_ok_iff

@[simp] theorem lift_call_eq_ok_iff {check : Except CallError α} {value : α} :
    (liftM check : Except Failure α) = .ok value ↔ check = .ok value :=
  mapError_eq_ok_iff

@[simp] theorem requireWritable_eq_ok_iff {u : Unit} :
    requireWritable call address = .ok u ↔ call.writes address = true :=
  ensure_eq_ok_iff

@[simp] theorem requireSeeds_eq_ok_iff {identity : Identity} {bump : UInt8} {u : Unit} :
    requireSeeds identity bump address = .ok u ↔
      identity.addressWith bump Address.program = some address :=
  ensure_eq_ok_iff

@[simp] theorem requireVaultOf_eq_ok_iff {s : Schedule} {u : Unit} :
    requireVaultOf s address = .ok u ↔ s.vault = address :=
  ensure_eq_ok_iff

@[simp] theorem requireAdmin_eq_ok_iff {v : Vault} {u : Unit} :
    v.requireAdmin address = .ok u ↔ address = v.owner ∨ address ∈ v.admins :=
  ensure_eq_ok_iff

@[simp] theorem requireOwner_eq_ok_iff {v : Vault} {u : Unit} :
    v.requireOwner address = .ok u ↔ address = v.owner :=
  ensure_eq_ok_iff

end Program

end Disbursement
