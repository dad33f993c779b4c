import Disbursement.Chain.Account
import Disbursement.Proofs.Record

/-!
# Reading and replacing accounts

* What a change of one account does to the fields of any account: `Chain.owner_putLamports` and its
  companions.
* `Account.loadRecord_eq_ok_iff` says what it takes to hold a record; lamports do not matter.
  `Account.loadToken_eq_ok_iff` says the same of tokens.
* `Chain.loadRecord_storeRecord`: the record that was stored is the one that is read.
-/

namespace Disbursement

theorem Address.program_ne_systemProgram : program ≠ systemProgram := by
  decide

theorem Address.tokenProgram_ne_program : tokenProgram ≠ program := by
  decide

theorem Address.tokenProgram_ne_systemProgram : tokenProgram ≠ systemProgram := by
  decide

/-! ## Holding a record -/

namespace Account

variable {α : Type} [Record α] {a b : Account}

/-- An account of this program is in use, whatever lamports it has. -/
theorem loadRecord_eq_ok_iff {value : α} :
    a.loadRecord = .ok value ↔ a.isOwn ∧ Record.load a.data = .ok value := by
  simp only [loadRecord, bind_eq_ok_iff, ensure_eq_ok_iff, exists_const]
  constructor
  · rintro ⟨-, hown, hload⟩
    exact ⟨hown, hload⟩
  · rintro ⟨hown, hload⟩
    refine ⟨?_, hown, hload⟩
    rintro ⟨howner, -⟩
    exact Address.program_ne_systemProgram (hown.symm.trans howner)

theorem isOwn_of_loadRecord {value : α} (h : a.loadRecord = .ok value) : a.isOwn :=
  (loadRecord_eq_ok_iff.1 h).1

theorem loadMarker_eq_some_iff {m : Marker} :
    a.loadMarker Address.program = .ok (some m) ↔ a.loadRecord = .ok m := by
  rw [loadRecord_eq_ok_iff, loadMarker]
  by_cases hvacant : a.owner ≠ Address.program ∨ a.data = []
  · rw [if_pos hvacant]
    refine iff_of_false (by simp) ?_
    rintro ⟨hown, hload⟩
    obtain ⟨hlength, -⟩ := Record.load_eq_ok_iff.1 hload
    rcases hvacant with hforeign | hempty
    · exact hforeign hown
    · rw [hempty] at hlength
      exact absurd hlength (by decide)
  · rw [if_neg hvacant]
    have hown : a.isOwn := Decidable.not_not.1 fun h => hvacant (.inl h)
    cases Record.load (α := Marker) a.data with
    | error refused => exact iff_of_false (by simp [Except.map]) (by simp)
    | ok loaded => simp [Except.map, hown]

/-! ## Holding tokens -/

theorem loadToken_eq_ok_iff {t : TokenAccount} :
    a.loadToken = .ok t ↔ a.owner = Address.tokenProgram ∧ TokenAccount.unpack a.data = .ok t := by
  simp only [loadToken, bind_eq_ok_iff, ensure_eq_ok_iff, mapError_eq_ok_iff, exists_const]

/-- Only the token program keeps tokens. -/
theorem loadToken_of_owner_ne (h : a.owner ≠ Address.tokenProgram) :
    a.loadToken = .error .invalidTokenAccount := by
  rw [loadToken, ensure, if_neg h]
  rfl

theorem loadToken_congr (howner : a.owner = b.owner) (hdata : a.data = b.data) :
    a.loadToken = b.loadToken := by
  rw [loadToken, loadToken, howner, hdata]

theorem not_isOwn_of_owner_eq (h : a.owner = Address.systemProgram) : ¬a.isOwn := by
  intro hown
  exact Address.program_ne_systemProgram (hown.symm.trans h)

end Account

/-! ## Replacing an account -/

namespace Chain

variable {c d : Chain} {address target : Address} {lamports : UInt64} {data : Bytes}

@[simp] theorem owner_putLamports :
    ((c.putLamports target lamports).account address).owner = (c.account address).owner := by
  rw [putLamports, account_put]
  split
  next heq => rw [heq]
  next => rfl

@[simp] theorem data_putLamports :
    ((c.putLamports target lamports).account address).data = (c.account address).data := by
  rw [putLamports, account_put]
  split
  next heq => rw [heq]
  next => rfl

theorem lamports_putLamports :
    ((c.putLamports target lamports).account address).lamports =
      if address = target then lamports else (c.account address).lamports := by
  rw [putLamports, account_put]
  split <;> rfl

@[simp] theorem owner_putData :
    ((c.putData target data).account address).owner = (c.account address).owner := by
  rw [putData, account_put]
  split
  next heq => rw [heq]
  next => rfl

@[simp] theorem lamports_putData :
    ((c.putData target data).account address).lamports = (c.account address).lamports := by
  rw [putData, account_put]
  split
  next heq => rw [heq]
  next => rfl

theorem data_putData :
    ((c.putData target data).account address).data =
      if address = target then data else (c.account address).data := by
  rw [putData, account_put]
  split <;> rfl

/-! ## Storing a record -/

section Records

variable {α β : Type} [Record α] [Record β] {value : α}

theorem storeRecord_eq_ok_iff :
    c.storeRecord target value = .ok d ↔
      ∃ stored, Record.store (c.account target).data value = .ok stored ∧
        c.putData target stored = d := by
  simp only [storeRecord, bind_eq_ok_iff, pure_eq_ok_iff]

theorem account_storeRecord_of_ne (hne : address ≠ target)
    (h : c.storeRecord target value = .ok d) : d.account address = c.account address := by
  obtain ⟨stored, -, rfl⟩ := storeRecord_eq_ok_iff.1 h
  exact account_put_of_ne c hne _

theorem owner_storeRecord (h : c.storeRecord target value = .ok d) (address : Address) :
    (d.account address).owner = (c.account address).owner := by
  obtain ⟨stored, -, rfl⟩ := storeRecord_eq_ok_iff.1 h
  exact owner_putData

/-- Storing a record in an account of this program concerns no tokens. -/
theorem loadToken_storeRecord (hown : (c.account target).isOwn)
    (h : c.storeRecord target value = .ok d) (address : Address) :
    (d.account address).loadToken = (c.account address).loadToken := by
  by_cases hne : address = target
  · have hforeign : (c.account address).owner ≠ Address.tokenProgram := by
      rw [hne, hown]
      exact Address.tokenProgram_ne_program.symm
    rw [Account.loadToken_of_owner_ne hforeign, Account.loadToken_of_owner_ne]
    rwa [owner_storeRecord h]
  · rw [account_storeRecord_of_ne hne h]

theorem lamports_storeRecord (h : c.storeRecord target value = .ok d) (address : Address) :
    (d.account address).lamports = (c.account address).lamports := by
  obtain ⟨stored, -, rfl⟩ := storeRecord_eq_ok_iff.1 h
  exact lamports_putData

/-- A record is written over the data of an account, which keep their length. -/
theorem length_data_storeRecord (h : c.storeRecord target value = .ok d) (address : Address) :
    (d.account address).data.length = (c.account address).data.length := by
  obtain ⟨stored, hstore, rfl⟩ := storeRecord_eq_ok_iff.1 h
  obtain ⟨-, rfl⟩ := Record.store_eq_ok_iff.1 hstore
  rw [data_putData]
  split
  next heq => rw [heq, Bytes.length_writeOver]
  next => rfl

/-- What is stored in an account of this program is what it then holds. -/
theorem loadRecord_storeRecord (hown : (c.account target).isOwn)
    (hread : (Record.fields : Codec α).ReadsBack value)
    (h : c.storeRecord target value = .ok d) : (d.account target).loadRecord = .ok value := by
  refine Account.loadRecord_eq_ok_iff.2 ⟨(owner_storeRecord h target).trans hown, ?_⟩
  obtain ⟨stored, hstore, rfl⟩ := storeRecord_eq_ok_iff.1 h
  rw [data_putData, if_pos rfl]
  exact Record.load_of_store hread hstore

/-- Records of different types are at different addresses. -/
theorem ne_of_loadRecord {other : β} (hmark : Record.mark α ≠ Record.mark β)
    (h : (c.account address).loadRecord = .ok value)
    (h' : (c.account target).loadRecord = .ok other) : address ≠ target := by
  rintro rfl
  obtain ⟨-, hvalue⟩ := Account.loadRecord_eq_ok_iff.1 h
  obtain ⟨-, hother⟩ := Account.loadRecord_eq_ok_iff.1 h'
  exact hmark (Record.mark_eq_of_load hvalue hother)

end Records

end Chain

end Disbursement
