import Disbursement.Proofs.Chain.Accounts

/-!
# What other programs leave alone

A program changes only its own accounts. Two relations say how much of what this program keeps is
left alone between two moments of the chain:

* `Chain.Spares`: no account of this program changes its owner or its data. New ones may appear.
* `Chain.AgreesOff`: away from a list of addresses, the accounts of this program are the same ones
  with the same data. Nothing appears and nothing goes.
-/

namespace Disbursement.Chain

variable {c d e : Chain} {address target : Address} {targets others : List Address}

/-! ## Sparing -/

/-- No account of this program changes its owner or its data. -/
def Spares (before after : Chain) : Prop :=
  ∀ address, (before.account address).isOwn →
    (after.account address).isOwn ∧
      (after.account address).data = (before.account address).data

theorem Spares.refl (c : Chain) : c.Spares c :=
  fun _ hown => ⟨hown, rfl⟩

theorem Spares.loadRecord {α : Type} [Record α] {value : α} (h : c.Spares d)
    (hload : (c.account address).loadRecord = .ok value) :
    (d.account address).loadRecord = .ok value := by
  obtain ⟨hown, hrecord⟩ := Account.loadRecord_eq_ok_iff.1 hload
  obtain ⟨hown', hdata⟩ := h address hown
  exact Account.loadRecord_eq_ok_iff.2 ⟨hown', by rw [hdata, hrecord]⟩

/-! ## Agreement -/

/-- At every other address, an account belongs to this program before if and only if it does after,
and then its data are the same. -/
def AgreesOff (before after : Chain) (targets : List Address) : Prop :=
  ∀ address, address ∉ targets →
    ((after.account address).isOwn ↔ (before.account address).isOwn) ∧
      ((before.account address).isOwn →
        (after.account address).data = (before.account address).data)

namespace AgreesOff

theorem mono (h : c.AgreesOff d targets) (hsub : targets ⊆ others) : c.AgreesOff d others :=
  fun address hmem => h address fun hmem' => hmem (hsub hmem')

theorem trans (h : c.AgreesOff d targets) (h' : d.AgreesOff e targets) :
    c.AgreesOff e targets := by
  intro address hmem
  obtain ⟨hown, hdata⟩ := h address hmem
  obtain ⟨hown', hdata'⟩ := h' address hmem
  exact ⟨hown'.trans hown, fun hbefore => (hdata' (hown.2 hbefore)).trans (hdata hbefore)⟩

/-- Storing a record concerns one address. -/
theorem of_storeRecord {α : Type} [Record α] {value : α} (h : c.storeRecord target value = .ok d) :
    c.AgreesOff d [target] := by
  intro address hmem
  rw [account_storeRecord_of_ne (List.ne_of_not_mem_cons hmem) h]
  exact ⟨Iff.rfl, fun _ => rfl⟩

/-- Where the addresses belong to others, the records are spared. -/
theorem spares (h : c.AgreesOff d targets)
    (hforeign : ∀ target ∈ targets, ¬(c.account target).isOwn) : c.Spares d := by
  intro address hown
  obtain ⟨hiff, hdata⟩ := h address fun hmem => hforeign address hmem hown
  exact ⟨hiff.2 hown, hdata hown⟩

/-- Records at other addresses are the same. -/
theorem loadRecord_iff {α : Type} [Record α] {value : α} (h : c.AgreesOff d targets)
    (hmem : address ∉ targets) :
    (d.account address).loadRecord = .ok value ↔ (c.account address).loadRecord = .ok value := by
  obtain ⟨hown, hdata⟩ := h address hmem
  rw [Account.loadRecord_eq_ok_iff, Account.loadRecord_eq_ok_iff, hown]
  exact and_congr_right fun hbefore => by rw [hdata hbefore]

end AgreesOff

end Disbursement.Chain
