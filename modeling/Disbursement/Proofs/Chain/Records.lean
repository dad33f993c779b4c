import Disbursement.Proofs.Chain.Flow

/-!
# Records that are written

A record is written in two ways. Over an older one of its type: then it `Chain.Turns` from the one
into the other, in an account that keeps its length. Or into a new account, which `Chain.Creates`
it. Both are said between two moments of the chain that need not be next to each other: what happens
elsewhere, or to assets only, does not matter (`Chain.Turns.after`, `Chain.Turns.before`).
-/

namespace Disbursement.Chain

variable {α : Type} [Record α] {c d e : Chain} {address target : Address} {targets : List Address}
  {old new value : α} {space : ℕ} {lamports : Address → ℕ}

/-- The record at an address turns into another one. -/
structure Turns (before after : Chain) (address : Address) (old new : α) : Prop where
  loaded : (before.account address).loadRecord = .ok old
  stored : (after.account address).loadRecord = .ok new
  length_eq : (after.account address).data.length = (before.account address).data.length

namespace Turns

theorem of_storeRecord (hload : (c.account target).loadRecord = .ok old)
    (hread : (Record.fields : Codec α).ReadsBack new) (h : c.storeRecord target new = .ok d) :
    c.Turns d target old new where
  loaded := hload
  stored := loadRecord_storeRecord (Account.isOwn_of_loadRecord hload) hread h
  length_eq := length_data_storeRecord h target

/-- What happens elsewhere afterwards does not matter. -/
theorem before (h : c.Turns d address old new) (hagrees : d.AgreesOff e targets)
    (hmem : address ∉ targets) : c.Turns e address old new where
  loaded := h.loaded
  stored := (hagrees.loadRecord_iff hmem).2 h.stored
  length_eq := by
    rw [(hagrees address hmem).2 (Account.isOwn_of_loadRecord h.stored)]
    exact h.length_eq

/-- What happens elsewhere in advance does not matter. -/
theorem after (h : d.Turns e address old new) (hagrees : c.AgreesOff d targets)
    (hmem : address ∉ targets) : c.Turns e address old new where
  loaded := (hagrees.loadRecord_iff hmem).1 h.loaded
  stored := h.stored
  length_eq := by
    have hown := Account.isOwn_of_loadRecord ((hagrees.loadRecord_iff hmem).1 h.loaded)
    rw [h.length_eq, (hagrees address hmem).2 hown]

end Turns

/-- A record appears in a new account, and nothing happens elsewhere. -/
structure Creates (before after : Chain) (address : Address) (new : α) (space : ℕ) : Prop where
  foreign : ¬(before.account address).isOwn
  stored : (after.account address).loadRecord = .ok new
  length_eq : (after.account address).data.length = space
  elsewhere : before.AgreesOff after [address]

theorem Creates.spares (h : c.Creates d address value space) : c.Spares d :=
  h.elsewhere.spares (List.forall_mem_singleton.2 h.foreign)

theorem Opens.creates (h : c.Opens d target space lamports)
    (hread : (Record.fields : Codec α).ReadsBack value)
    (hstore : d.storeRecord target value = .ok e) : c.Creates e target value space where
  foreign := h.not_isOwn
  stored := loadRecord_storeRecord h.isOwn hread hstore
  length_eq := by rw [length_data_storeRecord hstore, h.data, List.length_replicate]
  elsewhere := h.agreesOff.trans (.of_storeRecord hstore)

end Disbursement.Chain
