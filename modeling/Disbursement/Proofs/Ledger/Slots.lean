import Disbursement.Proofs.Ledger.Administration

/-!
# Records do not get into each other's way

The records of a ledger lie in one list, and an operation that changes one writes it back into its
slot. Whatever is done with a new ledger, the slots stay what they have to be: one place of the list
for each address in use.

* `Arena.Retains`: addresses in use keep their slots, and the records in them continue. It holds of
  one operation (`Ledger.retains_transact`) and so of every run (`Ledger.retains_after`).
* `Ledger.target?` is the address whose record an operation creates or updates,
  `Ledger.claimMarker?` that of the marker which a claim on a collection uses up besides. Every
  other record reads as before (`Ledger.get?_transact_of_ne`).
* `Ledger.KeepsRecordsApart` puts this together for one ledger; `Ledger.records_are_kept_apart` says
  it of every ledger that comes from a new one.
-/

namespace Disbursement

/-! ## Kinds of record -/

/-- The kinds of record. -/
inductive RecordKind where
  | vault
  | schedule
  | marker
  deriving DecidableEq

/-- The kind of a record. -/
def LedgerRecord.kind : LedgerRecord → RecordKind
  | .vault _ => .vault
  | .schedule _ => .schedule
  | .marker _ => .marker

/-- A record continues as one of its kind. -/
theorem LedgerRecord.Continues.kind_eq {record later : LedgerRecord} (h : Continues record later) :
    later.kind = record.kind := by
  cases h with
  | vault | schedule | marker => rfl

/-! ## Slots -/

namespace Arena

variable {arena created after later : Arena} {address other : Address} {record : LedgerRecord}
  {slot : ℕ}

/-- The slots of the addresses in use are the places of the list. -/
theorem Sound.exists_slot_iff (h : arena.Sound) :
    (∃ address, arena.slot? address = some slot) ↔ slot < arena.records.length :=
  ⟨fun ⟨_, hslot⟩ => h.slot_lt hslot, h.exists_slot⟩

/-- An address in use has a record. -/
theorem Sound.get?_of_slot (h : arena.Sound) (hslot : arena.slot? address = some slot) :
    ∃ record, arena.records[slot]? = some record ∧ arena.get? address = some record := by
  have hrecord := List.getElem?_eq_getElem (h.slot_lt hslot)
  refine ⟨_, hrecord, ?_⟩
  rw [get?, hslot, Option.bind_some, hrecord]

theorem create_of_slot (h : arena.slot? address = some slot) :
    arena.create address record = .error .accountAlreadyExists := by
  rw [create, h]
  rfl

/-- Addresses in use keep their slots, and the records in them continue. -/
structure Retains (before after : Arena) : Prop where
  slot_eq : ∀ {address slot}, before.slot? address = some slot → after.slot? address = some slot
  evolves : before.Evolves after

namespace Retains

theorem refl (arena : Arena) : Retains arena arena where
  slot_eq hslot := hslot
  evolves := .refl arena

theorem trans (h : Retains arena after) (h' : Retains after later) : Retains arena later where
  slot_eq hslot := h'.slot_eq (h.slot_eq hslot)
  evolves := h.evolves.trans h'.evolves

/-- What was in a slot is there as a later version of itself. -/
theorem exists_later (h : Retains arena after) (hsound : arena.Sound)
    (hslot : arena.slot? address = some slot) :
    ∃ record later, arena.records[slot]? = some record ∧ after.records[slot]? = some later ∧
      record.Continues later := by
  obtain ⟨record, hrecord, hfound⟩ := hsound.get?_of_slot hslot
  obtain ⟨later, hlater, hcontinues⟩ := h.evolves.continues hfound
  rw [get?, h.slot_eq hslot, Option.bind_some] at hlater
  exact ⟨record, later, hrecord, hlater, hcontinues⟩

end Retains

theorem slot?_of_create (hcreate : arena.create address record = .ok created)
    (hslot : arena.slot? other = some slot) : created.slot? other = some slot := by
  obtain ⟨hfree, rfl⟩ := create_eq_ok_iff.1 hcreate
  have hne : other ≠ address := by
    rintro rfl
    exact absurd (hfree.symm.trans hslot) (by simp)
  exact (if_neg hne).trans hslot

end Arena

namespace Ledger

variable {l m : Ledger} {operation : LedgerOperation} {operations : List LedgerOperation}
  {answer : LedgerAnswer} {arena before after : Arena} {address other : Address} {r : RedeemRequest}
  {s : Schedule}

/-! ## Runs -/

theorem UsesUp.slot?_eq (h : UsesUp before address r s after) : after.slot? = before.slot? := by
  cases h with
  | bit => exact Arena.slot?_update ..
  | marker => rw [Arena.slot?_update, Arena.slot?_update]

theorem Writes.retains (h : Writes l operation answer arena) (hsound : l.arena.Sound) :
    l.arena.Retains arena where
  slot_eq hslot := by
    cases h with
    | nothing => exact hslot
    | opensVault _ _ _ creates => exact Arena.slot?_of_create creates hslot
    | publishes _ _ _ creates => exact Arena.slot?_of_create creates hslot
    | createsMarker _ _ _ _ _ _ creates => exact Arena.slot?_of_create creates hslot
    | changesVault => rwa [Arena.slot?_update]
    | setsStatus => rwa [Arena.slot?_update]
    | redeems _ _ _ uses => rwa [uses.slot?_eq]
  evolves := h.evolves hsound

theorem retains_transact (hsound : l.arena.Sound) :
    l.arena.Retains (l.transact operation).2.arena := by
  rcases arena_transact l operation with hkept | ⟨answer, hwrites⟩
  · rw [hkept]
    exact .refl _
  · exact hwrites.retains hsound

theorem retains_after (hsound : l.arena.Sound) (operations : List LedgerOperation) :
    l.arena.Retains (l.after operations).arena := by
  induction operations generalizing l with
  | nil => exact .refl _
  | cons operation operations ih =>
    exact (retains_transact hsound).trans (ih (sound_transact hsound))

/-! ## Which records an operation writes -/

/-- The address at which an operation creates or updates a record: the vault or the schedule that it
names, or where the address of a new record is derived. -/
def target? (l : Ledger) : LedgerOperation → Option Address
  | .setNow _ | .fund .. | .mintNft .. | .transferNft .. | .withdraw .. => none
  | .createVault _ name => ((Identity.vault (vaultPath name)).find Address.program).map Prod.fst
  | .setVault _ vault _ | .transferOwnership _ vault _ | .acceptOwnership _ vault
  | .cancelOwnershipTransfer _ vault => some vault
  | .createSchedule _ _ _ terms =>
    ((Identity.schedule terms.eventId).find Address.program).map Prod.fst
  | .setScheduleStatus _ _ schedule _ | .redeem _ schedule _ => some schedule
  | .initRedeemIndex schedule index nftMint =>
    (l.schedule? schedule).bind fun s =>
      ((Identity.marker s.eventId index (s.markerKey nftMint)).find Address.program).map Prod.fst

/-- The address of the marker for a redemption by collection from a schedule of that kind. -/
def claimMarker? (l : Ledger) : LedgerOperation → Option Address
  | .redeem _ schedule r =>
    match l.schedule? schedule, r.entitlement with
    | some s, .collection mint _ =>
      if s.kind = .collection then
        ((Identity.marker s.eventId r.index (s.markerKey mint)).find Address.program).map Prod.fst
      else none
    | _, _ => none
  | _ => none

theorem UsesUp.get?_of_ne (h : UsesUp before address r s after) (hsound : before.Sound)
    (hne : other ≠ address)
    (hmarker : ∀ mint group place bump, r.entitlement = .collection mint group →
      (Identity.marker s.eventId r.index (s.markerKey mint)).find Address.program =
        some (place, bump) → other ≠ place) :
    after.get? other = before.get? other := by
  cases h with
  | bit bits mode mark => rw [hsound.get?_update, if_neg hne]
  | marker mint group place bump unused used entitlement derived found mark =>
    have hplace : other ≠ place := hmarker mint group place bump entitlement derived
    rw [(hsound.update _ _).get?_update, if_neg hplace, hsound.get?_update, if_neg hne]

theorem target?_of_vaultChanged? (h : operation.vaultChanged? = some address) :
    l.target? operation = some address := by
  cases operation with
  | setVault | transferOwnership | acceptOwnership | cancelOwnershipTransfer => exact h
  | _ => cases h

/-- `Writes` does not say where a new vault or schedule is, so these are left to
`get?_perform_of_ne`. -/
theorem Writes.get?_of_ne (h : Writes l operation answer arena) (hsound : l.arena.Sound)
    (hvault : ∀ owner name, operation ≠ .createVault owner name)
    (hschedule : ∀ caller vault kind terms, operation ≠ .createSchedule caller vault kind terms)
    (htarget : l.target? operation ≠ some other) (hmarker : l.claimMarker? operation ≠ some other) :
    arena.get? other = l.arena.get? other := by
  cases h with
  | nothing => rfl
  | opensVault => exact absurd rfl (hvault _ _)
  | publishes => exact absurd rfl (hschedule _ _ _ _)
  | changesVault address v w target found =>
    rw [hsound.get?_update, if_neg]
    rintro rfl
    exact htarget (target?_of_vaultChanged? target)
  | setsStatus s found =>
    rw [hsound.get?_update, if_neg]
    rintro rfl
    exact htarget rfl
  | createsMarker s place bump arena found derived creates =>
    rw [hsound.get?_of_create creates, if_neg]
    rintro rfl
    exact htarget (by rw [target?, schedule?_eq_some_iff.2 found, Option.bind_some, derived]; rfl)
  | @redeems user address r payout arena s found kind uses =>
    refine uses.get?_of_ne hsound (fun hsame => htarget (congrArg some hsame.symm)) ?_
    rintro mint group place bump entitlement derived rfl
    have hcollection : s.kind = .collection := by rw [kind, entitlement]; rfl
    refine hmarker ?_
    simp only [claimMarker?, schedule?_eq_some_iff.2 found, entitlement, if_pos hcollection,
      derived, Option.map_some]

/-- An operation leaves alone the records at all addresses but its own, and that of the claim's
marker. -/
theorem get?_perform_of_ne (hsound : l.arena.Sound) (h : l.perform operation = .ok (answer, m))
    (htarget : l.target? operation ≠ some other) (hmarker : l.claimMarker? operation ≠ some other) :
    m.arena.get? other = l.arena.get? other := by
  cases operation with
  | createVault owner name =>
    obtain ⟨address, bump, signer, nonce, arena, hfind, -, hcreate, rfl⟩ := of_createVault h
    rw [hsound.get?_of_create hcreate, if_neg]
    rintro rfl
    exact htarget (by rw [target?, hfind]; rfl)
  | createSchedule caller vault kind terms =>
    obtain ⟨address, bump, s, arena, hfind, -, hcreate, rfl⟩ := of_createSchedule h
    rw [hsound.get?_of_create hcreate, if_neg]
    rintro rfl
    exact htarget (by rw [target?, hfind]; rfl)
  | _ => exact (writes_perform h).get?_of_ne hsound (by simp) (by simp) htarget hmarker

theorem get?_transact_of_ne (hsound : l.arena.Sound) (htarget : l.target? operation ≠ some other)
    (hmarker : l.claimMarker? operation ≠ some other) :
    (l.transact operation).2.arena.get? other = l.arena.get? other := by
  rw [transact_eq_perform]
  cases hperform : l.perform operation with
  | error failure => rfl
  | ok result => exact get?_perform_of_ne hsound hperform htarget hmarker

/-! ## The ledgers that come from a new one -/

/-- The records of a ledger do not get into each other's way. -/
structure KeepsRecordsApart (l : Ledger) : Prop where
  /-- Two addresses do not share a slot. -/
  slot_inj : ∀ {address other slot}, l.arena.slot? address = some slot →
    l.arena.slot? other = some slot → address = other
  /-- The slots are the places of the list, and none of these is left over. -/
  exists_slot_iff : ∀ {slot},
    (∃ address, l.arena.slot? address = some slot) ↔ slot < l.arena.records.length
  /-- Whatever is done next, an address in use keeps its slot, with a record of the same kind in
  it. -/
  stays : ∀ {address slot} (operations : List LedgerOperation), l.arena.slot? address = some slot →
    (l.after operations).arena.slot? address = some slot ∧
      ∃ record later, l.arena.records[slot]? = some record ∧
        (l.after operations).arena.records[slot]? = some later ∧ later.kind = record.kind
  /-- A record is created where there is none. -/
  exists_create_iff : ∀ {address} (record : LedgerRecord),
    (∃ m, l.create address record = .ok m) ↔ l.arena.slot? address = none
  /-- An address in use is refused as that. -/
  create_of_slot : ∀ {address slot} (record : LedgerRecord), l.arena.slot? address = some slot →
    l.create address record = .error .accountAlreadyExists
  /-- What is created is read at its own address, and nowhere else. -/
  get?_create : ∀ {address record m}, l.create address record = .ok m → ∀ other,
    m.arena.get? other = if other = address then some record else l.arena.get? other
  /-- What is written back is read at its own address, and nowhere else. -/
  get?_update : ∀ {address slot} (record : LedgerRecord), l.arena.slot? address = some slot →
    ∀ other, (l.update address record).arena.get? other =
      if other = address then some record else l.arena.get? other
  /-- An operation leaves alone what is read at any address that is neither its target nor the
  marker of a claim on a collection. -/
  get?_transact : ∀ {operation other}, l.target? operation ≠ some other →
    l.claimMarker? operation ≠ some other →
      (l.transact operation).2.arena.get? other = l.arena.get? other

theorem keepsRecordsApart_of_sound (hsound : l.arena.Sound) : l.KeepsRecordsApart where
  slot_inj := hsound.slot_inj
  exists_slot_iff := hsound.exists_slot_iff
  stays operations hslot := by
    have hretains := retains_after hsound operations
    obtain ⟨record, later, hrecord, hlater, hcontinues⟩ := hretains.exists_later hsound hslot
    exact ⟨hretains.slot_eq hslot, record, later, hrecord, hlater, hcontinues.kind_eq⟩
  exists_create_iff record := by
    constructor
    · rintro ⟨m, hcreate⟩
      obtain ⟨created, hcreated, -⟩ := create_eq_ok_iff.1 hcreate
      exact (Arena.create_eq_ok_iff.1 hcreated).1
    · intro hfree
      exact ⟨_, create_eq_ok_iff.2 ⟨_, Arena.create_eq_ok_iff.2 ⟨hfree, rfl⟩, rfl⟩⟩
  create_of_slot record hslot := by
    rw [create, Arena.create_of_slot hslot]
    rfl
  get?_create hcreate := by
    obtain ⟨created, hcreated, rfl⟩ := create_eq_ok_iff.1 hcreate
    exact hsound.get?_of_create hcreated
  get?_update record hslot other := by
    obtain ⟨earlier, -, hfound⟩ := hsound.get?_of_slot hslot
    refine (hsound.get?_update ..).trans ?_
    rw [hfound, Option.map_some]
  get?_transact := get?_transact_of_ne hsound

/-- The records of a ledger are kept apart, whatever was done with it since it was new: every
address in use has a slot of its own for good, with one kind of record in it, and what is read there
changes only by operations on that address, or by the claim whose marker it is. -/
theorem records_are_kept_apart (operations : List LedgerOperation) :
    (new.after operations).KeepsRecordsApart :=
  keepsRecordsApart_of_sound (Reachable.fitting ⟨operations, rfl⟩).sound

end Ledger

end Disbursement
