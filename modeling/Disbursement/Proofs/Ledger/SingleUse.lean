import Disbursement.Proofs.Ledger.Run
import Disbursement.Proofs.Program.SingleUse

/-!
# Single use of the slots of a ledger

Any operations may be carried out on a new ledger, one after another. Of those that succeed, two
never redeem the same slot or open it twice, and no slot of a collection is redeemed before it was
opened (`ledger_slots_are_single_use`).

A redemption leaves its mark, a bit of the schedule (`isRedeemed_of_bit`) or the flag of a marker
(`isRedeemed_of_marker`), and the records only evolve after that. Markers come from nowhere else
than `Ledger.initRedeemIndex`: `MarkersOpened` is the invariant that says so of all that are there.
-/

namespace Disbursement

open Program (ApartByToken perMint_of_markerKey_ne)

namespace LedgerSuccess

/-- The operation opened the slot at this address. -/
def Opens (x : LedgerSuccess) (place : Address) : Prop :=
  ∃ address index nftMint, x.operation = .initRedeemIndex address index nftMint ∧
    x.answer = .address place

/-- Two operations do not use up one slot, and do not open one. -/
structure Apart (x y : LedgerSuccess) : Prop where
  /-- Two redemptions of one schedule and one index are by collection, for different tokens. -/
  redeem : ∀ user user' address r r', x.operation = .redeem user address r →
    y.operation = .redeem user' address r' → r.index = r'.index →
      ∃ s t, x.before.schedule? address = some s ∧ y.before.schedule? address = some t ∧
        ApartByToken s t r r'
  /-- Two openings for one schedule and one index are for different keys. -/
  initRedeemIndex : ∀ address index nftMint nftMint',
    x.operation = .initRedeemIndex address index nftMint →
      y.operation = .initRedeemIndex address index nftMint' →
        ∃ s t, x.before.schedule? address = some s ∧ y.before.schedule? address = some t ∧
          s.markerKey nftMint ≠ t.markerKey nftMint'

end LedgerSuccess

namespace Ledger

variable {l l' : Ledger} {operation : LedgerOperation} {operations : List LedgerOperation}
  {answer answer' : LedgerAnswer} {before after before' after' later arena arena' : Arena}
  {user user' address place : Address} {r r' : RedeemRequest} {s t : Schedule} {m used : Marker}
  {bits : RedemptionBitmap} {index : UInt16} {nftMint nftMint' : Address}

/-! ## The mark that is left -/

/-- The bit is set afterwards, however the records evolve. -/
theorem isRedeemed_of_bit
    (hfound : before.get? address = some (.schedule s))
    (hmark : s.redemptions.mark index = .ok bits)
    (hevolves :
      (before.update address (.schedule { s with redemptions := bits })).Evolves later)
    (hlater : later.get? address = some (.schedule t)) :
    t.redemptions.isRedeemed index = .ok true := by
  have hcontinues := hevolves.schedule (Arena.get?_update_self hfound) hlater
  exact hcontinues.redemptions.redeemed index (RedemptionBitmap.isRedeemed_mark hmark)

/-- The marker is redeemed afterwards, however the records evolve. -/
theorem isRedeemed_of_marker {unused : Marker}
    (hfound : before.get? place = some (.marker unused)) (hmark : unused.mark index = .ok used)
    (hevolves : (before.update place (.marker used)).Evolves later)
    (hlater : later.get? place = some (.marker m)) : m.isRedeemed = true := by
  have hcontinues := hevolves.marker (Arena.get?_update_self hfound) hlater
  exact hcontinues.redeemed (Marker.isRedeemed_of_mark hmark)

/-! ## Two redemptions -/

theorem of_writes_redeem (h : Writes l (.redeem user address r) answer arena) :
    ∃ s, l.arena.get? address = some (.schedule s) ∧ s.kind = r.entitlement.kind ∧
      UsesUp l.arena address r s arena := by
  cases h with
  | nothing kept => exact absurd kept (by simp [LedgerOperation.keepsRecords])
  | changesVault _ _ _ target => exact absurd target (by simp [LedgerOperation.vaultChanged?])
  | redeems s found kind uses => exact ⟨s, found, kind, uses⟩

/-- The later redemption finds the mark of the earlier one, so it is for another token. -/
theorem UsesUp.apart (h : UsesUp before address r s after) (h' : UsesUp before' address r' t after')
    (hsound : before.Sound) (hfound : before.get? address = some (.schedule s))
    (hfound' : before'.get? address = some (.schedule t)) (hkind : s.kind = r.entitlement.kind)
    (hkind' : t.kind = r'.entitlement.kind) (hevolves : after.Evolves before')
    (hindex : r.index = r'.index) : ApartByToken s t r r' := by
  have hcontinues := ((h.evolves hsound hfound).trans hevolves).schedule hfound hfound'
  cases h with
  | bit bits mode mark =>
    have hset := isRedeemed_of_bit hfound mark hevolves hfound'
    cases h' with
    | bit bits' mode' mark' =>
      rw [hindex] at hset
      exact absurd mark' (RedemptionBitmap.Extends.not_mark (.refl _) hset)
    | marker mint' group' place' bump' unused' used' entitlement' derived' found' mark' =>
      rw [← hcontinues.kind_eq, hkind', entitlement'] at mode
      exact absurd mode (by simp [Entitlement.kind, ScheduleKind.trackingMode])
  | marker mint group place bump unused used entitlement derived found mark =>
    have hcollection : s.kind = .collection := by rw [hkind, entitlement]; rfl
    cases h' with
    | bit bits' mode' mark' =>
      rw [hcontinues.kind_eq, hcollection] at mode'
      exact absurd mode' (by simp [ScheduleKind.trackingMode])
    | marker mint' group' place' bump' unused' used' entitlement' derived' found' mark' =>
      -- with the same key, both would use the marker at the same address
      have hkey : s.markerKey mint ≠ s.markerKey mint' := by
        intro hsame
        rw [hcontinues.eventId_eq, hcontinues.markerKey_eq, ← hsame, ← hindex, derived] at derived'
        obtain ⟨rfl, -⟩ := Prod.mk.inj (Option.some.inj derived')
        have hthere := (hsound.get?_update_of_get? hfound place).trans found
        have hused := isRedeemed_of_marker hthere mark hevolves found'
        exact Marker.mark_ne_ok hused mark'
      obtain ⟨hscope, hne⟩ := perMint_of_markerKey_ne hkey
      exact ⟨⟨hcollection, hscope⟩,
        ⟨hcontinues.kind_eq.trans hcollection, hcontinues.scope_eq.trans hscope⟩,
        mint, group, mint', group', entitlement, entitlement', hne⟩

/-! ## Two openings -/

theorem of_writes_initRedeemIndex
    (h : Writes l (.initRedeemIndex address index nftMint) answer arena) :
    ∃ s place bump, l.arena.get? address = some (.schedule s) ∧
      (Identity.marker s.eventId index (s.markerKey nftMint)).find Address.program =
        some (place, bump) ∧ answer = .address place ∧
      l.arena.create place (.marker (Marker.create bump address index (s.markerKey nftMint))) =
        .ok arena := by
  cases h with
  | nothing kept => exact absurd kept (by simp [LedgerOperation.keepsRecords])
  | changesVault _ _ _ target => exact absurd target (by simp [LedgerOperation.vaultChanged?])
  | createsMarker s place bump arena found derived creates =>
    exact ⟨s, place, bump, found, derived, rfl, creates⟩

/-- The later opening would create the marker of the earlier one, so it is for another key. -/
theorem markerKey_ne_of_initRedeemIndex (hsound : l.arena.Sound)
    (h : Writes l (.initRedeemIndex address index nftMint) answer arena)
    (h' : Writes l' (.initRedeemIndex address index nftMint') answer' arena')
    (hevolves : arena.Evolves l'.arena) :
    ∃ s t, l.arena.get? address = some (.schedule s) ∧
      l'.arena.get? address = some (.schedule t) ∧ s.markerKey nftMint ≠ t.markerKey nftMint' := by
  obtain ⟨s, place, bump, hfound, hfind, -, hcreate⟩ := of_writes_initRedeemIndex h
  obtain ⟨t, place', bump', hfound', hfind', -, hcreate'⟩ := of_writes_initRedeemIndex h'
  refine ⟨s, t, hfound, hfound', fun hsame => ?_⟩
  have hcontinues := ((h.evolves hsound).trans hevolves).schedule hfound hfound'
  rw [hcontinues.eventId_eq, ← hsame, hfind] at hfind'
  obtain ⟨rfl, -⟩ := Prod.mk.inj (Option.some.inj hfind')
  have hthere := hsound.get?_of_create hcreate place
  rw [if_pos rfl] at hthere
  obtain ⟨_, hn, -⟩ := hevolves.continues hthere
  obtain ⟨hfree, -⟩ := Arena.create_eq_ok_iff.1 hcreate'
  rw [Arena.get?, hfree] at hn
  exact absurd hn (by simp)

/-! ## Where markers come from -/

/-- Every marker was opened by one of these operations. -/
def MarkersOpened (arena : Arena) (earlier : List LedgerSuccess) : Prop :=
  ∀ place m, arena.get? place = some (.marker m) → ∃ x ∈ earlier, x.Opens place

theorem markersOpened_new : MarkersOpened new.arena [] := by
  intro place m hget
  exact absurd hget (by simp [new, Arena.empty, Arena.get?])

/-- A marker that is there after an operation was there before, or the operation opened it. -/
theorem Writes.marker_before (h : Writes l operation answer arena) (hsound : l.arena.Sound)
    (hget : arena.get? place = some (.marker m)) :
    (∃ k, l.arena.get? place = some (.marker k)) ∨
      LedgerSuccess.Opens { before := l, operation, answer } place := by
  cases h with
  | nothing => exact .inl ⟨m, hget⟩
  | opensVault address v arena creates =>
    exact .inl ⟨m, hsound.get?_before_create creates hget (by simp)⟩
  | publishes address s arena creates =>
    exact .inl ⟨m, hsound.get?_before_create creates hget (by simp)⟩
  | createsMarker s place' bump arena found derived creates =>
    rcases hsound.get?_or_of_create creates hget with hbefore | ⟨rfl, -⟩
    · exact .inl ⟨m, hbefore⟩
    · exact .inr ⟨_, _, _, rfl, rfl⟩
  | changesVault address v w => exact .inl ⟨m, hsound.get?_before_update hget (by simp)⟩
  | setsStatus s => exact .inl ⟨m, hsound.get?_before_update hget (by simp)⟩
  | redeems s found kind uses =>
    cases uses with
    | bit => exact .inl ⟨m, hsound.get?_before_update hget (by simp)⟩
    | marker mint group place' bump unused used entitlement derived there mark =>
      rcases (hsound.update _ _).get?_or_of_update hget with hget | ⟨rfl, -⟩
      · rw [hsound.get?_update_of_get? found] at hget
        exact .inl ⟨m, hget⟩
      · exact .inl ⟨unused, there⟩

theorem MarkersOpened.perform {earlier : List LedgerSuccess} (h : MarkersOpened l.arena earlier)
    (hsound : l.arena.Sound) (hwrites : Writes l operation answer arena) :
    MarkersOpened arena (earlier ++ [{ before := l, operation, answer }]) := by
  intro place m hget
  rcases hwrites.marker_before hsound hget with ⟨k, hk⟩ | hopens
  · obtain ⟨x, hx, hopens⟩ := h place k hk
    exact ⟨x, List.mem_append_left _ hx, hopens⟩
  · exact ⟨_, List.mem_append_right _ (List.mem_singleton_self _), hopens⟩

/-! ## Whole runs -/

/-- A success and a later one. -/
theorem apart_of_writes {x y : LedgerSuccess} (hsound : x.before.arena.Sound)
    (hx : Writes x.before x.operation x.answer arena)
    (hy : Writes y.before y.operation y.answer arena') (hevolves : arena.Evolves y.before.arena) :
    x.Apart y := by
  obtain ⟨l, operation, answer⟩ := x
  obtain ⟨l', operation', answer'⟩ := y
  constructor
  · rintro user user' address r r' rfl rfl hindex
    obtain ⟨s, hfound, hkind, huses⟩ := of_writes_redeem hx
    obtain ⟨t, hfound', hkind', huses'⟩ := of_writes_redeem hy
    exact ⟨s, t, schedule?_eq_some_iff.2 hfound, schedule?_eq_some_iff.2 hfound',
      huses.apart huses' hsound hfound hfound' hkind hkind' hevolves hindex⟩
  · rintro address index nftMint nftMint' rfl rfl
    obtain ⟨s, t, hfound, hfound', hne⟩ := markerKey_ne_of_initRedeemIndex hsound hx hy hevolves
    exact ⟨s, t, schedule?_eq_some_iff.2 hfound, schedule?_eq_some_iff.2 hfound', hne⟩

theorem pairwise_apart_successes (hsound : l.arena.Sound) (operations : List LedgerOperation) :
    (l.successes operations).Pairwise LedgerSuccess.Apart := by
  induction operations generalizing l with
  | nil => exact .nil
  | cons operation operations ih =>
    rw [successes]
    cases hperform : l.perform operation with
    | error failure => exact ih hsound
    | ok result =>
      obtain ⟨answer, m⟩ := result
      have hwrites := writes_perform hperform
      refine List.pairwise_cons.2 ⟨fun y hy => ?_, ih (hwrites.sound hsound)⟩
      obtain ⟨-, hevolves, m', hperform'⟩ := evolves_of_mem_successes (hwrites.sound hsound) hy
      exact apart_of_writes hsound hwrites (writes_perform hperform') hevolves

/-- The induction is on the operations to come; those that have succeeded are remembered. -/
theorem markersOpened_before {earlier before after : List LedgerSuccess} {x : LedgerSuccess}
    (h : MarkersOpened l.arena earlier) (hsound : l.arena.Sound)
    (hsplit : l.successes operations = before ++ x :: after) :
    MarkersOpened x.before.arena (earlier ++ before) := by
  induction operations generalizing l earlier before with
  | nil => exact absurd hsplit (by simp [successes])
  | cons operation operations ih =>
    rw [successes] at hsplit
    cases hperform : l.perform operation with
    | error failure =>
      rw [hperform] at hsplit
      exact ih h hsound hsplit
    | ok result =>
      obtain ⟨answer, m⟩ := result
      have hwrites := writes_perform hperform
      rw [hperform] at hsplit
      cases before with
      | nil =>
        obtain ⟨rfl, -⟩ := List.cons.inj hsplit
        rw [List.append_nil]
        exact h
      | cons first before =>
        obtain ⟨rfl, hrest⟩ := List.cons.inj hsplit
        rw [List.append_cons]
        exact ih (h.perform hsound hwrites) (hwrites.sound hsound) hrest

/-- The slots of a ledger are used once. Whatever is done with a new ledger, two successful
redemptions of one schedule and one index are both by collection, from a schedule with a slot per
token, and for different tokens; two successful openings for one schedule and one index are for
different keys; and before every successful redemption by collection, the marker was opened at the
address that is derived for its slot. -/
theorem ledger_slots_are_single_use (operations : List LedgerOperation) :
    (new.successes operations).Pairwise LedgerSuccess.Apart ∧
      ∀ earlier x later, new.successes operations = earlier ++ x :: later →
        ∀ user address r mint group, x.operation = .redeem user address r →
          r.entitlement = .collection mint group →
            ∃ s place bump, x.before.schedule? address = some s ∧
              (Identity.marker s.eventId r.index (s.markerKey mint)).find Address.program =
                some (place, bump) ∧
              ∃ y ∈ earlier, y.Opens place := by
  refine ⟨pairwise_apart_successes Arena.sound_empty operations, ?_⟩
  rintro earlier x later hsplit user address r mint group hoperation he
  have hopened := markersOpened_before markersOpened_new Arena.sound_empty hsplit
  obtain ⟨-, -, m, hperform⟩ := evolves_of_mem_successes Arena.sound_empty
    (hsplit ▸ List.mem_append_right _ List.mem_cons_self)
  have hwrites := writes_perform hperform
  rw [hoperation] at hwrites
  obtain ⟨s, hfound, hkind, huses⟩ := of_writes_redeem hwrites
  generalize m.arena = arena at huses
  cases huses with
  | bit bits mode mark =>
    rw [hkind, he] at mode
    exact absurd mode (by simp [Entitlement.kind, ScheduleKind.trackingMode])
  | marker mint' group' place bump unused used entitlement derived found mark =>
    obtain ⟨rfl, rfl⟩ := Entitlement.collection.inj (he.symm.trans entitlement)
    exact ⟨s, place, bump, schedule?_eq_some_iff.2 hfound, derived, hopened place unused found⟩

end Ledger

end Disbursement
