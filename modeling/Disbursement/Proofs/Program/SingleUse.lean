import Disbursement.Proofs.Program.Evolution

/-!
# At most one payout per slot

Any calls may be made, one after another, by anyone and with any accounts; those that fail leave the
chain as it was. Of those that succeed, two never redeem the same slot: if two redemptions concern
one schedule and one index, then the schedule is for a collection, keeps a slot per token, and the
two claims hold different tokens (`at_most_one_payout_per_slot`).

The first of two redemptions leaves its mark, a bit of the schedule or the flag of a marker
(`Redeemed.isRedeemed_bit`, `Redeemed.isRedeemed_marker`). The chain only evolves after that, so the
mark is still there when the second one looks, and a redemption needs it to be absent.
-/

namespace Disbursement.Program

variable {c d marked paid marked' paid' : Chain} {call call' : Call} {calls : List Call}
  {r r' : RedeemRequest} {a a' : RedeemAccounts} {marker marker' : Option Marker}
  {settlement settlement' : Settlement} {out out' : Outcome} {schedule : Address}

/-! ## Runs -/

/-- The calls that succeed when calls are made one after another, each with the chain before it. -/
def successes : Chain → List Call → List (Chain × Call)
  | _, [] => []
  | c, call :: calls =>
    match execute c call with
    | .ok receipt => (c, call) :: successes receipt.chain calls
    | .error _ => successes c calls

/-- The call asks to redeem from a schedule, which is its second account. -/
def Redeems (call : Call) (schedule : Address) (r : RedeemRequest) : Prop :=
  Instruction.decode call.data = .ok (.redeem r) ∧ call.addresses[1]? = some schedule

/-- A success happens on a chain that the first one has become. -/
theorem evolves_of_mem_successes {x : Chain × Call} (hx : x ∈ successes c calls) :
    c.Evolves x.1 ∧ ∃ receipt, execute x.1 x.2 = .ok receipt := by
  induction calls generalizing c with
  | nil => exact absurd hx List.not_mem_nil
  | cons call calls ih =>
    rw [successes] at hx
    cases hexecute : execute c call with
    | error failure =>
      rw [hexecute] at hx
      exact ih hx
    | ok receipt =>
      rw [hexecute] at hx
      rcases List.mem_cons.1 hx with rfl | hlater
      · exact ⟨.refl c, receipt, hexecute⟩
      · obtain ⟨hevolves, hsuccess⟩ := ih hlater
        exact ⟨(evolves_execute hexecute).trans hevolves, hsuccess⟩

/-- A successful call that asks to redeem has redeemed. -/
theorem redeemed_of_execute {receipt : Receipt} (h : execute c call = .ok receipt)
    (hredeems : Redeems call schedule r) :
    ∃ a marker settlement marked paid out,
      Redeemed c call r a marker settlement marked paid out ∧
        a.schedule.address = schedule ∧ out.chain = receipt.chain := by
  obtain ⟨-, instruction, out, hdecode, hperform, rfl⟩ := execute_eq_ok_iff.1 h
  obtain ⟨hredeem, hsecond⟩ := hredeems
  obtain rfl : instruction = .redeem r := Except.ok.inj (hdecode.symm.trans hredeem)
  obtain ⟨a, marker, settlement, marked, paid, h⟩ := of_redeem hperform
  refine ⟨a, marker, settlement, marked, paid, out, h, ?_, rfl⟩
  rw [h.taken.accounts] at hsecond
  exact Option.some.inj hsecond

/-! ## The mark that is left -/

/-- The bit of the index is set afterwards, however the chain evolves. -/
theorem Redeemed.isRedeemed_bit (h : Redeemed c call r a marker settlement marked paid out)
    (hmode : r.entitlement.kind.trackingMode = .bitmap) (hevolves : out.chain.Evolves d)
    {t : Schedule} (ht : (d.account a.schedule.address).loadRecord = .ok t) :
    t.redemptions.isRedeemed r.index = .ok true := by
  obtain ⟨bits, hmark, hsettlement, -⟩ := h.by_bitmap hmode
  obtain ⟨-, hstored⟩ := h.marked_evolves
  obtain ⟨t', ht', hcontinues⟩ := hevolves.schedule hstored
  obtain rfl := Except.ok.inj (ht.symm.trans ht')
  rw [hsettlement] at hcontinues
  exact hcontinues.redemptions.redeemed r.index (RedemptionBitmap.isRedeemed_mark hmark)

/-- The marker of the slot is redeemed afterwards, however the chain evolves. -/
theorem Redeemed.isRedeemed_marker (h : Redeemed c call r a marker settlement marked paid out)
    {mint group address : Address} {bump : UInt8} (he : r.entitlement = .collection mint group)
    (hfind : (Identity.marker a.schedule.record.eventId r.index
      (a.schedule.record.markerKey mint)).find Address.program = some (address, bump))
    (hevolves : out.chain.Evolves d) {m : Marker} (hm : (d.account address).loadRecord = .ok m) :
    m.isRedeemed = true := by
  have hmode : r.entitlement.kind.trackingMode = .marker := by rw [he]; rfl
  obtain ⟨mint', _, address', bump', slot, used, he', hfind', hslot, hmark, hstore, -⟩ :=
    h.by_marker hmode
  obtain ⟨rfl, -⟩ := Entitlement.collection.inj (he.symm.trans he')
  obtain ⟨rfl, -⟩ := Prod.mk.inj (Option.some.inj (hfind.symm.trans hfind'))
  have hused := Chain.loadRecord_storeRecord (Account.isOwn_of_loadRecord hslot)
    (Marker.readsBack _) hstore
  obtain ⟨hmarked, -⟩ := h.marked_evolves
  obtain ⟨m', hm', hcontinues⟩ := (hmarked.trans hevolves).marker hused
  obtain rfl := Except.ok.inj (hm.symm.trans hm')
  exact hcontinues.redeemed (Marker.isRedeemed_of_mark hmark)

/-! ## Two redemptions -/

/-- Two redemptions by collection, from a schedule that keeps a slot per token, for different
tokens. -/
def ApartByToken (s t : Schedule) (r r' : RedeemRequest) : Prop :=
  (s.kind = .collection ∧ s.scope = .perMint) ∧ (t.kind = .collection ∧ t.scope = .perMint) ∧
    ∃ mint group mint' group', r.entitlement = .collection mint group ∧
      r'.entitlement = .collection mint' group' ∧ mint ≠ mint'

/-- Tokens with different keys are different, and only where every token has its own. -/
theorem perMint_of_markerKey_ne {scope : MarkerScope} {mint mint' : Address}
    (h : scope.markerKey mint ≠ scope.markerKey mint') : scope = .perMint ∧ mint ≠ mint' := by
  cases scope with
  | perMint => exact ⟨rfl, h⟩
  | perIndex => exact absurd rfl h

section

variable (h : Redeemed c call r a marker settlement marked paid out)
  (h' : Redeemed d call' r' a' marker' settlement' marked' paid' out')
  (hevolves : out.chain.Evolves d) (haddress : a.schedule.address = a'.schedule.address)
include h h' hevolves haddress

/-- The later redemption finds the schedule of the earlier one. -/
theorem Redeemed.continues : a.schedule.record.Continues a'.schedule.record := by
  have hall := (h.evolves_marked.1.trans h.marked_evolves.1).trans hevolves
  obtain ⟨t, ht, hcontinues⟩ := hall.schedule h.taken.loaded
  rw [haddress] at ht
  obtain rfl := Except.ok.inj (h'.taken.loaded.symm.trans ht)
  exact hcontinues

theorem Redeemed.kind_eq_kind : r'.entitlement.kind = r.entitlement.kind := by
  rw [← h'.kind_eq, ← h.kind_eq, (h.continues h' hevolves haddress).kind_eq]

/-- A bit that was set is found set. -/
theorem Redeemed.trackingMode_eq_marker (hindex : r.index = r'.index) :
    r.entitlement.kind.trackingMode = .marker := by
  cases hmode : r.entitlement.kind.trackingMode with
  | marker => rfl
  | bitmap =>
    have hmode' : r'.entitlement.kind.trackingMode = .bitmap := by
      rw [h.kind_eq_kind h' hevolves haddress, hmode]
    have hloaded := h'.taken.loaded
    rw [← haddress] at hloaded
    have hset := h.isRedeemed_bit hmode hevolves hloaded
    rw [hindex] at hset
    obtain ⟨bits, hmark, -⟩ := h'.by_bitmap hmode'
    exact absurd hmark (RedemptionBitmap.Extends.not_mark (.refl _) hset)

/-- With the same key, both would use the marker at the same address, and it is found redeemed. -/
theorem Redeemed.markerKey_ne (hindex : r.index = r'.index) {mint group mint' group' : Address}
    (he : r.entitlement = .collection mint group)
    (he' : r'.entitlement = .collection mint' group') :
    a.schedule.record.markerKey mint ≠ a.schedule.record.markerKey mint' := by
  have hcontinues := h.continues h' hevolves haddress
  obtain ⟨_, _, address, _, _, _, hmint, hfind, -⟩ := h.by_marker (by rw [he]; rfl)
  obtain ⟨_, _, address', _, slot', _, hmint', hfind', hslot', hmark', -⟩ :=
    h'.by_marker (by rw [he']; rfl)
  obtain ⟨rfl, rfl⟩ := Entitlement.collection.inj (he.symm.trans hmint)
  obtain ⟨rfl, rfl⟩ := Entitlement.collection.inj (he'.symm.trans hmint')
  intro hsame
  rw [hcontinues.eventId_eq, hcontinues.markerKey_eq, ← hsame, ← hindex, hfind] at hfind'
  obtain ⟨rfl, -⟩ := Prod.mk.inj (Option.some.inj hfind')
  have hused := h.isRedeemed_marker he hfind hevolves hslot'
  exact Marker.mark_ne_ok hused hmark'

/-- A redemption that comes after another one of the same schedule and index is for another
token. -/
theorem Redeemed.apart (hindex : r.index = r'.index) :
    ApartByToken a.schedule.record a'.schedule.record r r' := by
  have hcontinues := h.continues h' hevolves haddress
  have hmode := h.trackingMode_eq_marker h' hevolves haddress hindex
  have hmode' : r'.entitlement.kind.trackingMode = .marker := by
    rw [h.kind_eq_kind h' hevolves haddress, hmode]
  obtain ⟨mint, group, _, _, _, _, he, -⟩ := h.by_marker hmode
  obtain ⟨mint', group', _, _, _, _, he', -⟩ := h'.by_marker hmode'
  have hkey := h.markerKey_ne h' hevolves haddress hindex he he'
  obtain ⟨hscope, hne⟩ := perMint_of_markerKey_ne hkey
  have hcollection : a.schedule.record.kind = .collection := by rw [h.kind_eq, he]; rfl
  exact ⟨⟨hcollection, hscope⟩,
    ⟨hcontinues.kind_eq.trans hcollection, hcontinues.scope_eq.trans hscope⟩,
    mint, group, mint', group', he, he', hne⟩

end

/-- At most one payout per slot. On every chain and for every sequence of calls, two successful
redemptions of one schedule and one index are both by collection, the schedule has a slot per token
at the time of either, and the tokens differ. So an index is redeemed at most once by wallet, by
named mint or by single token; at most once from a collection schedule with one slot per index; and
at most once for each token from one with a slot per token. -/
theorem at_most_one_payout_per_slot (c : Chain) (calls : List Call) :
    (successes c calls).Pairwise fun x y => ∀ schedule r r', Redeems x.2 schedule r →
      Redeems y.2 schedule r' → r.index = r'.index →
        ∃ s t, (x.1.account schedule).loadRecord = .ok s ∧
          (y.1.account schedule).loadRecord = .ok t ∧ ApartByToken s t r r' := by
  induction calls generalizing c with
  | nil => exact .nil
  | cons call calls ih =>
    rw [successes]
    cases hexecute : execute c call with
    | error failure => exact ih c
    | ok receipt =>
      refine List.pairwise_cons.2 ⟨?_, ih receipt.chain⟩
      intro y hy schedule r r' hredeems hredeems' hindex
      obtain ⟨hevolves, receipt', hexecute'⟩ := evolves_of_mem_successes hy
      obtain ⟨a, _, _, _, _, out, h, rfl, hchain⟩ := redeemed_of_execute hexecute hredeems
      obtain ⟨a', _, _, _, _, out', h', haddress, -⟩ := redeemed_of_execute hexecute' hredeems'
      rw [← hchain] at hevolves
      have hloaded' := h'.taken.loaded
      rw [haddress] at hloaded'
      exact ⟨a.schedule.record, a'.schedule.record, h.taken.loaded, hloaded',
        h.apart h' hevolves haddress.symm hindex⟩

end Disbursement.Program
