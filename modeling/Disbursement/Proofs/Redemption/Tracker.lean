import Disbursement.Proofs.InPlace
import Disbursement.Proofs.Redemption.Bits
import Disbursement.Proofs.Redemption.Marker
import Disbursement.Redemption.Tracker
import Mathlib.Logic.Function.Basic

/-!
# Two trackers, one set

A bitmap keeps a set of indices in one place, and a bank of markers keeps it in a place for each
index. Both are compared with `IndexSet`, which is the set and nothing else.

* `Tracker.respond` is one call to a tracker that is written where it is; `respond_ask` and
  `respond_mark` say what it replies and what it leaves.
* `respond_of_isRedeemed`: a tracker that tells of an index what the set says replies like the set,
  and takes the index in if the set does.
* `Simulates` says that of every call, and `Simulates.run` follows it along a history.
  `simulates_bitmap` and `simulates_bank` are the two trackers.
-/

namespace Disbursement.Tracker

/-! ## Calls -/

/-- What a tracker is called for. -/
inductive Call where
  | ask (index : UInt16)
  | mark (index : UInt16)

def Call.index : Call → UInt16
  | ask index => index
  | mark index => index

/-- What a call that is not refused comes back with. -/
inductive Reply where
  | told (redeemed : Bool)
  | marked
  deriving DecidableEq

/-- Set the bit of an index. -/
def markBitInPlace (b : RedemptionBitmap) (index : UInt16) : InPlace Tracker Refusal Unit := do
  let byte ← b.byteAt index
  ensure (byte &&& RedemptionBitmap.mask index = 0) Refusal.alreadyRedeemed
  set (bitmap ⟨b.bytes.set (RedemptionBitmap.byteIndex index)
    (byte ||| RedemptionBitmap.mask index)⟩)

/-- Set the flag of a marker. -/
def markFlagInPlace (m : Marker) (index : UInt16) : InPlace Tracker Refusal Unit := do
  ensure (m.index = index) Refusal.invalidAccount
  ensure (m.isRedeemed = false) Refusal.alreadyRedeemed
  set (marker { m with isRedeemed := true })

def markInPlace (index : UInt16) : InPlace Tracker Refusal Unit := do
  match ← get with
  | bitmap b => markBitInPlace b index
  | marker m => markFlagInPlace m index

def answerInPlace : Call → InPlace Tracker Refusal Reply
  | .ask index => do
    let redeemed ← (← get).isRedeemed index
    return .told redeemed
  | .mark index => do
    markInPlace index
    return .marked

/-- The reply to a call, and what is left of the tracker. -/
def respond (t : Tracker) (call : Call) : Except Refusal Reply × Tracker :=
  (answerInPlace call).start t

/-- The reply of the one tracker in a bank that serves the index of a call. -/
def respondAt (bank : UInt16 → Tracker) (call : Call) : Except Refusal Reply × (UInt16 → Tracker) :=
  let (reply, left) := (bank call.index).respond call
  (reply, Function.update bank call.index left)

variable {t left : Tracker} {i : UInt16} {refusal : Refusal}

theorem respond_ask (t : Tracker) (i : UInt16) :
    t.respond (.ask i) = ((t.isRedeemed i).map .told, t) := by
  show (liftM (t.isRedeemed i) >>= fun redeemed => pure (Reply.told redeemed) :
    InPlace Tracker Refusal Reply).start t = _
  rw [InPlace.start_check]
  cases t.isRedeemed i <;> rfl

theorem atomic_markBitInPlace (b : RedemptionBitmap) (i : UInt16) (t : Tracker) :
    (markBitInPlace b i).Atomic t (do
      let marked ← b.mark i
      return ((), bitmap marked)) := by
  simp only [RedemptionBitmap.mark, bind_assoc]
  refine .check fun byte => ?_
  refine .check fun _ => ?_
  rfl

theorem atomic_markFlagInPlace (m : Marker) (i : UInt16) (t : Tracker) :
    (markFlagInPlace m i).Atomic t (do
      let marked ← m.mark i
      return ((), marker marked)) := by
  simp only [Marker.mark, bind_assoc]
  refine .check fun _ => ?_
  refine .check fun _ => ?_
  rfl

/-- A mark in place leaves what `mark` computes, and after a refusal what it found. -/
theorem respond_mark (t : Tracker) (i : UInt16) :
    t.respond (.mark i) = match t.mark i with
      | .ok left => (.ok .marked, left)
      | .error refusal => (.error refusal, t) := by
  cases t with
  | bitmap b =>
    have hplace := (atomic_markBitInPlace b i (bitmap b)).map fun _ => Reply.marked
    show InPlace.start (markBitInPlace b i >>= fun _ => pure Reply.marked) (bitmap b) = _
    rw [hplace, mark]
    cases b.mark i <;> rfl
  | marker m =>
    have hplace := (atomic_markFlagInPlace m i (marker m)).map fun _ => Reply.marked
    show InPlace.start (markFlagInPlace m i >>= fun _ => pure Reply.marked) (marker m) = _
    rw [hplace, mark]
    cases m.mark i <;> rfl

theorem respond_mark_of_ok (h : t.mark i = .ok left) :
    t.respond (.mark i) = (.ok .marked, left) := by
  rw [respond_mark, h]

theorem respond_mark_of_error (h : t.mark i = .error refusal) :
    t.respond (.mark i) = (.error refusal, t) := by
  rw [respond_mark, h]

/-- A call that is refused changes nothing. -/
theorem respond_of_refused {call : Call} (h : (t.respond call).1 = .error refusal) :
    (t.respond call).2 = t := by
  cases call with
  | ask i => rw [respond_ask]
  | mark i =>
    cases hmark : t.mark i with
    | ok left =>
      rw [respond_mark_of_ok hmark] at h
      cases h
    | error refusal => rw [respond_mark_of_error hmark]

/-! ## One index -/

theorem mark_eq_alreadyRedeemed (h : t.isRedeemed i = .ok true) :
    t.mark i = .error .alreadyRedeemed := by
  cases t with
  | bitmap b =>
    exact map_eq_error_iff.2 (RedemptionBitmap.mark_eq_alreadyRedeemed h)
  | marker m =>
    obtain ⟨hindex, hset⟩ := Marker.redeemed?_eq_ok_iff.1 h
    exact map_eq_error_iff.2 (Marker.mark_eq_alreadyRedeemed hindex hset)

theorem exists_mark (h : t.isRedeemed i = .ok false) : ∃ left, t.mark i = .ok left := by
  cases t with
  | bitmap b =>
    obtain ⟨marked, hmark⟩ := RedemptionBitmap.exists_mark_iff.2
      (RedemptionBitmap.isRedeemed_eq_ok_iff_bitAt.1 h)
    exact ⟨bitmap marked, map_eq_ok_iff.2 ⟨marked, hmark, rfl⟩⟩
  | marker m =>
    obtain ⟨hindex, hfree⟩ := Marker.redeemed?_eq_ok_iff.1 h
    exact ⟨marker _, map_eq_ok_iff.2 ⟨_, Marker.mark_eq_ok_iff.2 ⟨hindex, hfree, rfl⟩, rfl⟩⟩

/-! ## Histories -/

section History

variable {σ τ : Type} {spec : σ → Call → Except Refusal Reply × σ}
  {impl : τ → Call → Except Refusal Reply × τ} {Related : σ → τ → Prop} {Admits : Call → Prop}

/-- The calls of a history, each with its reply. -/
def transcript (step : σ → Call → Except Refusal Reply × σ) :
    σ → List Call → List (Call × Except Refusal Reply)
  | _, [] => []
  | s, call :: calls => (call, (step s call).1) :: transcript step (step s call).2 calls

/-- What a history leaves. -/
def after (step : σ → Call → Except Refusal Reply × σ) (s : σ) (calls : List Call) : σ :=
  calls.foldl (fun s call => (step s call).2) s

/-- The indices of the marks that succeeded, in their order. -/
def redeemedIn (transcript : List (Call × Except Refusal Reply)) : List UInt16 :=
  transcript.filterMap fun
    | (.mark index, .ok _) => some index
    | _ => none

theorem redeemedIn_cons (entry : Call × Except Refusal Reply)
    (entries : List (Call × Except Refusal Reply)) :
    redeemedIn (entry :: entries) = redeemedIn [entry] ++ redeemedIn entries :=
  List.filterMap_append (l := [entry])

/-- To the calls it admits the one replies like the other, and then they are related again. -/
def Simulates (spec : σ → Call → Except Refusal Reply × σ)
    (impl : τ → Call → Except Refusal Reply × τ) (Related : σ → τ → Prop) (Admits : Call → Prop) :
    Prop :=
  ∀ s t call, Related s t → Admits call →
    ∃ left, impl t call = ((spec s call).1, left) ∧ Related (spec s call).2 left

/-- Induction on the history, for related states. -/
theorem Simulates.run (h : Simulates spec impl Related Admits) {s : σ} {t : τ}
    (hrelated : Related s t) {calls : List Call} (hadmits : ∀ call ∈ calls, Admits call) :
    transcript impl t calls = transcript spec s calls ∧
      Related (after spec s calls) (after impl t calls) := by
  induction calls generalizing s t with
  | nil => exact ⟨rfl, hrelated⟩
  | cons call calls ih =>
    obtain ⟨left, himpl, hleft⟩ := h s t call hrelated (hadmits call List.mem_cons_self)
    obtain ⟨hreplies, hafter⟩ := ih hleft fun c hc => hadmits c (List.mem_cons_of_mem call hc)
    constructor
    · rw [transcript, transcript, himpl, hreplies]
    · rw [after, after, List.foldl_cons, List.foldl_cons, himpl]
      exact hafter

end History

/-! ## The set -/

/-- A set of indices below a bound, by its members in the order they came. -/
structure IndexSet where
  bound : Nat
  members : List UInt16

namespace IndexSet

variable {s : IndexSet} {call : Call}

/-- Tell whether an index is a member, or let one in that is not. -/
def respond (s : IndexSet) (call : Call) : Except Refusal Reply × IndexSet :=
  if call.index.toNat < s.bound then
    match call with
    | .ask i => (.ok (.told (decide (i ∈ s.members))), s)
    | .mark i =>
      if i ∈ s.members then (.error .alreadyRedeemed, s)
      else (.ok .marked, { s with members := s.members ++ [i] })
  else (.error .indexOutOfRange, s)

theorem respond_of_out (h : ¬call.index.toNat < s.bound) :
    s.respond call = (.error .indexOutOfRange, s) :=
  if_neg h

theorem respond_ask (h : i.toNat < s.bound) :
    s.respond (.ask i) = (.ok (.told (decide (i ∈ s.members))), s) :=
  if_pos h

theorem respond_mark_of_mem (h : i.toNat < s.bound) (hmem : i ∈ s.members) :
    s.respond (.mark i) = (.error .alreadyRedeemed, s) :=
  (if_pos h).trans (if_pos hmem)

theorem respond_mark_of_notMem (h : i.toNat < s.bound) (hmem : i ∉ s.members) :
    s.respond (.mark i) = (.ok .marked, { s with members := s.members ++ [i] }) :=
  (if_pos h).trans (if_neg hmem)

/-- A call lets in the index it marks, if it is a mark that succeeds. -/
theorem snd_respond (s : IndexSet) (call : Call) :
    (s.respond call).2 =
      { s with members := s.members ++ redeemedIn [(call, (s.respond call).1)] } := by
  by_cases hrange : call.index.toNat < s.bound
  · cases call with
    | ask i =>
      rw [respond_ask (i := i) hrange]
      simp [redeemedIn]
    | mark i =>
      by_cases hmem : i ∈ s.members
      · rw [respond_mark_of_mem (i := i) hrange hmem]
        simp [redeemedIn]
      · rw [respond_mark_of_notMem (i := i) hrange hmem]
        simp [redeemedIn]
  · rw [respond_of_out hrange]
    cases call <;> simp [redeemedIn]

/-- The members are those it began with and those that a mark let in. -/
theorem after_respond (s : IndexSet) (calls : List Call) :
    after respond s calls =
      { s with members := s.members ++ redeemedIn (transcript respond s calls) } := by
  induction calls generalizing s with
  | nil => simp [after, transcript, redeemedIn]
  | cons call calls ih =>
    have hafter : after respond s (call :: calls) = after respond (s.respond call).2 calls := rfl
    rw [hafter, ih, transcript, redeemedIn_cons, snd_respond, List.append_assoc]

end IndexSet

/-- A tracker that tells of an index what the set says replies like the set to a call for it. Either
nothing changes, in the tracker as in the set, or both take the index in. -/
theorem respond_of_isRedeemed {s : IndexSet} {call : Call} (hrange : call.index.toNat < s.bound)
    (h : t.isRedeemed call.index = .ok (decide (call.index ∈ s.members))) :
    t.respond call = ((s.respond call).1, t) ∧ (s.respond call).2 = s ∨
      ∃ left, t.mark call.index = .ok left ∧ t.respond call = ((s.respond call).1, left) ∧
        (s.respond call).2 = { s with members := s.members ++ [call.index] } := by
  cases call with
  | ask i =>
    have hask : t.isRedeemed i = .ok (decide (i ∈ s.members)) := h
    rw [respond_ask, hask, IndexSet.respond_ask (i := i) hrange]
    exact .inl ⟨rfl, rfl⟩
  | mark i =>
    by_cases hmem : i ∈ s.members
    · have hset : t.isRedeemed i = .ok true := h.trans (congrArg Except.ok (decide_eq_true hmem))
      rw [respond_mark_of_error (mark_eq_alreadyRedeemed hset),
        IndexSet.respond_mark_of_mem (i := i) hrange hmem]
      exact .inl ⟨rfl, rfl⟩
    · have hfree : t.isRedeemed i = .ok false := h.trans (congrArg Except.ok (decide_eq_false hmem))
      obtain ⟨left, hmark⟩ := exists_mark hfree
      rw [respond_mark_of_ok hmark, IndexSet.respond_mark_of_notMem (i := i) hrange hmem]
      exact .inr ⟨left, hmark, rfl, rfl⟩

/-! ## A bitmap -/

/-- The bitmap has a bit for each index below the bound, and the bits of the members are set. -/
structure HeldBy (s : IndexSet) (b : RedemptionBitmap) : Prop where
  bound : s.bound = 8 * b.size
  listed : b.ListedBy s.members
  count : b.count = s.members.length

theorem heldBy_empty (leafCount : UInt16) :
    HeldBy ⟨8 * RedemptionBitmap.byteLength leafCount, []⟩ (.empty leafCount) where
  bound := by rw [RedemptionBitmap.size_empty]
  listed := RedemptionBitmap.listedBy_empty leafCount
  count := RedemptionBitmap.count_eq_of_bitAt (Nat.zero_le _) fun position =>
    (RedemptionBitmap.bitAt_empty leafCount position).trans
      (decide_eq_false (Nat.not_lt_zero _)).symm

namespace HeldBy

variable {s : IndexSet} {b marked : RedemptionBitmap}

theorem isRedeemed (h : HeldBy s b) (hrange : i.toNat < s.bound) :
    b.isRedeemed i = .ok (decide (i ∈ s.members)) := by
  rw [h.bound] at hrange
  have hbit : b.isRedeemed i = .ok (b.bitAt i.toNat) :=
    RedemptionBitmap.isRedeemed_eq_ok_iff_bitAt.2 ⟨hrange, rfl⟩
  have hmem : b.bitAt i.toNat = true ↔ i ∈ s.members := by
    rw [h.listed.mem_iff, hbit, Except.ok.injEq]
  rw [hbit, Bool.eq_iff_iff.2 (hmem.trans decide_eq_true_iff.symm)]

theorem mark (h : HeldBy s b) (hmark : b.mark i = .ok marked) :
    HeldBy { s with members := s.members ++ [i] } marked where
  bound := by rw [h.bound, RedemptionBitmap.size_mark hmark]
  listed := h.listed.mark hmark
  count := by
    rw [RedemptionBitmap.count_mark hmark, h.count, List.length_append, List.length_singleton]

/-- A call for an index that has no bit is refused. -/
theorem respond_of_out (h : HeldBy s b) {call : Call} (hout : ¬call.index.toNat < s.bound) :
    (bitmap b).respond call = (.error .indexOutOfRange, bitmap b) := by
  rw [h.bound] at hout
  cases call with
  | ask i =>
    have hrefused : (bitmap b).isRedeemed i = .error .indexOutOfRange :=
      RedemptionBitmap.isRedeemed_eq_indexOutOfRange hout
    rw [respond_ask, hrefused]
    rfl
  | mark i =>
    have hmark : b.mark i = .error .indexOutOfRange := RedemptionBitmap.mark_eq_indexOutOfRange hout
    exact respond_mark_of_error (map_eq_error_iff.2 hmark)

/-- One call: the bitmap replies like the set that it holds, and holds what is then the set. -/
theorem respond (h : HeldBy s b) (call : Call) :
    ∃ left, (bitmap b).respond call = ((s.respond call).1, bitmap left) ∧
      HeldBy (s.respond call).2 left := by
  by_cases hrange : call.index.toNat < s.bound
  · have htells : (bitmap b).isRedeemed call.index = .ok (decide (call.index ∈ s.members)) :=
      h.isRedeemed hrange
    rcases respond_of_isRedeemed hrange htells with
      ⟨hreply, hsame⟩ | ⟨left, hleft, hreply, hgrown⟩
    · exact ⟨b, hreply, by rw [hsame]; exact h⟩
    · obtain ⟨marked, hmark, rfl⟩ := map_eq_ok_iff.1 hleft
      exact ⟨marked, hreply, by rw [hgrown]; exact h.mark hmark⟩
  · rw [h.respond_of_out hrange, IndexSet.respond_of_out hrange]
    exact ⟨b, rfl, h⟩

end HeldBy

theorem simulates_bitmap :
    Simulates IndexSet.respond respond (fun s t => ∃ b, t = bitmap b ∧ HeldBy s b)
      fun _ => True := by
  rintro s _ call ⟨b, rfl, h⟩ -
  obtain ⟨left, hrespond, hleft⟩ := h.respond call
  exact ⟨bitmap left, hrespond, left, rfl, hleft⟩

/-! ## A bank of markers -/

/-- The bank has a marker for each of the first indices, and the markers of the members are
redeemed. -/
structure BankedBy (leafCount : UInt16) (s : IndexSet) (bank : UInt16 → Tracker) : Prop where
  bound : leafCount.toNat ≤ s.bound
  exists_marker : ∀ i < leafCount, ∃ m, bank i = marker m ∧ m.index = i ∧
    m.isRedeemed = decide (i ∈ s.members)

namespace BankedBy

variable {leafCount : UInt16} {s : IndexSet} {bank : UInt16 → Tracker}

theorem isRedeemed (h : BankedBy leafCount s bank) (hi : i < leafCount) :
    (bank i).isRedeemed i = .ok (decide (i ∈ s.members)) := by
  obtain ⟨m, hm, hindex, hflag⟩ := h.exists_marker i hi
  rw [hm]
  exact Marker.redeemed?_eq_ok_iff.2 ⟨hindex, hflag⟩

theorem mark (h : BankedBy leafCount s bank) (hi : i < leafCount)
    (hmark : (bank i).mark i = .ok left) :
    BankedBy leafCount { s with members := s.members ++ [i] } (Function.update bank i left) where
  bound := h.bound
  exists_marker j hj := by
    by_cases hji : j = i
    · obtain rfl := hji
      obtain ⟨m, hm, hindex, -⟩ := h.exists_marker j hi
      rw [hm] at hmark
      obtain ⟨marked, hmarked, rfl⟩ := map_eq_ok_iff.1 hmark
      obtain ⟨-, -, rfl⟩ := Marker.mark_eq_ok_iff.1 hmarked
      have hmem : j ∈ s.members ++ [j] := List.mem_append_right _ List.mem_cons_self
      exact ⟨_, Function.update_self .., hindex, (decide_eq_true hmem).symm⟩
    · obtain ⟨m, hm, hindex, hflag⟩ := h.exists_marker j hj
      have hmem : j ∈ s.members ++ [i] ↔ j ∈ s.members := by
        rw [List.mem_append, List.mem_singleton, or_iff_left hji]
      exact ⟨m, (Function.update_of_ne hji ..).trans hm, hindex,
        hflag.trans (decide_eq_decide.2 hmem.symm)⟩

/-- One call: the marker of its index replies like the set. -/
theorem respondAt (h : BankedBy leafCount s bank) {call : Call} (hcall : call.index < leafCount) :
    ∃ left, Tracker.respondAt bank call = ((s.respond call).1, left) ∧
      BankedBy leafCount (s.respond call).2 left := by
  have hrange : call.index.toNat < s.bound :=
    Nat.lt_of_lt_of_le (UInt16.lt_iff_toNat_lt.1 hcall) h.bound
  unfold Tracker.respondAt
  rcases respond_of_isRedeemed hrange (h.isRedeemed hcall) with
    ⟨hreply, hsame⟩ | ⟨left, hmark, hreply, hgrown⟩
  · rw [hreply, hsame]
    exact ⟨bank, Prod.ext rfl (Function.update_eq_self ..), h⟩
  · rw [hreply, hgrown]
    exact ⟨_, rfl, h.mark hcall hmark⟩

end BankedBy

theorem simulates_bank (leafCount : UInt16) :
    Simulates IndexSet.respond respondAt (BankedBy leafCount) fun call => call.index < leafCount :=
  fun _ _ _ h hcall => h.respondAt hcall

/-! ## Both -/

/-- The members of the set are the marks that succeeded, whoever replied. -/
theorem Simulates.members {τ : Type} {impl : τ → Call → Except Refusal Reply × τ}
    {Related : IndexSet → τ → Prop} {Admits : Call → Prop}
    (h : Simulates IndexSet.respond impl Related Admits) {bound : Nat} {t : τ}
    (hrelated : Related ⟨bound, []⟩ t) {calls : List Call} (hadmits : ∀ call ∈ calls, Admits call) :
    Related ⟨bound, redeemedIn (transcript impl t calls)⟩ (after impl t calls) := by
  obtain ⟨hreplies, hafter⟩ := h.run hrelated hadmits
  rw [IndexSet.after_respond, List.nil_append, ← hreplies] at hafter
  exact hafter

/-- A call asks or marks as `isRedeemed` and `mark` do, and one that is refused changes nothing. A
bitmap replies to every history as the set of the indices whose marks have succeeded, in all the
range that its bytes have; it counts them and keeps its length. Below the leaf count a marker for
each index replies the same, call by call. -/
theorem trackers_keep_one_set :
    (∀ (t : Tracker) (i : UInt16),
      t.respond (.ask i) = ((t.isRedeemed i).map .told, t) ∧
      t.respond (.mark i) = match t.mark i with
        | .ok left => (.ok .marked, left)
        | .error refusal => (.error refusal, t)) ∧
    ∀ (leafCount : UInt16) (calls : List Call),
      (∃ b, after respond (bitmap (.empty leafCount)) calls = bitmap b ∧
        b.size = (leafCount.toNat + 7) / 8 ∧
        b.count = (redeemedIn (transcript respond (bitmap (.empty leafCount)) calls)).length ∧
        ∀ call,
          ((bitmap b).respond call).1 =
            (IndexSet.respond ⟨8 * ((leafCount.toNat + 7) / 8),
              redeemedIn (transcript respond (bitmap (.empty leafCount)) calls)⟩ call).1 ∧
          ∀ refusal, ((bitmap b).respond call).1 = .error refusal →
            ((bitmap b).respond call).2 = bitmap b) ∧
      ∀ markers : UInt16 → Marker,
        (∀ i < leafCount, (markers i).index = i ∧ (markers i).isRedeemed = false) →
        (∀ call ∈ calls, call.index < leafCount) →
        transcript respond (bitmap (.empty leafCount)) calls =
          transcript respondAt (fun i => marker (markers i)) calls := by
  refine ⟨fun t i => ⟨respond_ask t i, respond_mark t i⟩, fun leafCount calls => ?_⟩
  have hempty : ∃ b, bitmap (.empty leafCount) = bitmap b ∧
      HeldBy ⟨8 * ((leafCount.toNat + 7) / 8), []⟩ b := ⟨_, rfl, heldBy_empty leafCount⟩
  constructor
  · have hall : ∀ call ∈ calls, True := fun _ _ => trivial
    obtain ⟨b, hafter, hheld⟩ := simulates_bitmap.members hempty hall
    have hsize : b.size = (leafCount.toNat + 7) / 8 :=
      (Nat.eq_of_mul_eq_mul_left (by decide) hheld.bound).symm
    refine ⟨b, hafter, hsize, hheld.count, fun call => ⟨?_, fun refusal => respond_of_refused⟩⟩
    obtain ⟨left, hrespond, -⟩ := hheld.respond call
    rw [hrespond]
  · intro markers hmarkers hcalls
    have hbank : BankedBy leafCount ⟨8 * ((leafCount.toNat + 7) / 8), []⟩
        fun i => marker (markers i) :=
      { bound := RedemptionBitmap.toNat_le_byteLength leafCount
        exists_marker := fun i hi => ⟨markers i, rfl, (hmarkers i hi).1, (hmarkers i hi).2⟩ }
    rw [(simulates_bitmap.run hempty fun _ _ => trivial).1,
      ((simulates_bank leafCount).run hbank hcalls).1]

/-- A mark, a question about it, the mark again, and a question about the other leaf. -/
def twoLeafCalls : List Call := [.mark 1, .ask 1, .mark 1, .ask 0]

-- the one byte for two leaves has bits for six indices behind them, and none for the ninth
theorem trackers_of_two_leaves :
    (∀ i < (2 : UInt16), (Marker.create 0 Bytes32.zero i Bytes32.zero).index = i ∧
      (Marker.create 0 Bytes32.zero i Bytes32.zero).isRedeemed = false) ∧
    (∀ call ∈ twoLeafCalls, call.index < 2) ∧
    (∃ b, after respond (bitmap (.empty 2)) twoLeafCalls = bitmap b ∧ b.size = 1 ∧ b.count = 1 ∧
      ((bitmap b).respond (.mark 1)).1 = .error .alreadyRedeemed ∧
      ((bitmap b).respond (.mark 7)).1 = .ok .marked ∧
      ((bitmap b).respond (.mark 8)).1 = .error .indexOutOfRange) ∧
    transcript respondAt (fun i => marker (Marker.create 0 Bytes32.zero i Bytes32.zero))
        twoLeafCalls =
      [(.mark 1, .ok .marked), (.ask 1, .ok (.told true)), (.mark 1, .error .alreadyRedeemed),
        (.ask 0, .ok (.told false))] := by
  have hmarkers : ∀ i < (2 : UInt16), (Marker.create 0 Bytes32.zero i Bytes32.zero).index = i ∧
      (Marker.create 0 Bytes32.zero i Bytes32.zero).isRedeemed = false := fun _ _ => ⟨rfl, rfl⟩
  have hcalls : ∀ call ∈ twoLeafCalls, call.index < 2 := by decide
  obtain ⟨-, hkept⟩ := trackers_keep_one_set
  obtain ⟨⟨b, hafter, hsize, hcount, hnext⟩, hbank⟩ := hkept 2 twoLeafCalls
  refine ⟨hmarkers, hcalls, ⟨b, hafter, hsize, hcount, ?_, ?_, ?_⟩, ?_⟩
  · exact (hnext (.mark 1)).1
  · exact (hnext (.mark 7)).1
  · exact (hnext (.mark 8)).1
  · exact (hbank _ hmarkers hcalls).symm

end Disbursement.Tracker
