import Disbursement.Allocation.Leaf
import Disbursement.Proofs.Check
import Disbursement.Proofs.Codec

/-!
# What a leaf says

The six layouts have one shape: a text where the layout has one, the index, the time where the
layout has one, one or two keys, and the amounts (`leafBytes_eq`). Each part has a length that the
layout fixes, so the bytes of a leaf determine everything that the layout writes down.

* `Allocation.leafKeys?` is the part that says who is paid and in which mint; it is absent where the
  allocation does not fit the layout.
* `Allocation.Fits` says which allocations a layout is made for; only what fits has a leaf
  (`decides_leafBytes`).
* `Allocation.SameEntry` is agreement in all that a layout writes down. Leaves with the same bytes
  agree in it (`leafBytes_inj`), and allocations that agree in it have the same leaf
  (`SameEntry.leafBytes_eq`).
-/

namespace Disbursement

namespace LeafEncoding

/-- Whether leaves of this layout carry a time of their own. -/
def carriesTime : LeafEncoding → Bool
  | legacy | multiLegacy => false
  | _ => true

/-- The bytes that every leaf of this layout starts with. -/
def heading : LeafEncoding → Bytes
  | nftSpecific => Codec.text.encode "specific"
  | nftCollection => Codec.text.encode "collection"
  | _ => []

/-- The number of keys in a leaf of this layout. -/
def keyCount : LeafEncoding → Nat
  | legacy | timestamped => 1
  | _ => 2

theorem tag_injective {e f : LeafEncoding} (h : e.tag = f.tag) : e = f := by
  cases e <;> cases f <;> first | rfl | exact absurd h (by decide)

end LeafEncoding

namespace Allocation

variable {a b : Allocation} {e : LeafEncoding} {bytes : Bytes}

/-! ## The shape of a leaf -/

/-- The keys of an allocation in a layout that it fits. -/
def leafKeys? (a : Allocation) (e : LeafEncoding) : Option (List Address) :=
  match e, a.beneficiary, a.receivingMint with
  | .legacy, .wallet address, none => some [address]
  | .timestamped, .wallet address, none => some [address]
  | .multiLegacy, .wallet address, some mint => some [address, mint]
  | .multiTimestamped, .wallet address, some mint => some [address, mint]
  | .nftSpecific, .nft mint collection, none => some [mint, collection]
  | .nftCollection, .collection collection, none => some [Address.nativeMint, collection]
  | _, _, _ => none

/-- The time of an allocation, where the layout has one. -/
def leafTime (a : Allocation) (e : LeafEncoding) : Bytes :=
  if e.carriesTime then Codec.i64.encode a.timestamp else []

/-- Every leaf is made of the same parts. -/
theorem leafBytes_eq (a : Allocation) (e : LeafEncoding) :
    a.leafBytes e = (a.leafKeys? e).elim (.error .leafMismatch) fun keys =>
      .ok (e.heading ++ (Codec.u16.encode a.index ++ (a.leafTime e ++
        (keys.flatMap Codec.bytes32.encode ++
          (Codec.u64.encode a.receivingAmount ++ Codec.u64.encode a.sendingAmount))))) := by
  obtain ⟨index, time, beneficiary, mint, receiving, sending⟩ := a
  cases e <;> cases beneficiary <;> cases mint <;>
    simp [leafBytes, leafKeys?, leafTime, LeafEncoding.heading, LeafEncoding.carriesTime,
      Codec.bytes32]

theorem leafBytes_eq_ok_iff :
    a.leafBytes e = .ok bytes ↔ ∃ keys, a.leafKeys? e = some keys ∧
      e.heading ++ (Codec.u16.encode a.index ++ (a.leafTime e ++
        (keys.flatMap Codec.bytes32.encode ++
          (Codec.u64.encode a.receivingAmount ++ Codec.u64.encode a.sendingAmount)))) =
        bytes := by
  rw [leafBytes_eq]
  cases a.leafKeys? e <;> simp

theorem leafHash_eq_ok_iff {leaf : Digest} :
    a.leafHash e = .ok leaf ↔
      ∃ bytes, a.leafBytes e = .ok bytes ∧ Merkle.hashLeaf e.tag bytes = leaf := by
  rw [leafHash, map_eq_ok_iff]

/-- The only way to have no leaf is not to fit the layout. -/
theorem eq_leafMismatch_of_leafHash {refusal : Refusal} (h : a.leafHash e = .error refusal) :
    refusal = .leafMismatch := by
  rw [leafHash, map_eq_error_iff, leafBytes_eq] at h
  cases hkeys : a.leafKeys? e with
  | none =>
    rw [hkeys] at h
    exact (Except.error.inj h).symm
  | some keys =>
    rw [hkeys] at h
    cases h

/-! ## Leaves that fit -/

/-- The layouts are made for different beneficiaries, and two of them for an allocation that names
its mint. -/
def Fits (a : Allocation) : LeafEncoding → Prop
  | .legacy | .timestamped => (∃ wallet, a.beneficiary = .wallet wallet) ∧ a.receivingMint = none
  | .multiLegacy | .multiTimestamped =>
    (∃ wallet, a.beneficiary = .wallet wallet) ∧ ∃ mint, a.receivingMint = some mint
  | .nftSpecific => (∃ mint group, a.beneficiary = .nft mint group) ∧ a.receivingMint = none
  | .nftCollection => (∃ group, a.beneficiary = .collection group) ∧ a.receivingMint = none

theorem exists_leafKeys_iff : (∃ keys, a.leafKeys? e = some keys) ↔ a.Fits e := by
  obtain ⟨_, _, beneficiary, mint, _, _⟩ := a
  cases e <;> cases beneficiary <;> cases mint <;> simp [leafKeys?, Fits]

theorem decides_leafBytes (a : Allocation) (e : LeafEncoding) :
    Decides (a.leafBytes e) [⟨a.Fits e, .leafMismatch⟩] := by
  have hbytes : a.leafBytes e = (demand (a.leafKeys? e) Refusal.leafMismatch).map fun keys =>
      e.heading ++ (Codec.u16.encode a.index ++ (a.leafTime e ++
        (keys.flatMap Codec.bytes32.encode ++
          (Codec.u64.encode a.receivingAmount ++ Codec.u64.encode a.sendingAmount)))) := by
    rw [leafBytes_eq]
    cases a.leafKeys? e <;> rfl
  rw [hbytes]
  exact (decides_demand exists_leafKeys_iff _).map _

theorem decides_leafHash (a : Allocation) (e : LeafEncoding) :
    Decides (a.leafHash e) [⟨a.Fits e, .leafMismatch⟩] :=
  (decides_leafBytes a e).map _

/-! ## What the parts determine -/

theorem length_leafKeys? {keys : List Address} (h : a.leafKeys? e = some keys) :
    keys.length = e.keyCount := by
  unfold leafKeys? at h
  split at h <;> first | (obtain rfl := Option.some.inj h; rfl) | exact absurd h (by simp)

/-- The keys of a leaf name the beneficiary and the mint. -/
theorem leafKeys?_inj {keys : List Address} (ha : a.leafKeys? e = some keys)
    (hb : b.leafKeys? e = some keys) :
    a.beneficiary = b.beneficiary ∧ a.receivingMint = b.receivingMint := by
  obtain ⟨_, _, beneficiary, mint, _, _⟩ := a
  obtain ⟨_, _, beneficiary', mint', _, _⟩ := b
  cases e <;> cases beneficiary <;> cases mint <;>
    simp only [leafKeys?, reduceCtorEq, Option.some.injEq] at ha <;> subst ha <;>
    cases beneficiary' <;> cases mint' <;> simp_all [leafKeys?]

theorem leafTime_append_inj {r s : Bytes} (h : a.leafTime e ++ r = b.leafTime e ++ s) :
    (e.carriesTime = true → a.timestamp = b.timestamp) ∧ r = s := by
  unfold leafTime at h
  by_cases htime : e.carriesTime = true
  · rw [if_pos htime, if_pos htime] at h
    obtain ⟨hstamp, hrest⟩ :=
      (Codec.readsBack_i64 a.timestamp).append_inj (Codec.readsBack_i64 b.timestamp) h
    exact ⟨fun _ => hstamp, hrest⟩
  · rw [if_neg htime, if_neg htime] at h
    exact ⟨fun h => absurd h htime, h⟩

/-- Two allocations agree in everything that a layout writes down. -/
structure SameEntry (e : LeafEncoding) (a b : Allocation) : Prop where
  index : a.index = b.index
  timestamp : e.carriesTime = true → a.timestamp = b.timestamp
  beneficiary : a.beneficiary = b.beneficiary
  receivingMint : a.receivingMint = b.receivingMint
  receivingAmount : a.receivingAmount = b.receivingAmount
  sendingAmount : a.sendingAmount = b.sendingAmount

/-- Leaves with the same bytes say the same. The parts are compared from left to right; each has a
length that the layout fixes. -/
theorem leafBytes_inj (ha : a.leafBytes e = .ok bytes) (hb : b.leafBytes e = .ok bytes) :
    SameEntry e a b := by
  obtain ⟨keys, hkeys, hbytes⟩ := leafBytes_eq_ok_iff.1 ha
  obtain ⟨keys', hkeys', hbytes'⟩ := leafBytes_eq_ok_iff.1 hb
  have hparts := List.append_cancel_left (hbytes.trans hbytes'.symm)
  obtain ⟨hindex, hafterIndex⟩ :=
    (Codec.readsBack_u16 _).append_inj (Codec.readsBack_u16 _) hparts
  obtain ⟨htime, hafterTime⟩ := leafTime_append_inj hafterIndex
  have hlength : keys.length = keys'.length := by
    rw [length_leafKeys? hkeys, length_leafKeys? hkeys']
  obtain ⟨hsame, hamounts⟩ := Codec.flatMap_append_inj (fun key _ => Codec.readsBack_bytes32 key)
    (fun key _ => Codec.readsBack_bytes32 key) hlength hafterTime
  obtain ⟨hbeneficiary, hmint⟩ := leafKeys?_inj hkeys (hsame ▸ hkeys')
  obtain ⟨hreceiving, hlast⟩ :=
    (Codec.readsBack_u64 _).append_inj (Codec.readsBack_u64 _) hamounts
  obtain ⟨hsending, -⟩ := (Codec.readsBack_u64 _).append_inj (Codec.readsBack_u64 _)
    (congrArg (· ++ ([] : Bytes)) hlast)
  exact ⟨hindex, htime, hbeneficiary, hmint, hreceiving, hsending⟩

/-- What a layout does not write down does not show in a leaf. -/
theorem SameEntry.leafBytes_eq (h : SameEntry e a b) : a.leafBytes e = b.leafBytes e := by
  have hkeys : a.leafKeys? e = b.leafKeys? e := by
    unfold leafKeys?
    rw [h.beneficiary, h.receivingMint]
  have htime : a.leafTime e = b.leafTime e := by
    unfold leafTime
    split
    next carries => rw [h.timestamp carries]
    next => rfl
  rw [Allocation.leafBytes_eq, Allocation.leafBytes_eq, hkeys, htime, h.index, h.receivingAmount,
    h.sendingAmount]

end Allocation

end Disbursement
