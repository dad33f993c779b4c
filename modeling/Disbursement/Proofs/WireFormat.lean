import Disbursement.Allocation.Leaf
import Disbursement.Merkle.Proof
import Disbursement.Proofs.Record

/-!
# The wire format

Every value that is exchanged or stored has exactly one encoding, and nothing else is read as that
value: writing and reading are inverse to each other, in front of any rest. What is cut short is
refused, and the data of an account is a record of at most one type.

* `Codec.Unambiguous` says this of a value between others, `Record.Unambiguous` of a record that
  fills an account, whose rest is not looked at.
* `wireFormat_unambiguous` states it for every type of the wire format. Lists need a length of four
  bytes; nothing else restricts a value.
-/

namespace Disbursement

variable {α β : Type}

/-! ## Values between others -/

/-- A wire format in which the values that fit have one encoding each, and no other bytes are
read. -/
structure Codec.Unambiguous (codec : Codec α) (Fits : α → Prop) : Prop where
  /-- Reading undoes writing and leaves what follows. -/
  decode_encode : ∀ value, Fits value → ∀ rest,
    codec.decode (codec.encode value ++ rest) = .ok (value, rest)
  /-- Writing undoes reading. -/
  encode_of_decode : ∀ input value rest, codec.decode input = .ok (value, rest) →
    input = codec.encode value ++ rest
  /-- No value is read from a part of an encoding. -/
  refuses_part : ∀ value, Fits value → ∀ start, start <+: codec.encode value →
    start ≠ codec.encode value → ∃ refused, codec.decode start = .error refused

/-- What is missing from a part of some bytes. -/
theorem exists_missing {start bytes : Bytes} (hstart : start <+: bytes) (hne : start ≠ bytes) :
    ∃ missing, missing ≠ [] ∧ bytes = start ++ missing := by
  obtain ⟨missing, rfl⟩ := hstart
  refine ⟨missing, ?_, rfl⟩
  rintro rfl
  exact hne (List.append_nil start).symm

theorem Codec.Exact.unambiguous {codec : Codec α} {Fits : α → Prop} (h : codec.Exact Fits) :
    codec.Unambiguous Fits where
  decode_encode _ hfits := h.readsBack hfits
  encode_of_decode _ _ _ hdecode := (h.accepted hdecode).2
  refuses_part value hfits start hstart hne := by
    obtain ⟨missing, hmissing, hcut⟩ := exists_missing hstart hne
    exact h.refuses_cut hfits hcut hmissing

/-! ## Records -/

/-- A record type whose values that fit have one encoding each at the start of account data, and
that is read from no other data. -/
structure Record.Unambiguous (α : Type) [Record α] (Fits : α → Prop) : Prop where
  /-- Reading undoes writing, whatever follows. -/
  load_encode : ∀ value : α, Fits value → ∀ rest,
    Record.load (Record.encode value ++ rest) = .ok value
  /-- Writing undoes reading, up to the rest that is not looked at. -/
  encode_of_load : ∀ data (value : α), Record.load data = .ok value →
    ∃ rest, data = Record.encode value ++ rest
  /-- No record is read from a part of an encoding. -/
  refuses_part : ∀ value : α, Fits value → ∀ start, start <+: Record.encode value →
    start ≠ Record.encode value →
      ∃ refused, (Record.load start : Except EntryError α) = .error refused

namespace Record

variable [Record α] [Record β] {Fits : α → Prop}

/-- What a record is read from: its own encoding, with any rest. -/
theorem load_eq_ok_iff_encode (h : (fields : Codec α).Exact Fits) {data : Bytes} {value : α} :
    load data = .ok value ↔ Fits value ∧ ∃ rest, data = encode value ++ rest := by
  constructor
  · intro hload
    obtain ⟨-, hmark, rest, hdecode⟩ := load_eq_ok_iff.1 hload
    obtain ⟨hfits, hfields⟩ := h.accepted hdecode
    refine ⟨hfits, rest, ?_⟩
    calc data = data.take 8 ++ data.drop 8 := (List.take_append_drop 8 data).symm
      _ = mark α ++ (fields.encode value ++ rest) := by rw [hmark, hfields]
      _ = encode value ++ rest := (List.append_assoc _ _ _).symm
  · rintro ⟨hfits, rest, rfl⟩
    exact load_encode_append (h.readsBack hfits) rest

theorem unambiguous (h : (fields : Codec α).Exact Fits) : Unambiguous α Fits where
  load_encode value hfits rest := load_encode_append (h.readsBack hfits) rest
  encode_of_load data value hload := ((load_eq_ok_iff_encode h).1 hload).2
  refuses_part value hfits start hstart hne := by
    obtain ⟨missing, hmissing, hcut⟩ := exists_missing hstart hne
    cases hload : (load start : Except EntryError α) with
    | error refused => exact ⟨refused, rfl⟩
    | ok other =>
      obtain ⟨hother, rest, rfl⟩ := (load_eq_ok_iff_encode h).1 hload
      have hwritten : encode value = encode other ++ (rest ++ missing) := by
        rw [hcut, List.append_assoc]
      -- The whole encoding reads as both values, so they are one and nothing can be missing.
      have hsame : value = other := by
        have hvalue := load_encode_append (h.readsBack hfits) []
        rw [List.append_nil, hwritten, load_encode_append (h.readsBack hother)] at hvalue
        exact (Except.ok.inj hvalue).symm
      subst hsame
      have hnil := List.self_eq_append_right.1 hwritten
      exact absurd (List.append_eq_nil_iff.1 hnil).2 hmissing

/-- No data holds records of two types with different marks. -/
theorem not_load_both (h : mark α ≠ mark β) (data : Bytes) (value : α) (other : β) :
    ¬(load data = .ok value ∧ load data = .ok other) := by
  rintro ⟨hvalue, hother⟩
  exact h (mark_eq_of_load hvalue hother)

end Record

/-! ## The types that are exchanged -/

theorem Beneficiary.exact : Beneficiary.codec.Exact fun _ => True where
  readsBack {b} _ := by
    intro rest
    cases b with
    | wallet address =>
      exact bind_eq_ok_iff.2 ⟨(0, _), rfl, bind_eq_ok_iff.2
        ⟨(address, rest), Codec.readsBack_bytes32 address rest, rfl⟩⟩
    | nft mint group =>
      have hread := ((Codec.readsBack_bytes32 mint).pair (Codec.readsBack_bytes32 group)) rest
      exact bind_eq_ok_iff.2 ⟨(1, _), rfl, bind_eq_ok_iff.2 ⟨((mint, group), rest), hread, rfl⟩⟩
    | collection group =>
      exact bind_eq_ok_iff.2 ⟨(2, _), rfl, bind_eq_ok_iff.2
        ⟨(group, rest), Codec.readsBack_bytes32 group rest, rfl⟩⟩
  accepted {input b rest} hdecode := by
    refine ⟨trivial, ?_⟩
    obtain ⟨⟨tag, left⟩, htag, hbody⟩ := bind_eq_ok_iff.1 hdecode
    obtain ⟨-, rfl⟩ := Codec.exact_u8.accepted htag
    dsimp only at hbody
    split at hbody
    next =>
      obtain ⟨⟨address, unread⟩, haddress, hbuilt⟩ := bind_eq_ok_iff.1 hbody
      obtain ⟨rfl, rfl⟩ := Prod.mk.inj (Except.ok.inj hbuilt)
      exact congrArg (List.cons 0) (Codec.exact_bytes32.accepted haddress).2
    next =>
      obtain ⟨⟨keys, unread⟩, hkeys, hbuilt⟩ := bind_eq_ok_iff.1 hbody
      obtain ⟨rfl, rfl⟩ := Prod.mk.inj (Except.ok.inj hbuilt)
      exact congrArg (List.cons 1) ((Codec.exact_bytes32.pair Codec.exact_bytes32).accepted hkeys).2
    next =>
      obtain ⟨⟨group, unread⟩, hgroup, hbuilt⟩ := bind_eq_ok_iff.1 hbody
      obtain ⟨rfl, rfl⟩ := Prod.mk.inj (Except.ok.inj hbuilt)
      exact congrArg (List.cons 2) (Codec.exact_bytes32.accepted hgroup).2
    next => cases hbody

theorem Allocation.exact : Allocation.codec.Exact fun _ => True := by
  have hparts := Codec.exact_u16.pair <| Codec.exact_i64.pair <| Beneficiary.exact.pair <|
    (Codec.exact_option Codec.exact_bytes32).pair <| Codec.exact_u64.pair Codec.exact_u64
  refine .congr (.imap hparts (fun _ _ => rfl) fun _ => rfl) fun a => ?_
  simp only [implies_true, and_self]

theorem ProofNode.exact : ProofNode.codec.Exact fun _ => True := by
  have hside : sideCodec.Exact (· ∈ [Side.left, Side.right]) :=
    Codec.exact_enumeration (by decide) (by decide)
  refine .congr (.imap (Codec.exact_bytes32.pair hside) (fun _ _ => rfl) fun _ => rfl)
    fun node => ?_
  cases node with
  | mk hash side => cases side <;> simp

theorem LeafEncoding.exact : LeafEncoding.codec.Exact fun _ => True :=
  (Codec.exact_enumeration (by decide) (by decide)).congr
    fun encoding => iff_true_intro (by cases encoding <;> decide)

theorem ProofNode.exact_list :
    (Codec.list ProofNode.codec).Exact fun proof => proof.length < 2 ^ 32 :=
  (Codec.exact_list ProofNode.exact).congr fun _ => and_iff_left fun _ _ => trivial

/-- Every type of the wire format has one encoding for a value and reads nothing else, lists up to
the length that four bytes can say; and no data holds records of two types. -/
theorem wireFormat_unambiguous :
    Allocation.codec.Unambiguous (fun _ => True) ∧
    Beneficiary.codec.Unambiguous (fun _ => True) ∧
    (Codec.list ProofNode.codec).Unambiguous (fun proof => proof.length < 2 ^ 32) ∧
    Ownership.codec.Unambiguous (fun _ => True) ∧
    RedemptionBitmap.codec.Unambiguous (fun b => b.bytes.length < 2 ^ 32) ∧
    MarkerScope.codec.Unambiguous (fun _ => True) ∧
    ScheduleKind.codec.Unambiguous (fun _ => True) ∧
    LeafEncoding.codec.Unambiguous (fun _ => True) ∧
    Record.Unambiguous Vault (fun v => v.admins.length < 2 ^ 32) ∧
    Record.Unambiguous Schedule (fun s => s.redemptions.bytes.length < 2 ^ 32) ∧
    Record.Unambiguous Marker (fun _ => True) ∧
    (∀ data (v : Vault) (s : Schedule),
      ¬(Record.load data = .ok v ∧ Record.load data = .ok s)) ∧
    (∀ data (v : Vault) (m : Marker),
      ¬(Record.load data = .ok v ∧ Record.load data = .ok m)) ∧
    (∀ data (s : Schedule) (m : Marker),
      ¬(Record.load data = .ok s ∧ Record.load data = .ok m)) := by
  refine ⟨Allocation.exact.unambiguous, Beneficiary.exact.unambiguous,
    ProofNode.exact_list.unambiguous, Ownership.exact.unambiguous,
    RedemptionBitmap.exact.unambiguous, MarkerScope.exact.unambiguous,
    ScheduleKind.exact.unambiguous, LeafEncoding.exact.unambiguous,
    Record.unambiguous Vault.exact, Record.unambiguous Schedule.exact,
    Record.unambiguous Marker.exact, ?_, ?_, ?_⟩
  · exact Record.not_load_both Record.mark_vault_ne_mark_schedule
  · exact Record.not_load_both Record.mark_vault_ne_mark_marker
  · exact Record.not_load_both Record.mark_schedule_ne_mark_marker

end Disbursement
