import Disbursement.Check
import Disbursement.Codec
import Mathlib.Algebra.GroupWithZero.Nat

/-!
# Values that read back

A value reads back if the reader recovers it from what the writer made of it, whatever follows.
Values that read back cannot be confused, also in the middle of a longer byte string
(`ReadsBack.append_inj`), which is what makes the concatenation of fields unambiguous.

A number reads back if its width can hold it (`Bytes.toNatLE_ofNatLE`, `readsBack_number`).
Fixed-width fields and enumerations read back always; a sequence reads back as long as its length
fits into four bytes (`readsBack_list`), and every sequence that was read is that short
(`length_lt_of_decode_list`). Pairs and records inherit it from their fields.
-/

namespace Disbursement.Bytes

/-! ## Little-endian numbers -/

theorem toNatLE_lt (bs : Bytes) : toNatLE bs < 256 ^ bs.length := by
  induction bs with
  | nil => simp [toNatLE]
  | cons b bs ih =>
    have hb := b.toNat_lt
    simp only [toNatLE, List.length_cons, Nat.pow_succ]
    omega

/-- Reading back gives the number modulo what the width can hold. -/
theorem toNatLE_ofNatLE (width n : Nat) : toNatLE (ofNatLE width n) = n % 256 ^ width := by
  induction width generalizing n with
  | zero => simp [ofNatLE, toNatLE, Nat.mod_one]
  | succ width ih =>
    have byte : (UInt8.ofNat n).toNat = n % 256 := by simp
    rw [ofNatLE, toNatLE, ih, byte, Nat.pow_succ, Nat.mul_comm (256 ^ width) 256, Nat.mod_mul]

end Disbursement.Bytes

namespace Disbursement.Codec

variable {α β : Type}

/-- The reader recovers the value and leaves what follows. -/
def ReadsBack (codec : Codec α) (value : α) : Prop :=
  ∀ rest, codec.decode (codec.encode value ++ rest) = .ok (value, rest)

/-- Nothing needs to follow. -/
theorem ReadsBack.decode_encode {codec : Codec α} {value : α} (h : codec.ReadsBack value) :
    codec.decode (codec.encode value) = .ok (value, []) := by
  have hread := h []
  rw [List.append_nil] at hread
  exact hread

theorem ReadsBack.append_inj {codec : Codec α} {v w : α} {r s : Bytes}
    (hv : codec.ReadsBack v) (hw : codec.ReadsBack w)
    (h : codec.encode v ++ r = codec.encode w ++ s) : v = w ∧ r = s := by
  have hread := hv r
  rw [h, hw s] at hread
  obtain ⟨rfl, rfl⟩ := Prod.mk.inj (Except.ok.inj hread)
  exact ⟨rfl, rfl⟩

/-! ## Fields put together -/

theorem ReadsBack.imap {codec : Codec α} {build : α → β} {view : β → α} {value : β}
    (h : codec.ReadsBack (view value)) (hview : build (view value) = value) :
    (codec.imap build view).ReadsBack value := by
  intro rest
  simp only [Codec.imap, h rest, Except.map, hview]

theorem ReadsBack.pair {first : Codec α} {second : Codec β} {a : α} {b : β}
    (ha : first.ReadsBack a) (hb : second.ReadsBack b) :
    (first.pair second).ReadsBack (a, b) := by
  intro rest
  simp only [Codec.pair, List.append_assoc]
  rw [ha (second.encode b ++ rest)]
  simp only [bind, Except.bind, hb rest, pure, Except.pure]

theorem decode_imap_eq_ok_iff {codec : Codec α} {build : α → β} {view : β → α} {value : β}
    {input rest : Bytes} :
    (codec.imap build view).decode input = .ok (value, rest) ↔
      ∃ a, codec.decode input = .ok (a, rest) ∧ build a = value := by
  simp only [imap]
  cases codec.decode input with
  | error refused => simp [Except.map]
  | ok read =>
    obtain ⟨a, left⟩ := read
    simp only [Except.map, Except.ok.injEq, Prod.mk.injEq]
    constructor
    · rintro ⟨rfl, rfl⟩
      exact ⟨a, ⟨rfl, rfl⟩, rfl⟩
    · rintro ⟨_, ⟨rfl, rfl⟩, rfl⟩
      exact ⟨rfl, rfl⟩

theorem decode_pair_eq_ok_iff {first : Codec α} {second : Codec β} {value : α × β}
    {input rest : Bytes} :
    (first.pair second).decode input = .ok (value, rest) ↔
      ∃ left, first.decode input = .ok (value.1, left) ∧
        second.decode left = .ok (value.2, rest) := by
  simp only [pair, bind_eq_ok_iff, pure_eq_ok_iff, Prod.exists, Prod.ext_iff]
  constructor
  · rintro ⟨a, left, hfirst, b, _, hsecond, ⟨rfl, rfl⟩, rfl⟩
    exact ⟨left, hfirst, hsecond⟩
  · rintro ⟨left, hfirst, hsecond⟩
    exact ⟨_, left, hfirst, _, rest, hsecond, ⟨rfl, rfl⟩, rfl⟩

/-! ## Fixed widths -/

theorem readsBack_u8 (value : UInt8) : u8.ReadsBack value :=
  fun _ => rfl

theorem readsBack_number {width value : Nat} (h : value < 256 ^ width) :
    (number width).ReadsBack value := by
  intro rest
  have hlength : width ≤ (Bytes.ofNatLE width value ++ rest).length := by
    rw [List.length_append, Bytes.length_ofNatLE]
    exact Nat.le_add_right _ _
  have htake : (Bytes.ofNatLE width value ++ rest).take width = Bytes.ofNatLE width value :=
    List.take_left' (Bytes.length_ofNatLE width value)
  have hdrop : (Bytes.ofNatLE width value ++ rest).drop width = rest :=
    List.drop_left' (Bytes.length_ofNatLE width value)
  simp only [number, if_pos hlength, htake, hdrop, Bytes.toNatLE_ofNatLE, Nat.mod_eq_of_lt h]

theorem readsBack_u16 (value : UInt16) : u16.ReadsBack value :=
  ReadsBack.imap (readsBack_number value.toNat_lt) UInt16.ofNat_toNat

theorem readsBack_u32 (value : UInt32) : u32.ReadsBack value :=
  ReadsBack.imap (readsBack_number value.toNat_lt) UInt32.ofNat_toNat

theorem readsBack_u64 (value : UInt64) : u64.ReadsBack value :=
  ReadsBack.imap (readsBack_number value.toNat_lt) UInt64.ofNat_toNat

theorem readsBack_i64 (value : Int64) : i64.ReadsBack value :=
  ReadsBack.imap (readsBack_u64 value.toUInt64) rfl

theorem readsBack_bytes32 (value : Bytes32) : bytes32.ReadsBack value := by
  intro rest
  have hlength : 32 ≤ (value.toList ++ rest).length := by
    rw [List.length_append, value.length_toList]
    exact Nat.le_add_right _ _
  simp only [bytes32, dif_pos hlength, Except.ok.injEq, Prod.mk.injEq]
  exact ⟨Bytes32.ext (List.take_left' value.length_toList), List.drop_left' value.length_toList⟩

theorem readsBack_bool (value : Bool) : bool.ReadsBack value := by
  intro rest
  cases value <;> rfl

theorem readsBack_enumeration [BEq α] [LawfulBEq α] {cases : List α} {value : α}
    (hmem : value ∈ cases) (hshort : cases.length ≤ 256) :
    (enumeration cases).ReadsBack value := by
  intro rest
  have hindex : cases.idxOf value < cases.length := List.idxOf_lt_length_of_mem hmem
  have htag : (UInt8.ofNat (cases.idxOf value)).toNat = cases.idxOf value := by
    rw [UInt8.toNat_ofNat', Nat.mod_eq_of_lt (by omega)]
  have hget : cases[cases.idxOf value]? = some value := by
    rw [List.getElem?_eq_getElem hindex, List.getElem_idxOf]
  simp only [enumeration, List.singleton_append, htag, hget]

/-! ## Sequences -/

theorem decodeMany_flatMap {codec : Codec α} {values : List α}
    (h : ∀ value ∈ values, codec.ReadsBack value) (rest : Bytes) :
    decodeMany codec values.length (values.flatMap codec.encode ++ rest) =
      .ok (values, rest) := by
  induction values with
  | nil => rfl
  | cons value values ih =>
    have hhead := h value List.mem_cons_self
    have htail := ih fun other hmem => h other (List.mem_cons_of_mem _ hmem)
    rw [List.flatMap_cons, List.append_assoc, List.length_cons, decodeMany, hhead]
    simp only [bind, Except.bind, htail, pure, Except.pure]

/-- Sequences of one length cannot be confused, even without their length in front. -/
theorem flatMap_append_inj {codec : Codec α} {vs ws : List α} {r s : Bytes}
    (hvs : ∀ value ∈ vs, codec.ReadsBack value) (hws : ∀ value ∈ ws, codec.ReadsBack value)
    (hlength : vs.length = ws.length)
    (h : vs.flatMap codec.encode ++ r = ws.flatMap codec.encode ++ s) : vs = ws ∧ r = s := by
  have hread := decodeMany_flatMap hvs r
  rw [h, hlength, decodeMany_flatMap hws s] at hread
  obtain ⟨rfl, rfl⟩ := Prod.mk.inj (Except.ok.inj hread)
  exact ⟨rfl, rfl⟩

theorem readsBack_list {codec : Codec α} {values : List α} (hshort : values.length < 2 ^ 32)
    (h : ∀ value ∈ values, codec.ReadsBack value) : (list codec).ReadsBack values := by
  intro rest
  have hcount : (UInt32.ofNat values.length).toNat = values.length := by
    rw [UInt32.toNat_ofNat', Nat.mod_eq_of_lt hshort]
  simp only [list, List.append_assoc, readsBack_u32 _ _, bind, Except.bind, hcount]
  exact decodeMany_flatMap h rest

theorem length_of_decodeMany {codec : Codec α} {count : Nat} {input rest : Bytes}
    {values : List α} (h : decodeMany codec count input = .ok (values, rest)) :
    values.length = count := by
  induction count generalizing input rest values with
  | zero =>
    obtain ⟨rfl, -⟩ := Prod.mk.inj (Except.ok.inj h)
    rfl
  | succ count ih =>
    obtain ⟨⟨value, afterValue⟩, -, h⟩ := bind_eq_ok_iff.1 h
    obtain ⟨⟨tail, afterTail⟩, htail, h⟩ := bind_eq_ok_iff.1 h
    obtain ⟨rfl, -⟩ := Prod.mk.inj (Except.ok.inj h)
    rw [List.length_cons, ih htail]

/-- The length of a sequence that was read fits into the four bytes it was read from. -/
theorem length_lt_of_decode_list {codec : Codec α} {input rest : Bytes} {values : List α}
    (h : (list codec).decode input = .ok (values, rest)) : values.length < 2 ^ 32 := by
  obtain ⟨⟨count, afterCount⟩, -, h⟩ := bind_eq_ok_iff.1 h
  rw [length_of_decodeMany h]
  exact count.toNat_lt

end Disbursement.Codec
