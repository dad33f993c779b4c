import Disbursement.Codec

/-!
# Lengths of encodings

How many bytes a writer makes of a value. Fixed widths always make the same number, fields put
together make the sum of theirs, and a sequence of values of one width makes that width for each of
them, behind four bytes for their number (`length_encode_list`).
-/

namespace Disbursement.Codec

variable {α β : Type}

/-! ## Fields put together -/

@[simp] theorem length_encode_imap (codec : Codec α) (build : α → β) (view : β → α) (value : β) :
    ((codec.imap build view).encode value).length = (codec.encode (view value)).length :=
  rfl

@[simp] theorem length_encode_pair (first : Codec α) (second : Codec β) (value : α × β) :
    ((first.pair second).encode value).length =
      (first.encode value.1).length + (second.encode value.2).length :=
  List.length_append

/-! ## Fixed widths -/

@[simp] theorem length_encode_u8 (value : UInt8) : (u8.encode value).length = 1 :=
  rfl

@[simp] theorem length_encode_number (width value : Nat) :
    ((number width).encode value).length = width :=
  Bytes.length_ofNatLE width value

@[simp] theorem length_encode_u16 (value : UInt16) : (u16.encode value).length = 2 :=
  length_encode_number 2 _

@[simp] theorem length_encode_u32 (value : UInt32) : (u32.encode value).length = 4 :=
  length_encode_number 4 _

@[simp] theorem length_encode_u64 (value : UInt64) : (u64.encode value).length = 8 :=
  length_encode_number 8 _

@[simp] theorem length_encode_i64 (value : Int64) : (i64.encode value).length = 8 :=
  length_encode_u64 _

@[simp] theorem length_encode_bytes32 (value : Bytes32) : (bytes32.encode value).length = 32 :=
  value.length_toList

@[simp] theorem length_encode_bool (value : Bool) : (bool.encode value).length = 1 :=
  rfl

@[simp] theorem length_encode_enumeration [BEq α] (cases : List α) (value : α) :
    ((enumeration cases).encode value).length = 1 :=
  rfl

/-! ## Sequences -/

theorem length_encode_list {codec : Codec α} {width : Nat}
    (h : ∀ value, (codec.encode value).length = width) (values : List α) :
    ((list codec).encode values).length = 4 + width * values.length := by
  have hvalues : (values.flatMap codec.encode).length = width * values.length := by
    induction values with
    | nil => rfl
    | cons value values ih =>
      rw [List.flatMap_cons, List.length_append, h, ih, List.length_cons]
      rw [Nat.mul_succ, Nat.add_comm]
  show (u32.encode _ ++ values.flatMap codec.encode).length = _
  rw [List.length_append, length_encode_u32, hvalues]

end Disbursement.Codec
