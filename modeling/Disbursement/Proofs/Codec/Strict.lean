import Disbursement.Proofs.Codec.Exact
import Disbursement.Proofs.Codec.Length

/-!
# Strict codecs

A codec is strict if every value has an encoding, the reader accepts nothing else, and an encoding
of which the end is missing is refused for that reason, whatever the value.

Fixed widths are strict (`Strict.of_width`): the reader asks for as many bytes as the writer makes.
Fields put together are strict if they are (`Strict.pair`), since the reader stops at the field in
which the input ends.
-/

namespace Disbursement.Codec

variable {α β : Type}

/-- Every value has an encoding, nothing else is accepted, and what is cut short is refused as
such. -/
structure Strict (codec : Codec α) : Prop where
  exact : codec.Exact fun _ => True
  /-- An encoding of which the end is missing is refused because it ends. -/
  noticesEnd : ∀ {value start missing}, codec.encode value = start ++ missing → missing ≠ [] →
    codec.decode start = .error .unexpectedEnd

namespace Strict

variable {codec : Codec α} {other : Codec β}

/-! ## Fields put together -/

theorem pair (h : codec.Strict) (h' : other.Strict) : (codec.pair other).Strict where
  exact := (h.exact.pair h'.exact).congr fun _ => iff_true_intro ⟨trivial, trivial⟩
  noticesEnd {value start missing} hcut hmissing := by
    obtain ⟨a, b⟩ := value
    have hfields : codec.encode a ++ other.encode b = start ++ missing := hcut
    -- the first field is there as a whole, and the second one is cut short
    have hsecond {extra : Bytes} (hstart : start = codec.encode a ++ extra)
        (hextra : other.encode b = extra ++ missing) :
        (codec.pair other).decode start = .error .unexpectedEnd := by
      have hread : codec.decode start = .ok (a, extra) := by
        rw [hstart]
        exact h.exact.readsBack trivial extra
      refine bind_eq_error_iff.2 (.inr ⟨(a, extra), hread, bind_eq_error_iff.2 (.inl ?_)⟩)
      exact h'.noticesEnd hextra hmissing
    rcases List.append_eq_append_iff.1 hfields with ⟨extra, hstart, hextra⟩ | ⟨lacking, ha, hrest⟩
    · exact hsecond hstart hextra
    · by_cases hlacking : lacking = []
      · rw [hlacking, List.append_nil] at ha
        rw [hlacking, List.nil_append] at hrest
        exact hsecond (by rw [ha, List.append_nil]) (by rw [hrest, List.nil_append])
      · exact bind_eq_error_iff.2 (.inl (h.noticesEnd ha hlacking))

/-! ## Fixed widths -/

/-- A reader that needs as many bytes as the writer makes. -/
theorem of_width {width : Nat} (hexact : codec.Exact fun _ => True)
    (hlength : ∀ value, (codec.encode value).length = width)
    (hshort : ∀ {start}, start.length < width → codec.decode start = .error .unexpectedEnd) :
    codec.Strict where
  exact := hexact
  noticesEnd {value start missing} hcut hmissing := by
    have hmissing : 0 < missing.length := List.length_pos_iff.2 hmissing
    have htotal := congrArg List.length hcut
    rw [hlength, List.length_append] at htotal
    exact hshort (by omega)

end Strict

theorem decode_number_of_short {width : Nat} {start : Bytes} (h : start.length < width) :
    (number width).decode start = .error .unexpectedEnd :=
  if_neg (Nat.not_le.2 h)

theorem strict_u8 : u8.Strict :=
  .of_width exact_u8 length_encode_u8 fun h => by
    rw [List.length_eq_zero_iff.1 (Nat.lt_one_iff.1 h)]
    rfl

theorem strict_u16 : u16.Strict :=
  .of_width exact_u16 length_encode_u16 fun h => map_eq_error_iff.2 (decode_number_of_short h)

theorem strict_u64 : u64.Strict :=
  .of_width exact_u64 length_encode_u64 fun h => map_eq_error_iff.2 (decode_number_of_short h)

theorem strict_i64 : i64.Strict :=
  .of_width exact_i64 length_encode_i64 fun h =>
    map_eq_error_iff.2 (map_eq_error_iff.2 (decode_number_of_short h))

theorem strict_bytes32 : bytes32.Strict :=
  .of_width exact_bytes32 length_encode_bytes32 fun h => dif_neg (Nat.not_le.2 h)

theorem strict_bool : bool.Strict :=
  .of_width exact_bool length_encode_bool fun h => by
    rw [List.length_eq_zero_iff.1 (Nat.lt_one_iff.1 h)]
    rfl

end Disbursement.Codec
