import Disbursement.Proofs.Codec

/-!
# Exact codecs

A codec is exact if its reader accepts what its writer produces and nothing else: a value that fits
reads back in front of any rest, and whatever was read is the writing of the value that came out,
with the rest behind it. So a value has one encoding, and no encoding can be cut short
(`Exact.refuses_cut`).

Fixed widths, enumerations and texts are exact; optional values, pairs, sequences and records are
exact if their parts are. The condition `Fits` says which values the format has room for: a number
has to fit its width, a sequence needs a length of four bytes.
-/

namespace Disbursement.Codec

variable {α β : Type} {Fits : α → Prop} {Suits : β → Prop}

/-- The reader accepts exactly what the writer makes of the values that fit. -/
structure Exact (codec : Codec α) (Fits : α → Prop) : Prop where
  /-- A value that fits is read back, whatever follows. -/
  readsBack : ∀ {value}, Fits value → codec.ReadsBack value
  /-- A value that was read fits, and what was read is its writing and the rest. -/
  accepted : ∀ {input value rest}, codec.decode input = .ok (value, rest) →
    Fits value ∧ input = codec.encode value ++ rest

namespace Exact

variable {codec : Codec α} {other : Codec β}

/-- A proper initial piece of an encoding is refused. -/
theorem refuses_cut (h : codec.Exact Fits) {value : α} (hfits : Fits value) {start missing : Bytes}
    (hcut : codec.encode value = start ++ missing) (hmissing : missing ≠ []) :
    ∃ refused, codec.decode start = .error refused := by
  cases hdecode : codec.decode start with
  | error refused => exact ⟨refused, rfl⟩
  | ok read =>
    obtain ⟨other, rest⟩ := read
    obtain ⟨hother, rfl⟩ := h.accepted hdecode
    have hwritten : codec.encode value ++ [] = codec.encode other ++ (rest ++ missing) := by
      rw [List.append_nil, hcut, List.append_assoc]
    obtain ⟨-, hnil⟩ := (h.readsBack hfits).append_inj (h.readsBack hother) hwritten
    exact absurd (List.append_eq_nil_iff.1 hnil.symm).2 hmissing

/-- The same codec, with its condition said differently. -/
theorem congr (h : codec.Exact Fits) {Fits' : α → Prop} (hiff : ∀ value, Fits value ↔ Fits' value) :
    codec.Exact Fits' where
  readsBack hfits := h.readsBack ((hiff _).2 hfits)
  accepted hdecode := (h.accepted hdecode).imp_left (hiff _).1

/-! ## Fields put together -/

theorem pair (h : codec.Exact Fits) (h' : other.Exact Suits) :
    (codec.pair other).Exact fun value => Fits value.1 ∧ Suits value.2 where
  readsBack hfits := (h.readsBack hfits.1).pair (h'.readsBack hfits.2)
  accepted hdecode := by
    obtain ⟨left, hfirst, hsecond⟩ := decode_pair_eq_ok_iff.1 hdecode
    obtain ⟨hfits, rfl⟩ := h.accepted hfirst
    obtain ⟨hsuits, rfl⟩ := h'.accepted hsecond
    exact ⟨⟨hfits, hsuits⟩, (List.append_assoc _ _ _).symm⟩

/-- Under another type whose values correspond to those that fit. -/
theorem imap (h : codec.Exact Fits) {build : α → β} {view : β → α}
    (hbuild : ∀ a, Fits a → view (build a) = a) (hview : ∀ b, build (view b) = b) :
    (codec.imap build view).Exact fun value => Fits (view value) where
  readsBack hfits := (h.readsBack hfits).imap (hview _)
  accepted {input value rest} hdecode := by
    obtain ⟨a, ha, rfl⟩ := decode_imap_eq_ok_iff.1 hdecode
    have hfits : Fits a := (h.accepted ha).1
    show Fits (view (build a)) ∧ input = codec.encode (view (build a)) ++ rest
    rw [hbuild a hfits]
    exact h.accepted ha

end Exact

/-! ## Fixed widths -/

theorem exact_u8 : u8.Exact fun _ => True where
  readsBack _ := readsBack_u8 _
  accepted {input value rest} hdecode := by
    cases input with
    | nil => cases hdecode
    | cons byte bytes =>
      obtain ⟨rfl, rfl⟩ := Prod.mk.inj (Except.ok.inj hdecode)
      exact ⟨trivial, rfl⟩

theorem exact_number (width : Nat) : (number width).Exact (· < 256 ^ width) where
  readsBack := readsBack_number
  accepted {input value rest} hdecode := by
    simp only [number] at hdecode
    split at hdecode
    next hlong =>
      obtain ⟨rfl, rfl⟩ := Prod.mk.inj (Except.ok.inj hdecode)
      have hlength : (input.take width).length = width := List.length_take_of_le hlong
      have hlt := Bytes.toNatLE_lt (input.take width)
      have hwritten := Bytes.ofNatLE_toNatLE (input.take width)
      rw [hlength] at hlt hwritten
      refine ⟨hlt, ?_⟩
      show input = Bytes.ofNatLE width (Bytes.toNatLE (input.take width)) ++ input.drop width
      rw [hwritten, List.take_append_drop]
    next => cases hdecode

theorem exact_u16 : u16.Exact fun _ => True :=
  ((exact_number 2).imap (fun _ => UInt16.toNat_ofNat_of_lt') fun _ => UInt16.ofNat_toNat).congr
    fun value => iff_true_intro value.toNat_lt

theorem exact_u32 : u32.Exact fun _ => True :=
  ((exact_number 4).imap (fun _ => UInt32.toNat_ofNat_of_lt') fun _ => UInt32.ofNat_toNat).congr
    fun value => iff_true_intro value.toNat_lt

theorem exact_u64 : u64.Exact fun _ => True :=
  ((exact_number 8).imap (fun _ => UInt64.toNat_ofNat_of_lt') fun _ => UInt64.ofNat_toNat).congr
    fun value => iff_true_intro value.toNat_lt

theorem exact_i64 : i64.Exact fun _ => True :=
  exact_u64.imap (fun _ _ => rfl) fun _ => rfl

theorem exact_bytes32 : bytes32.Exact fun _ => True where
  readsBack _ := readsBack_bytes32 _
  accepted {input value rest} hdecode := by
    simp only [bytes32] at hdecode
    split at hdecode
    next =>
      obtain ⟨rfl, rfl⟩ := Prod.mk.inj (Except.ok.inj hdecode)
      exact ⟨trivial, (List.take_append_drop 32 input).symm⟩
    next => cases hdecode

theorem exact_bool : bool.Exact fun _ => True where
  readsBack _ := readsBack_bool _
  accepted {input value rest} hdecode := by
    simp only [bool] at hdecode
    split at hdecode
    next => cases hdecode
    next =>
      obtain ⟨rfl, rfl⟩ := Prod.mk.inj (Except.ok.inj hdecode)
      exact ⟨trivial, rfl⟩
    next =>
      obtain ⟨rfl, rfl⟩ := Prod.mk.inj (Except.ok.inj hdecode)
      exact ⟨trivial, rfl⟩
    next => cases hdecode

/-- An enumeration without repetition has one tag for a case, and refuses the other tags. -/
theorem exact_enumeration [BEq α] [LawfulBEq α] {cases : List α} (hnodup : cases.Nodup)
    (hshort : cases.length ≤ 256) : (enumeration cases).Exact (· ∈ cases) where
  readsBack hmem := readsBack_enumeration hmem hshort
  accepted {input value rest} hdecode := by
    cases input with
    | nil => cases hdecode
    | cons tag bytes =>
      simp only [enumeration] at hdecode
      split at hdecode
      next found hget =>
        obtain ⟨rfl, rfl⟩ := Prod.mk.inj (Except.ok.inj hdecode)
        obtain ⟨hlt, rfl⟩ := List.getElem?_eq_some_iff.1 hget
        refine ⟨List.getElem_mem hlt, ?_⟩
        show tag :: bytes = UInt8.ofNat (cases.idxOf cases[tag.toNat]) :: bytes
        rw [hnodup.idxOf_getElem, UInt8.ofNat_toNat]
      next => cases hdecode

/-! ## Optional values and sequences -/

theorem exact_option {codec : Codec α} (h : codec.Exact Fits) :
    (option codec).Exact fun value? => ∀ value, value? = some value → Fits value where
  readsBack {value?} hfits := by
    intro rest
    cases value? with
    | none => rfl
    | some value =>
      have hread := h.readsBack (hfits value rfl) rest
      simp only [option, List.cons_append, hread, Except.map]
  accepted {input value? rest} hdecode := by
    simp only [option] at hdecode
    split at hdecode
    next => cases hdecode
    next =>
      obtain ⟨rfl, rfl⟩ := Prod.mk.inj (Except.ok.inj hdecode)
      refine ⟨?_, rfl⟩
      rintro _ ⟨⟩
    next bytes =>
      cases hread : codec.decode bytes with
      | error refused =>
        rw [hread] at hdecode
        cases hdecode
      | ok read =>
        rw [hread] at hdecode
        obtain ⟨rfl, rfl⟩ := Prod.mk.inj (Except.ok.inj hdecode)
        obtain ⟨hfits, hbytes⟩ := h.accepted hread
        refine ⟨?_, congrArg (List.cons 1) hbytes⟩
        rintro _ ⟨⟩
        exact hfits
    next => cases hdecode

theorem accepted_decodeMany {codec : Codec α} (h : codec.Exact Fits) {count : Nat}
    {input rest : Bytes} {values : List α}
    (hdecode : decodeMany codec count input = .ok (values, rest)) :
    (∀ value ∈ values, Fits value) ∧ input = values.flatMap codec.encode ++ rest := by
  induction count generalizing input rest values with
  | zero =>
    obtain ⟨rfl, rfl⟩ := Prod.mk.inj (Except.ok.inj hdecode)
    exact ⟨List.forall_mem_nil _, rfl⟩
  | succ count ih =>
    obtain ⟨⟨value, left⟩, hhead, hdecode⟩ := bind_eq_ok_iff.1 hdecode
    obtain ⟨⟨tail, rest⟩, htail, hdecode⟩ := bind_eq_ok_iff.1 hdecode
    obtain ⟨rfl, rfl⟩ := Prod.mk.inj (Except.ok.inj hdecode)
    obtain ⟨hvalue, rfl⟩ := h.accepted hhead
    obtain ⟨hfits, rfl⟩ := ih htail
    refine ⟨List.forall_mem_cons.2 ⟨hvalue, hfits⟩, ?_⟩
    rw [List.flatMap_cons, List.append_assoc]

theorem exact_list {codec : Codec α} (h : codec.Exact Fits) :
    (list codec).Exact fun values => values.length < 2 ^ 32 ∧ ∀ value ∈ values, Fits value where
  readsBack hfits := readsBack_list hfits.1 fun value hmem => h.readsBack (hfits.2 value hmem)
  accepted {input values rest} hdecode := by
    obtain ⟨⟨count, left⟩, hcount, hvalues⟩ := bind_eq_ok_iff.1 hdecode
    obtain ⟨-, rfl⟩ := exact_u32.accepted hcount
    obtain ⟨hfits, rfl⟩ := accepted_decodeMany h hvalues
    have hlength : UInt32.ofNat values.length = count := by
      rw [length_of_decodeMany hvalues, UInt32.ofNat_toNat]
    refine ⟨⟨length_lt_of_decode_list hdecode, hfits⟩, ?_⟩
    show _ = u32.encode (UInt32.ofNat values.length) ++ values.flatMap codec.encode ++ rest
    rw [hlength, List.append_assoc]

/-! ## Texts -/

theorem fromUTF8?_eq_some_iff {bytes : Bytes} {value : String} :
    String.fromUTF8? ⟨bytes.toArray⟩ = some value ↔ Bytes.ofText value = bytes := by
  unfold String.fromUTF8?
  constructor
  · intro h
    split at h
    next hvalid =>
      obtain rfl := Option.some.inj h
      rfl
    next => cases h
  · rintro rfl
    have hvalid : ByteArray.IsValidUTF8 ⟨(Bytes.ofText value).toArray⟩ := value.isValidUTF8
    rw [dif_pos hvalid]
    rfl

/-- A text is read where the sequence of its bytes is. -/
theorem decode_text_eq_ok_iff {input rest : Bytes} {value : String} :
    text.decode input = .ok (value, rest) ↔
      (list u8).decode input = .ok (Bytes.ofText value, rest) := by
  simp only [text, bind_eq_ok_iff, Prod.exists]
  constructor
  · rintro ⟨bytes, left, hbytes, hvalue⟩
    split at hvalue
    next found hfound =>
      obtain ⟨rfl, rfl⟩ := Prod.mk.inj (Except.ok.inj hvalue)
      rw [fromUTF8?_eq_some_iff.1 hfound]
      exact hbytes
    next => cases hvalue
  · intro hbytes
    refine ⟨_, _, hbytes, ?_⟩
    rw [fromUTF8?_eq_some_iff.2 rfl]
    rfl

theorem exact_text : text.Exact fun value => (Bytes.ofText value).length < 2 ^ 32 where
  readsBack hshort rest :=
    decode_text_eq_ok_iff.2 ((exact_list exact_u8).readsBack ⟨hshort, fun _ _ => trivial⟩ rest)
  accepted hdecode := by
    obtain ⟨⟨hshort, -⟩, hinput⟩ := (exact_list exact_u8).accepted (decode_text_eq_ok_iff.1 hdecode)
    exact ⟨hshort, hinput⟩

end Disbursement.Codec
