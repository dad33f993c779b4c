import Disbursement.Proofs.Codec.Exact
import Disbursement.Redemption.Marker
import Disbursement.Schedule.Basic
import Disbursement.Vault.Basic

/-!
# Records that read back

What is stored over the data of an account is what is read from it afterwards
(`Record.load_of_store`), provided the fields read back. The fields of all three kinds of record are
exact (`Vault.exact`, `Schedule.exact`, `Marker.exact`): those of a marker always read back, those
of a schedule as long as its bitmap is not absurdly long, which no schedule that was read is
(`Schedule.size_lt_of_load`); the same holds of a vault and its admins
(`Vault.length_admins_lt_of_load`).

The eight bytes in front keep the three kinds of record apart: data that holds a record of one type
holds no record of another (`Record.mark_eq_of_load`).
-/

namespace Disbursement

theorem length_discriminator (family name : String) : (discriminator family name).length = 8 := by
  rw [discriminator, List.length_take, Bytes32.length_toList]
  rfl

namespace Record

variable {α β : Type} [Record α] [Record β] {data stored : Bytes} {value : α}

/-! ## Reading and writing -/

theorem length_mark (α : Type) [Record α] : (mark α).length = 8 :=
  length_discriminator _ _

theorem length_encode (value : α) : (encode value).length = 8 + (fields.encode value).length := by
  rw [encode, List.length_append, length_mark]

theorem load_eq_ok_iff :
    load data = .ok value ↔ 8 ≤ data.length ∧ data.take 8 = mark α ∧
      ∃ rest, (fields : Codec α).decode (data.drop 8) = .ok (value, rest) := by
  simp only [load, bind_eq_ok_iff, ensure_eq_ok_iff, exists_const]
  refine and_congr_right fun _ => and_congr_right fun _ => ?_
  cases hdecode : (fields : Codec α).decode (data.drop 8) with
  | error refused => simp [throw, throwThe, MonadExceptOf.throw]
  | ok read => simp [Prod.ext_iff]

/-- Data that holds records of two types has the mark of both. -/
theorem mark_eq_of_load {other : β} (h : load data = .ok value) (h' : load data = .ok other) :
    mark α = mark β := by
  obtain ⟨-, hmark, -⟩ := load_eq_ok_iff.1 h
  obtain ⟨-, hmark', -⟩ := load_eq_ok_iff.1 h'
  rw [← hmark, hmark']

theorem store_eq_ok_iff :
    store data value = .ok stored ↔
      (encode value).length ≤ data.length ∧ data.writeOver (encode value) = stored := by
  simp only [store, writeOver, bind_eq_ok_iff, ensure_eq_ok_iff, exists_const, pure_eq_ok_iff]

/-- Bytes behind a record do not matter. -/
theorem load_encode_append (hread : (fields : Codec α).ReadsBack value) (rest : Bytes) :
    load (encode value ++ rest) = .ok value := by
  have hmark := length_mark α
  rw [encode, List.append_assoc]
  refine load_eq_ok_iff.2 ⟨?_, List.take_left' hmark, rest, ?_⟩
  · rw [List.length_append, hmark]
    exact Nat.le_add_right _ _
  · rw [List.drop_left' hmark]
    exact hread rest

/-- What was stored is read back. -/
theorem load_of_store (hread : (fields : Codec α).ReadsBack value)
    (h : store data value = .ok stored) : load stored = .ok value := by
  obtain ⟨hfits, rfl⟩ := store_eq_ok_iff.1 h
  rw [Bytes.writeOver_of_length_le hfits]
  exact load_encode_append hread _

/-! ## The three types -/

theorem mark_vault_ne_mark_schedule : mark Vault ≠ mark Schedule := by
  decide +kernel

theorem mark_vault_ne_mark_marker : mark Vault ≠ mark Marker := by
  decide +kernel

theorem mark_schedule_ne_mark_marker : mark Schedule ≠ mark Marker := by
  decide +kernel

end Record

/-! ## Fields -/

theorem Ownership.exact : Ownership.codec.Exact fun _ => True where
  readsBack {o} _ := by
    intro rest
    cases o with
    | owned owner =>
      exact bind_eq_ok_iff.2 ⟨(0, _), rfl, bind_eq_ok_iff.2
        ⟨(owner, rest), Codec.readsBack_bytes32 owner rest, rfl⟩⟩
    | pending owner candidate =>
      have hread := ((Codec.readsBack_bytes32 owner).pair (Codec.readsBack_bytes32 candidate)) rest
      exact bind_eq_ok_iff.2
        ⟨(1, _), rfl, bind_eq_ok_iff.2 ⟨((owner, candidate), rest), hread, rfl⟩⟩
  accepted {input o rest} hdecode := by
    refine ⟨trivial, ?_⟩
    obtain ⟨⟨tag, left⟩, htag, hbody⟩ := bind_eq_ok_iff.1 hdecode
    obtain ⟨-, rfl⟩ := Codec.exact_u8.accepted htag
    dsimp only at hbody
    split at hbody
    next =>
      obtain ⟨⟨owner, unread⟩, howner, hbuilt⟩ := bind_eq_ok_iff.1 hbody
      obtain ⟨rfl, rfl⟩ := Prod.mk.inj (Except.ok.inj hbuilt)
      exact congrArg (List.cons 0) (Codec.exact_bytes32.accepted howner).2
    next =>
      obtain ⟨⟨keys, unread⟩, hkeys, hbuilt⟩ := bind_eq_ok_iff.1 hbody
      obtain ⟨rfl, rfl⟩ := Prod.mk.inj (Except.ok.inj hbuilt)
      exact congrArg (List.cons 1) ((Codec.exact_bytes32.pair Codec.exact_bytes32).accepted hkeys).2
    next => cases hbody

theorem RedemptionBitmap.exact : RedemptionBitmap.codec.Exact fun b => b.size < 2 ^ 32 :=
  ((Codec.exact_list Codec.exact_u8).imap (fun _ _ => rfl) fun _ => rfl).congr
    fun _ => and_iff_left fun _ _ => trivial

theorem ScheduleKind.exact : ScheduleKind.codec.Exact fun _ => True :=
  (Codec.exact_enumeration (by decide) (by decide)).congr
    fun kind => iff_true_intro (by cases kind <;> decide)

theorem MarkerScope.exact : MarkerScope.codec.Exact fun _ => True :=
  (Codec.exact_enumeration (by decide) (by decide)).congr
    fun scope => iff_true_intro (by cases scope <;> decide)

namespace Vault

theorem exact : (Record.fields : Codec Vault).Exact fun v => v.admins.length < 2 ^ 32 := by
  have hparts := Codec.exact_u8.pair <| Codec.exact_u8.pair <| Ownership.exact.pair <|
    Codec.exact_list Codec.exact_bytes32
  show codec.Exact _
  refine .congr (.imap hparts (fun _ _ => rfl) fun _ => rfl) fun v => ?_
  simp only [true_and, implies_true, and_true]

theorem readsBack {v : Vault} (h : v.admins.length < 2 ^ 32) :
    (Record.fields : Codec Vault).ReadsBack v :=
  exact.readsBack h

theorem length_admins_lt_of_load {v : Vault} {data : Bytes} (h : Record.load data = .ok v) :
    v.admins.length < 2 ^ 32 := by
  obtain ⟨-, -, rest, hdecode⟩ := Record.load_eq_ok_iff.1 h
  exact (exact.accepted hdecode).1

end Vault

namespace Marker

theorem exact : (Record.fields : Codec Marker).Exact fun _ => True := by
  have hparts := Codec.exact_u8.pair <| Codec.exact_bytes32.pair <| Codec.exact_u16.pair <|
    Codec.exact_bytes32.pair Codec.exact_bool
  show codec.Exact _
  refine .congr (.imap hparts (fun _ _ => rfl) fun _ => rfl) fun m => ?_
  simp only [and_self]

theorem readsBack (m : Marker) : (Record.fields : Codec Marker).ReadsBack m :=
  exact.readsBack trivial

end Marker

namespace Schedule

variable {s : Schedule} {data : Bytes}

theorem exact : (Record.fields : Codec Schedule).Exact fun s => s.redemptions.size < 2 ^ 32 := by
  have hparts := Codec.exact_u8.pair <| Codec.exact_bytes32.pair <| Codec.exact_u64.pair <|
    Codec.exact_i64.pair <| Codec.exact_i64.pair <| Codec.exact_bytes32.pair <|
    ScheduleKind.exact.pair <| MarkerScope.exact.pair <| Codec.exact_bytes32.pair <|
    Codec.exact_bytes32.pair <| Codec.exact_bytes32.pair <| Codec.exact_bytes32.pair <|
    Codec.exact_bool.pair <| Codec.exact_u16.pair RedemptionBitmap.exact
  show codec.Exact _
  refine .congr (.imap hparts (fun _ _ => rfl) fun _ => rfl) fun s => ?_
  simp only [true_and]

theorem readsBack (h : s.redemptions.size < 2 ^ 32) :
    (Record.fields : Codec Schedule).ReadsBack s :=
  exact.readsBack h

/-- The length of a bitmap that was read fits into the four bytes it was read from. -/
theorem size_lt_of_load (h : Record.load data = .ok s) : s.redemptions.size < 2 ^ 32 := by
  obtain ⟨-, -, rest, hdecode⟩ := Record.load_eq_ok_iff.1 h
  exact (exact.accepted hdecode).1

end Schedule

end Disbursement
