import Disbursement.Event.Field
import Disbursement.Proofs.Codec.Strict
import Disbursement.Proofs.Record
import Mathlib.Data.List.Nodup

/-!
# Events are recognised

A reader of a log knows neither which event comes next nor where it ends. The first eight bytes tell
the kind, since no two kinds share them (`EventKind.nodup_marks`); then the kind tells the fields,
and each field its own length. So an event is read back in front of whatever follows, and nothing
else is read as an event.

* `EventLayout` is how the fields of one kind are laid out: a strict codec, and the events that it
  writes. `Event.layout` gives it for every kind; this is the only place where the kinds are gone
  through.
* `Event.decode_eq_ok_some_iff` says what is read as an event, `Event.decode_eq_ok_none_iff` what is
  not recognised at all, and `Event.decode_cut` what becomes of an event of which the end is
  missing.
* `Event.events_are_unambiguous` is the result.
-/

namespace Disbursement

/-! ## The first eight bytes -/

namespace EventKind

variable {kind other : EventKind} {input : Bytes}

theorem mem_all (kind : EventKind) : kind ∈ all := by
  cases kind <;> decide

theorem nodup_marks : (all.map mark).Nodup := by
  decide +kernel

theorem length_mark (kind : EventKind) : kind.mark.length = 8 :=
  length_discriminator _ _

/-- The same bytes start with the mark of one kind only. -/
theorem eq_of_isPrefix_mark (h : kind.mark <+: input) (h' : other.mark <+: input) :
    kind = other := by
  have hlength : kind.mark.length = other.mark.length := by
    rw [length_mark, length_mark]
  have hmark : kind.mark = other.mark :=
    (List.prefix_of_prefix_length_le h h' (Nat.le_of_eq hlength)).eq_of_length hlength
  exact List.inj_on_of_nodup_map nodup_marks (mem_all kind) (mem_all other) hmark

/-- The mark in front of some bytes selects the kind it belongs to. -/
theorem find?_eq_some_of_isPrefix (h : kind.mark <+: input) :
    (all.find? fun kind => kind.mark.isPrefixOf input) = some kind := by
  cases hfind : all.find? fun kind => kind.mark.isPrefixOf input with
  | none =>
    exact absurd (List.isPrefixOf_iff_prefix.2 h) (List.find?_eq_none.1 hfind kind (mem_all kind))
  | some found =>
    have hfound : found.mark.isPrefixOf input = true :=
      List.find?_some (p := fun kind : EventKind => kind.mark.isPrefixOf input) hfind
    rw [eq_of_isPrefix_mark (List.isPrefixOf_iff_prefix.1 hfound) h]

end EventKind

/-! ## The fields of each kind -/

/-- How the fields of a kind are laid out. -/
structure EventLayout (kind : EventKind) where
  {Fields : Type}
  codec : Codec Fields
  /-- The event with these fields. -/
  build : Fields → Event
  strict : codec.Strict
  kind_build : ∀ fields, (build fields).kind = kind := by intro; rfl
  exists_build : ∀ event : Event, event.kind = kind → ∃ fields, build fields = event
  encodeFields_build : ∀ fields, (build fields).encodeFields = codec.encode fields := by intro; rfl
  decodeFields_eq : ∀ input, Event.decodeFields input kind =
    (codec.decode input).map fun (fields, rest) => (build fields, rest) := by intro; rfl

namespace Event

theorem strict_addressFields : addressFields.Strict :=
  Codec.strict_bytes32.pair <| Codec.strict_bytes32.pair <|
    Codec.strict_bytes32.pair Codec.strict_i64

theorem strict_adminFields : adminFields.Strict :=
  Codec.strict_bytes32.pair <| Codec.strict_bytes32.pair <| Codec.strict_u8.pair Codec.strict_i64

theorem strict_scheduleFields : scheduleFields.Strict :=
  Codec.strict_bytes32.pair <| Codec.strict_bytes32.pair <| Codec.strict_bytes32.pair <|
    Codec.strict_u64.pair <| Codec.strict_u8.pair <| Codec.strict_u16.pair <|
    Codec.strict_bytes32.pair Codec.strict_i64

theorem strict_statusFields : statusFields.Strict :=
  Codec.strict_bytes32.pair <| Codec.strict_bytes32.pair <| Codec.strict_bool.pair Codec.strict_i64

theorem strict_markerFields : markerFields.Strict :=
  Codec.strict_bytes32.pair <| Codec.strict_bytes32.pair <| Codec.strict_u16.pair <|
    Codec.strict_bytes32.pair <| Codec.strict_bytes32.pair Codec.strict_i64

theorem strict_redemptionFields : redemptionFields.Strict :=
  Codec.strict_bytes32.pair <| Codec.strict_u16.pair <| Codec.strict_bytes32.pair <|
    Codec.strict_bytes32.pair <| Codec.strict_u64.pair <| Codec.strict_u64.pair Codec.strict_i64

theorem strict_lamportFields : lamportFields.Strict :=
  Codec.strict_bytes32.pair <| Codec.strict_bytes32.pair <| Codec.strict_bytes32.pair <|
    Codec.strict_u64.pair Codec.strict_i64

theorem strict_tokenFields : tokenFields.Strict :=
  Codec.strict_bytes32.pair <| Codec.strict_bytes32.pair <| Codec.strict_bytes32.pair <|
    Codec.strict_bytes32.pair <| Codec.strict_u64.pair Codec.strict_i64

/-- The layout of every kind. -/
def layout : (kind : EventKind) → EventLayout kind
  | .vaultCreated =>
    { codec := addressFields
      build := fun (vault, owner, signer, time) => vaultCreated vault owner signer time
      strict := strict_addressFields
      exists_build := by rintro ⟨⟩ ⟨⟩; exact ⟨(_, _, _, _), rfl⟩ }
  | .vaultAdminsUpdated =>
    { codec := adminFields
      build := fun (vault, owner, count, time) => vaultAdminsUpdated vault owner count time
      strict := strict_adminFields
      exists_build := by rintro ⟨⟩ ⟨⟩; exact ⟨(_, _, _, _), rfl⟩ }
  | .ownershipTransferInitiated =>
    { codec := addressFields
      build := fun (vault, current, pending, time) =>
        ownershipTransferInitiated vault current pending time
      strict := strict_addressFields
      exists_build := by rintro ⟨⟩ ⟨⟩; exact ⟨(_, _, _, _), rfl⟩ }
  | .ownershipTransferCompleted =>
    { codec := addressFields
      build := fun (vault, old, new, time) => ownershipTransferCompleted vault old new time
      strict := strict_addressFields
      exists_build := by rintro ⟨⟩ ⟨⟩; exact ⟨(_, _, _, _), rfl⟩ }
  | .ownershipTransferCancelled =>
    { codec := addressFields
      build := fun (vault, owner, dropped, time) =>
        ownershipTransferCancelled vault owner dropped time
      strict := strict_addressFields
      exists_build := by rintro ⟨⟩ ⟨⟩; exact ⟨(_, _, _, _), rfl⟩ }
  | .scheduleCreated =>
    { codec := scheduleFields
      build := fun (vault, schedule, signer, eventId, type, count, root, time) =>
        scheduleCreated vault schedule signer eventId type count root time
      strict := strict_scheduleFields
      exists_build := by rintro ⟨⟩ ⟨⟩; exact ⟨(_, _, _, _, _, _, _, _), rfl⟩ }
  | .scheduleStatusChanged =>
    { codec := statusFields
      build := fun (schedule, admin, active, time) =>
        scheduleStatusChanged schedule admin active time
      strict := strict_statusFields
      exists_build := by rintro ⟨⟩ ⟨⟩; exact ⟨(_, _, _, _), rfl⟩ }
  | .redeemIndexInitialized =>
    { codec := markerFields
      build := fun (schedule, marker, index, mint, key, time) =>
        redeemIndexInitialized schedule marker index mint key time
      strict := strict_markerFields
      exists_build := by rintro ⟨⟩ ⟨⟩; exact ⟨(_, _, _, _, _, _), rfl⟩ }
  | .redeemed =>
    { codec := redemptionFields
      build := fun (schedule, index, recipient, mint, receiving, sending, time) =>
        redeemed schedule index recipient mint receiving sending time
      strict := strict_redemptionFields
      exists_build := by rintro ⟨⟩ ⟨⟩; exact ⟨(_, _, _, _, _, _, _), rfl⟩ }
  | .solWithdrawn =>
    { codec := lamportFields
      build := fun (vault, admin, recipient, amount, time) =>
        solWithdrawn vault admin recipient amount time
      strict := strict_lamportFields
      exists_build := by rintro ⟨⟩ ⟨⟩; exact ⟨(_, _, _, _, _), rfl⟩ }
  | .tokenWithdrawn =>
    { codec := tokenFields
      build := fun (vault, admin, source, recipient, amount, time) =>
        tokenWithdrawn vault admin source recipient amount time
      strict := strict_tokenFields
      exists_build := by rintro ⟨⟩ ⟨⟩; exact ⟨(_, _, _, _, _, _), rfl⟩ }

variable {event : Event} {kind : EventKind} {input rest start missing : Bytes}

theorem decodeFields_eq_ok_iff : decodeFields input kind = .ok (event, rest) ↔
    event.kind = kind ∧ input = event.encodeFields ++ rest := by
  rw [(layout kind).decodeFields_eq, map_eq_ok_iff]
  constructor
  · rintro ⟨⟨fields, unread⟩, hread, hbuilt⟩
    obtain ⟨rfl, rfl⟩ := Prod.mk.inj hbuilt
    refine ⟨(layout kind).kind_build fields, ?_⟩
    rw [(layout kind).encodeFields_build]
    exact ((layout kind).strict.exact.accepted hread).2
  · rintro ⟨hkind, rfl⟩
    obtain ⟨fields, rfl⟩ := (layout kind).exists_build event hkind
    rw [(layout kind).encodeFields_build]
    exact ⟨(fields, rest), (layout kind).strict.exact.readsBack trivial rest, rfl⟩

theorem decodeFields_cut (hkind : event.kind = kind) (hcut : event.encodeFields = start ++ missing)
    (hmissing : missing ≠ []) : decodeFields start kind = .error .unexpectedEnd := by
  obtain ⟨fields, rfl⟩ := (layout kind).exists_build event hkind
  rw [(layout kind).encodeFields_build] at hcut
  rw [(layout kind).decodeFields_eq, map_eq_error_iff]
  exact (layout kind).strict.noticesEnd hcut hmissing

/-! ## Events -/

/-- What stands behind the mark of a kind is read as the fields of that kind. -/
theorem decode_mark_append (kind : EventKind) (body : Bytes) :
    decode (kind.mark ++ body) = (decodeFields body kind).map some := by
  rw [decode, EventKind.find?_eq_some_of_isPrefix (List.prefix_append kind.mark body)]
  dsimp only
  rw [List.drop_left' kind.length_mark]

theorem decode_eq_ok_none_iff :
    decode input = .ok none ↔ ∀ kind : EventKind, ¬kind.mark <+: input := by
  constructor
  · rintro hdecode kind ⟨body, rfl⟩
    rw [decode_mark_append] at hdecode
    obtain ⟨_, -, hsome⟩ := map_eq_ok_iff.1 hdecode
    cases hsome
  · intro hunknown
    have hnone : (EventKind.all.find? fun kind => kind.mark.isPrefixOf input) = none := by
      refine List.find?_eq_none.2 fun kind _ hmark => ?_
      exact hunknown kind (List.isPrefixOf_iff_prefix.1 hmark)
    rw [decode, hnone]

/-- An event is read from its own bytes, with any rest, and from nothing else. -/
theorem decode_eq_ok_some_iff :
    decode input = .ok (some (event, rest)) ↔ input = event.encode ++ rest := by
  constructor
  · intro hdecode
    have hknown : ¬∀ kind : EventKind, ¬kind.mark <+: input := by
      intro hunknown
      rw [decode_eq_ok_none_iff.2 hunknown] at hdecode
      cases hdecode
    obtain ⟨kind, body, rfl⟩ := not_forall_not.1 hknown
    rw [decode_mark_append] at hdecode
    obtain ⟨_, hfields, hsome⟩ := map_eq_ok_iff.1 hdecode
    obtain rfl := Option.some.inj hsome
    obtain ⟨rfl, rfl⟩ := decodeFields_eq_ok_iff.1 hfields
    exact (List.append_assoc _ _ _).symm
  · rintro rfl
    rw [encode, List.append_assoc, decode_mark_append]
    exact map_eq_ok_iff.2 ⟨(event, rest), decodeFields_eq_ok_iff.2 ⟨rfl, rfl⟩, rfl⟩

/-- An event of which the end is missing is refused for that reason, as soon as its kind is
known. -/
theorem decode_cut (hcut : event.encodeFields = start ++ missing) (hmissing : missing ≠ []) :
    decode (event.kind.mark ++ start) = .error .unexpectedEnd := by
  rw [decode_mark_append, map_eq_error_iff]
  exact decodeFields_cut rfl hcut hmissing

/-- What starts with the mark of a kind, but not with an event of that kind, is refused. -/
theorem exists_refused (h : ∀ event : Event, event.kind = kind → ¬event.encodeFields <+: input) :
    ∃ refused, decode (kind.mark ++ input) = .error refused := by
  rw [decode_mark_append]
  cases hfields : decodeFields input kind with
  | error refused => exact ⟨refused, rfl⟩
  | ok read =>
    obtain ⟨hkind, hinput⟩ := decodeFields_eq_ok_iff.1 hfields
    exact absurd ⟨read.2, hinput.symm⟩ (h read.1 hkind)

/-- Events are recognised without ambiguity. No two kinds share their mark, and the bytes of an
event are the mark of its kind and then its declared fields in their order. In front of any rest
they are read as this event, and the rest is left; whatever is read as an event is its bytes and the
rest. Bytes are not recognised if and only if they start with the mark of no kind. An event of which
the end is missing is refused for that reason; and whatever starts with the mark of a kind, but not
with an event of that kind, is refused as well, so it is never another event. -/
theorem events_are_unambiguous :
    Function.Injective EventKind.mark ∧
    (∀ event : Event,
      event.encode = event.kind.mark ++ event.namedFields.flatMap fun field => field.2.encode) ∧
    (∀ (event : Event) (rest : Bytes), decode (event.encode ++ rest) = .ok (some (event, rest))) ∧
    (∀ (input : Bytes) (event : Event) (rest : Bytes),
      decode input = .ok (some (event, rest)) → input = event.encode ++ rest) ∧
    (∀ input : Bytes, decode input = .ok none ↔ ∀ kind : EventKind, ¬kind.mark <+: input) ∧
    (∀ (event : Event) (start missing : Bytes), event.encodeFields = start ++ missing →
      missing ≠ [] → decode (event.kind.mark ++ start) = .error .unexpectedEnd) ∧
    (∀ (kind : EventKind) (body : Bytes),
      (∀ event : Event, event.kind = kind → ¬event.encodeFields <+: body) →
        ∃ refused, decode (kind.mark ++ body) = .error refused) := by
  refine ⟨?_, ?_, ?_, ?_, ?_, ?_, ?_⟩
  · intro kind other hmark
    exact EventKind.eq_of_isPrefix_mark (List.prefix_refl _) (hmark ▸ List.prefix_refl _)
  · intro event
    rw [encode, encodeFields_eq_flatMap]
  · intro event rest
    exact decode_eq_ok_some_iff.2 rfl
  · intro input event rest hdecode
    exact decode_eq_ok_some_iff.1 hdecode
  · intro input
    exact decode_eq_ok_none_iff
  · intro event start missing hcut hmissing
    exact decode_cut hcut hmissing
  · intro kind body hbody
    exact exists_refused hbody

/-- A flag is zero or one. -/
example : decode (EventKind.scheduleStatusChanged.mark ++ List.replicate 64 0 ++ [2]) =
    .error (.invalidFlag 2) := by
  decide +kernel

end Event

end Disbursement
