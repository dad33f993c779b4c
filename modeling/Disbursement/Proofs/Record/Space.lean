import Disbursement.Proofs.Chain.Accounts
import Disbursement.Proofs.Claim.Run
import Disbursement.Proofs.Codec.Length
import Disbursement.Proofs.Schedule
import Disbursement.Proofs.Vault.History

/-!
# Space

The account of a record is made once, with a length that is worked out beforehand, and every later
version of the record is written over the earlier one. So no version may need more, and what an
earlier version left behind must not be read.

* `Record.LivesIn` says that about one value: it fits, it can be written over anything of that
  length, and it is what is then read, in front of whatever stood there before.
* `Schedule.length_encode` and `Marker.length_encode` are exact lengths; a vault has no more than
  `Vault.length_encode_le` says.
* `records_keep_to_their_space` says it of everything that becomes of a record.
-/

namespace Disbursement

/-! ## Writing over old bytes -/

namespace Record

variable {α : Type} [Record α] {value : α} {space : ℕ}

/-- The value can be kept in accounts of this length, whatever they held before. -/
structure LivesIn (value : α) (space : ℕ) : Prop where
  length_le : (encode value).length ≤ space
  /-- It is read back, and behind it stands what stood there before. -/
  overwrites : ∀ old : Bytes, old.length = space → ∃ stored, store old value = .ok stored ∧
    stored.length = space ∧ load stored = .ok value ∧
    stored.drop (encode value).length = old.drop (encode value).length

theorem livesIn (hread : (fields : Codec α).ReadsBack value)
    (hlength : (encode value).length ≤ space) : LivesIn value space where
  length_le := hlength
  overwrites old hold := by
    have hfits : (encode value).length ≤ old.length := by omega
    have hstore : store old value = .ok (old.writeOver (encode value)) :=
      store_eq_ok_iff.2 ⟨hfits, rfl⟩
    refine ⟨_, hstore, ?_, load_of_store hread hstore, ?_⟩
    · rw [Bytes.length_writeOver, hold]
    · rw [Bytes.writeOver_of_length_le hfits, List.drop_left]

end Record

/-- A record that lives in the length of an account can be stored there. -/
theorem Chain.exists_storeRecord {α : Type} [Record α] {value : α} {space : ℕ} {c : Chain}
    {address : Address} (h : Record.LivesIn value space)
    (hspace : (c.account address).data.length = space) :
    ∃ d, c.storeRecord address value = .ok d ∧
      Record.load (d.account address).data = .ok value := by
  obtain ⟨stored, hstore, -, hload, -⟩ := h.overwrites _ hspace
  refine ⟨_, storeRecord_eq_ok_iff.2 ⟨stored, hstore, rfl⟩, ?_⟩
  rw [data_putData, if_pos rfl]
  exact hload

/-! ## Lengths of records -/

@[simp] theorem RedemptionBitmap.length_encode (b : RedemptionBitmap) :
    (codec.encode b).length = 4 + b.size := by
  show ((Codec.list .u8).encode b.bytes).length = 4 + b.bytes.length
  rw [Codec.length_encode_list Codec.length_encode_u8, Nat.one_mul]

namespace Schedule

/-- Only the bits of a schedule take up more or less. -/
theorem length_encode_eq_space_add (s : Schedule) :
    (Record.encode s).length = space 0 + s.redemptions.size := by
  rw [Record.length_encode, space]
  show 8 + (codec.encode s).length = _
  simp only [codec, ScheduleKind.codec, MarkerScope.codec, Codec.length_encode_imap,
    Codec.length_encode_pair, Codec.length_encode_u8, Codec.length_encode_u16,
    Codec.length_encode_u64, Codec.length_encode_i64, Codec.length_encode_bytes32,
    Codec.length_encode_bool, Codec.length_encode_enumeration, RedemptionBitmap.length_encode]
  have hnone : RedemptionBitmap.byteLength 0 = 0 := by decide
  omega

/-- A schedule fills the account that was made for the leaves it keeps bits of. -/
theorem length_encode {s : Schedule} {tracked : UInt16}
    (h : s.redemptions.size = RedemptionBitmap.byteLength tracked) :
    (Record.encode s).length = space tracked := by
  rw [length_encode_eq_space_add, h]
  rfl

theorem livesIn {s : Schedule} {tracked : UInt16}
    (h : s.redemptions.size = RedemptionBitmap.byteLength tracked) :
    Record.LivesIn s (space tracked) := by
  have hshort : s.redemptions.size < 2 ^ 32 := by
    have hbound := tracked.toNat_lt
    rw [h, RedemptionBitmap.byteLength]
    omega
  exact Record.livesIn (readsBack hshort) (Nat.le_of_eq (length_encode h))

end Schedule

namespace Marker

/-- Every marker fills its account. -/
theorem length_encode (m : Marker) : (Record.encode m).length = space := by
  rw [Record.length_encode]
  show 8 + (codec.encode m).length = _
  simp only [codec, Codec.length_encode_imap, Codec.length_encode_pair, Codec.length_encode_u8,
    Codec.length_encode_u16, Codec.length_encode_bytes32, Codec.length_encode_bool, space]

theorem livesIn (m : Marker) : Record.LivesIn m space :=
  Record.livesIn m.readsBack (Nat.le_of_eq m.length_encode)

end Marker

theorem Vault.livesIn {v : Vault} (h : v.admins.length ≤ maxAdmins) : Record.LivesIn v space := by
  have hshort : v.admins.length < 2 ^ 32 := Nat.lt_of_le_of_lt h (by decide)
  exact Record.livesIn (readsBack hshort) (length_encode_le h)

/-! ## What becomes of a record -/

/-- No claim and no change of activity adds a byte of bits or takes one away. -/
theorem Schedule.size_afterMoves {value : UInt8} {vault : Address} {bump : UInt8} {now : Int64}
    {kind : ScheduleKind} {terms : ScheduleTerms} {s : Schedule}
    (hvalue : ScheduleKind.ofByte value = .ok kind)
    (h : create vault bump now kind terms = .ok s) (moves : List ScheduleMove) :
    (s.afterMoves moves).redemptions.size =
      RedemptionBitmap.byteLength (trackedLeaves value terms.userCount) := by
  rw [(continues_afterMoves s moves).redemptions.size_eq, redemptions_of_create hvalue h]
  exact RedemptionBitmap.size_empty _

/-- Accounts are never outgrown, and old bytes in them are never read. A schedule that is made for a
kind and at least one leaf has exactly the length that was reserved for them, after any claims and
changes of activity; every marker has the length of its account; and a vault, whatever was tried
with it, has at most the length of its account. Each of them can be written over an account of that
length with anything in it, and is what is then read, though a vault that became shorter leaves
bytes of the earlier one behind it. -/
theorem records_keep_to_their_space :
    (∀ value kind vault bump now terms, ScheduleKind.ofByte value = .ok kind →
      0 < terms.userCount → ∃ s, Schedule.create vault bump now kind terms = .ok s ∧
        ∀ moves, (Record.encode (s.afterMoves moves)).length =
            Schedule.space (Schedule.trackedLeaves value terms.userCount) ∧
          Record.LivesIn (s.afterMoves moves)
            (Schedule.space (Schedule.trackedLeaves value terms.userCount))) ∧
    (∀ m : Marker, (Record.encode m).length = Marker.space ∧ Record.LivesIn m Marker.space ∧
      ∀ (c : Chain) address, (c.account address).data.length = Marker.space →
        ∃ d, c.storeRecord address m = .ok d ∧
          (d.account address).loadMarker (c.account address).owner = .ok (some m)) ∧
    ∀ owner bump signerNonce moves,
      Record.LivesIn ((Vault.create owner bump signerNonce).afterMoves moves) Vault.space := by
  refine ⟨?_, ?_, ?_⟩
  · intro value kind vault bump now terms hvalue hpositive
    obtain ⟨s, hcreate⟩ : ∃ s, Schedule.create vault bump now kind terms = .ok s :=
      ⟨_, Schedule.create_eq_ok_iff.2 ⟨hpositive, rfl⟩⟩
    refine ⟨s, hcreate, ?_⟩
    intro moves
    have hsize := Schedule.size_afterMoves hvalue hcreate moves
    exact ⟨Schedule.length_encode hsize, Schedule.livesIn hsize⟩
  · intro m
    refine ⟨m.length_encode, m.livesIn, ?_⟩
    intro c address hspace
    obtain ⟨d, hstored, hload⟩ := Chain.exists_storeRecord m.livesIn hspace
    refine ⟨d, hstored, ?_⟩
    have hlong : (d.account address).data ≠ [] := by
      intro hempty
      rw [hempty] at hload
      cases hload
    rw [Account.loadMarker, Chain.owner_storeRecord hstored, if_neg (by simp [hlong]), hload]
    rfl
  · intro owner bump signerNonce moves
    have hfollows := Vault.follows_create [] owner bump signerNonce
    exact Vault.livesIn (hfollows.afterMoves moves).few

/-! ## A vault that became shorter -/

/-- A distribution to seventeen tokens. -/
def seventeenTokens : ScheduleTerms where
  eventId := 7
  userCount := 17
  unlock := 0
  root := Bytes32.zero
  scope := .perMint
  receivingMint := Bytes32.ofNatBE 1
  receivingAccount := Bytes32.ofNatBE 2
  sendingMint := Bytes32.ofNatBE 3
  sendingAccount := Bytes32.ofNatBE 4

/-- A marker account in use. -/
def markedChain : Chain :=
  Chain.empty.put Bytes32.zero
    { owner := Address.program, lamports := 1, data := List.replicate Marker.space 255,
      isExecutable := false }

/-- The moves that leave a vault with two admins and a candidate. -/
def growing : List VaultMove :=
  [.setAdmins [Bytes32.ofNatBE 2, Bytes32.ofNatBE 3], .propose (Bytes32.ofNatBE 4)]

/-- A vault after some moves. -/
def vaultAfter (moves : List VaultMove) : Vault :=
  (Vault.create (Bytes32.ofNatBE 1) 255 254).afterMoves moves

/-- The account of the vault that has grown. -/
def grownAccount : Bytes :=
  Bytes.writeOver (List.replicate Vault.space 0) (Record.encode (vaultAfter growing))

theorem shorter_vault_over_a_longer_one :
    (∃ s, Schedule.create Bytes32.zero 255 100 .nft seventeenTokens = .ok s ∧
      ∀ moves, (Record.encode (s.afterMoves moves)).length = 237) ∧
    (∃ d, markedChain.storeRecord Bytes32.zero
        (Marker.create 1 Bytes32.zero 2 Bytes32.zero) = .ok d ∧
      (d.account Bytes32.zero).loadMarker Address.program =
        .ok (some (Marker.create 1 Bytes32.zero 2 Bytes32.zero))) ∧
    (∃ byte ∈ grownAccount.drop 47, byte ≠ 0) ∧
    ∃ stored,
      Record.store grownAccount (vaultAfter (growing ++ [.cancel, .setAdmins []])) = .ok stored ∧
      Record.load stored = .ok (vaultAfter (growing ++ [.cancel, .setAdmins []])) ∧
      stored.drop 47 = grownAccount.drop 47 := by
  obtain ⟨hschedules, hmarkers, hvaults⟩ := records_keep_to_their_space
  refine ⟨?_, ?_, by decide +kernel, ?_⟩
  · obtain ⟨s, hcreate, hmoves⟩ :=
      hschedules 2 .nft Bytes32.zero 255 100 seventeenTokens rfl (by decide)
    exact ⟨s, hcreate, fun moves => (hmoves moves).1⟩
  · obtain ⟨-, -, hstores⟩ := hmarkers (Marker.create 1 Bytes32.zero 2 Bytes32.zero)
    obtain ⟨d, hstored, hload⟩ := hstores markedChain Bytes32.zero rfl
    exact ⟨d, hstored, hload⟩
  · have hlives := hvaults (Bytes32.ofNatBE 1) 255 254 (growing ++ [.cancel, .setAdmins []])
    obtain ⟨stored, hstored, -, hload, hbehind⟩ := hlives.overwrites grownAccount (by
      rw [grownAccount, Bytes.length_writeOver, List.length_replicate])
    have hlength :
        (Record.encode (vaultAfter (growing ++ [.cancel, .setAdmins []]))).length = 47 := by
      decide +kernel
    refine ⟨stored, hstored, hload, ?_⟩
    rw [← hlength]
    exact hbehind

end Disbursement
