import Disbursement.Proofs.Codec.Exact
import Disbursement.Nft.Metadata

/-!
# The layout of token metadata

Metadata are read where they were written and nowhere else. The core has one layout
(`Metadata.exact_core`), behind the mark of the account, so that the data decide the core
(`Metadata.load_eq_some_iff`). Behind the core everything may follow: the tail is what begins there
(`MetadataTail.Begins`), and where no tail begins, one that is damaged in its last field included,
the metadata name no collection (`Metadata.collection_loadTail_eq_some_iff`).
-/

namespace Disbursement

/-- The texts and the creators leave room for their lengths. -/
structure MetadataCore.Fits (core : MetadataCore) : Prop where
  name : (Bytes.ofText core.name).length < 2 ^ 32
  symbol : (Bytes.ofText core.symbol).length < 2 ^ 32
  uri : (Bytes.ofText core.uri).length < 2 ^ 32
  creators : ∀ creators, core.creators = some creators → creators.length < 2 ^ 32

/-- The token standard and the method of use are known ones. -/
structure MetadataTail.Fits (tail : MetadataTail) : Prop where
  tokenStandard : ∀ standard, tail.tokenStandard = some standard → standard < 6
  uses : ∀ uses, tail.uses = some uses → uses.method < 3

namespace Metadata

/-! ## Exact layouts -/

theorem exact_collection : collectionCodec.Exact fun _ => True :=
  ((Codec.exact_bool.pair Codec.exact_bytes32).imap (fun _ _ => rfl) fun _ => rfl).congr
    fun _ => by simp

theorem exact_creator : creatorCodec.Exact fun _ => True :=
  ((Codec.exact_bytes32.pair <| Codec.exact_bool.pair Codec.exact_u8).imap (fun _ _ => rfl)
    fun _ => rfl).congr fun _ => by simp

theorem exact_core : coreCodec.Exact MetadataCore.Fits := by
  have hfields := Codec.exact_bytes32.pair <| Codec.exact_bytes32.pair <| Codec.exact_text.pair <|
    Codec.exact_text.pair <| Codec.exact_text.pair <| Codec.exact_u16.pair <|
    (Codec.exact_option (Codec.exact_list exact_creator)).pair <| Codec.exact_bool.pair <|
    Codec.exact_bool.pair <| Codec.exact_option Codec.exact_u8
  refine (hfields.imap (fun _ _ => rfl) fun _ => rfl).congr fun core => ?_
  constructor
  · rintro ⟨-, -, hname, hsymbol, huri, -, hcreators, -⟩
    exact ⟨hname, hsymbol, huri, fun creators h => (hcreators creators h).1⟩
  · intro h
    exact ⟨trivial, trivial, h.name, h.symbol, h.uri, trivial,
      fun creators hsome => ⟨h.creators creators hsome, fun _ _ => trivial⟩, trivial, trivial,
      fun _ _ => trivial⟩

/-- The tags below a bound are those of an enumeration that lists them in order. -/
theorem mem_ofNat_range_iff {tag : UInt8} (count : Nat) (hcount : count < 256) :
    tag ∈ (List.range count).map UInt8.ofNat ↔ tag < UInt8.ofNat count := by
  rw [UInt8.lt_iff_toNat_lt, UInt8.toNat_ofNat_of_lt' hcount, List.mem_map]
  constructor
  · rintro ⟨place, hplace, rfl⟩
    have hlt : place < count := List.mem_range.1 hplace
    rw [UInt8.toNat_ofNat_of_lt' (Nat.lt_trans hlt hcount)]
    exact hlt
  · intro hlt
    exact ⟨tag.toNat, List.mem_range.2 hlt, UInt8.ofNat_toNat⟩

theorem exact_uses : usesCodec.Exact fun uses => uses.method < 3 := by
  have hmethod : (Codec.enumeration [(0 : UInt8), 1, 2]).Exact (· < 3) :=
    (Codec.exact_enumeration (by decide) (by decide)).congr fun _ =>
      mem_ofNat_range_iff 3 (by decide)
  exact ((hmethod.pair <| Codec.exact_u64.pair Codec.exact_u64).imap (fun _ _ => rfl)
    fun _ => rfl).congr fun _ => by simp

theorem exact_tail : tailCodec.Exact MetadataTail.Fits := by
  have hstandard : (Codec.enumeration [(0 : UInt8), 1, 2, 3, 4, 5]).Exact (· < 6) :=
    (Codec.exact_enumeration (by decide) (by decide)).congr fun _ =>
      mem_ofNat_range_iff 6 (by decide)
  have hfields := (Codec.exact_option hstandard).pair <|
    (Codec.exact_option exact_collection).pair <| Codec.exact_option exact_uses
  refine (hfields.imap (fun _ _ => rfl) fun _ => rfl).congr fun tail => ?_
  constructor
  · rintro ⟨hstandard, -, huses⟩
    exact ⟨hstandard, huses⟩
  · intro h
    exact ⟨h.tokenStandard, fun _ _ => trivial, h.uses⟩

end Metadata

/-! ## What an account holds -/

/-- The bytes start with the whole tail. -/
def MetadataTail.Begins (tail : MetadataTail) (bytes : Bytes) : Prop :=
  tail.Fits ∧ Metadata.tailCodec.encode tail <+: bytes

namespace Metadata

variable {data bytes : Bytes} {m : Metadata} {tail : MetadataTail} {collection : Collection}

theorem decode_tail_eq_ok_iff {rest : Bytes} :
    tailCodec.decode bytes = .ok (tail, rest) ↔
      tail.Fits ∧ bytes = tailCodec.encode tail ++ rest := by
  constructor
  · exact exact_tail.accepted
  · rintro ⟨hfits, rfl⟩
    exact exact_tail.readsBack hfits rest

theorem loadTail_of_begins (h : tail.Begins bytes) : loadTail bytes = tail := by
  obtain ⟨hfits, rest, rfl⟩ := h
  rw [loadTail, decode_tail_eq_ok_iff.2 ⟨hfits, rfl⟩]

/-- At most one tail begins in a place. -/
theorem eq_of_begins {other : MetadataTail} (h : tail.Begins bytes) (h' : other.Begins bytes) :
    tail = other :=
  (loadTail_of_begins h).symm.trans (loadTail_of_begins h')

/-- Only a tail that is there as a whole names a collection. -/
theorem collection_loadTail_eq_some_iff :
    (loadTail bytes).collection = some collection ↔
      ∃ tail : MetadataTail, tail.Begins bytes ∧ tail.collection = some collection := by
  constructor
  · intro h
    unfold loadTail at h
    split at h
    next tail rest hdecode =>
      obtain ⟨hfits, hbytes⟩ := decode_tail_eq_ok_iff.1 hdecode
      exact ⟨tail, ⟨hfits, rest, hbytes.symm⟩, h⟩
    next => cases h
  · rintro ⟨tail, hbegins, hcollection⟩
    rw [loadTail_of_begins hbegins, hcollection]

/-- Data are loaded as metadata if they are the mark and a core, and whatever follows decides the
tail. -/
theorem load_eq_some_iff :
    load data = some m ↔ ∃ rest, m.core.Fits ∧ data = mark :: (coreCodec.encode m.core ++ rest) ∧
      m.tail = loadTail rest := by
  constructor
  · intro h
    unfold load at h
    split at h
    next => cases h
    next first bytes =>
      split at h
      next hmark =>
        split at h
        next core rest hcore =>
          obtain rfl := Option.some.inj h
          obtain ⟨hfits, rfl⟩ := exact_core.accepted hcore
          exact ⟨rest, hfits, by rw [hmark], rfl⟩
        next => cases h
      next => cases h
  · rintro ⟨rest, hfits, rfl, htail⟩
    obtain ⟨core, tail⟩ := m
    obtain rfl : tail = loadTail rest := htail
    simp only [load, if_true, exact_core.readsBack hfits rest]

end Metadata

end Disbursement
