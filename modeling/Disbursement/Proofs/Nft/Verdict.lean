import Disbursement.Proofs.Chain.Accounts
import Disbursement.Proofs.Check
import Disbursement.Proofs.Nft.Gate
import Disbursement.Proofs.Nft.Metadata
import Disbursement.Proofs.Token.Account

/-!
# The verdict of the gate

What the two accounts of a token holder show is said of their bytes. The one belongs to the token
program and is a token account in use (`Account.KeepsToken`); the other belongs to the metadata
program and has a core behind its mark (`Account.KeepsMetadata`), behind which a tail may begin.
Layouts are exact, so the accounts alone decide what they show, and there is one holder, one token
and one collection at most for which they pass (`Nft.gate_is_exact`).

The gate refuses for the first of its conditions that fails (`Nft.conditions`).
-/

namespace Disbursement

/-! ## What the accounts show -/

namespace Account

/-- The account belongs to the token program, and its data are the layout of a token account in
use. -/
structure KeepsToken (a : Account) (held : TokenAccount) : Prop where
  program : a.owner = Address.tokenProgram
  data : a.data = held.pack
  state : held.state = .initialized ∨ held.state = .frozen

/-- The account belongs to the metadata program, and its data are the mark, the core and the
rest. -/
structure KeepsMetadata (a : Account) (core : MetadataCore) (rest : Bytes) : Prop where
  program : a.owner = Address.metadataProgram
  fits : core.Fits
  data : a.data = Metadata.mark :: (Metadata.coreCodec.encode core ++ rest)

variable {a : Account} {held : TokenAccount} {core : MetadataCore} {rest : Bytes}

theorem KeepsToken.unique (h : a.KeepsToken held) {other : TokenAccount} (h' : a.KeepsToken other) :
    held = other := by
  have hpacked : TokenAccount.codec.encode held ++ [] = TokenAccount.codec.encode other ++ [] := by
    rw [List.append_nil, List.append_nil]
    exact h.data.symm.trans h'.data
  exact ((TokenAccount.exact.readsBack trivial).append_inj
    (TokenAccount.exact.readsBack trivial) hpacked).1

theorem KeepsMetadata.unique (h : a.KeepsMetadata core rest) {other : MetadataCore} {left : Bytes}
    (h' : a.KeepsMetadata other left) : core = other ∧ rest = left := by
  have hwritten := List.tail_eq_of_cons_eq (h.data.symm.trans h'.data)
  exact (Metadata.exact_core.readsBack h.fits).append_inj (Metadata.exact_core.readsBack h'.fits)
    hwritten

theorem loadToken_eq_ok_iff_keepsToken : a.loadToken = .ok held ↔ a.KeepsToken held := by
  have hstate : held.state ≠ .uninitialized ↔ held.state = .initialized ∨ held.state = .frozen := by
    cases held.state <;> decide
  rw [loadToken_eq_ok_iff, TokenAccount.unpack_eq_ok_iff, hstate]
  constructor
  · rintro ⟨hprogram, hdata, hstate⟩
    exact ⟨hprogram, hdata, hstate⟩
  · rintro ⟨hprogram, hdata, hstate⟩
    exact ⟨hprogram, hdata, hstate⟩

/-- Metadata are loaded from an account of the metadata program if it keeps their core. -/
theorem load_data_eq_some_iff (h : a.owner = Address.metadataProgram) {m : Metadata} :
    Metadata.load a.data = some m ↔
      ∃ rest, a.KeepsMetadata m.core rest ∧ m.tail = Metadata.loadTail rest := by
  rw [Metadata.load_eq_some_iff]
  constructor
  · rintro ⟨rest, hfits, hdata, htail⟩
    exact ⟨rest, ⟨h, hfits, hdata⟩, htail⟩
  · rintro ⟨rest, ⟨-, hfits, hdata⟩, htail⟩
    exact ⟨rest, hfits, hdata, htail⟩

end Account

namespace Nft

/-- The accounts show that the holder has one unit of the token and that the token is of the
collection, as the collection confirms. -/
structure Shows (token metadata : Account) (holder nftMint expected : Address) : Prop where
  /-- One unit of the token, held by the holder. -/
  holding : ∃ held, token.KeepsToken held ∧ held.owner = holder ∧ held.mint = nftMint ∧
    held.amount = 1
  /-- Metadata of the token, with a whole tail that names the collection. -/
  naming : ∃ core rest tail, metadata.KeepsMetadata core rest ∧ core.mint = nftMint ∧
    MetadataTail.Begins tail rest ∧ tail.collection = some { verified := true, key := expected }

variable {token metadata : Account} {holder nftMint expected : Address}

/-- What two accounts show, they show of one holder, one token and one collection. -/
theorem Shows.unique (h : Shows token metadata holder nftMint expected)
    {holder' nftMint' expected' : Address} (h' : Shows token metadata holder' nftMint' expected') :
    holder = holder' ∧ nftMint = nftMint' ∧ expected = expected' := by
  obtain ⟨held, hkeeps, rfl, rfl, -⟩ := h.holding
  obtain ⟨held', hkeeps', rfl, rfl, -⟩ := h'.holding
  obtain rfl := hkeeps.unique hkeeps'
  obtain ⟨core, rest, tail, hmetadata, -, hbegins, hcollection⟩ := h.naming
  obtain ⟨core', rest', tail', hmetadata', -, hbegins', hcollection'⟩ := h'.naming
  obtain ⟨-, rfl⟩ := hmetadata.unique hmetadata'
  obtain rfl := Metadata.eq_of_begins hbegins hbegins'
  have hnamed := Option.some.inj (hcollection.symm.trans hcollection')
  exact ⟨rfl, rfl, congrArg Collection.key hnamed⟩

/-! ## The conditions in their order -/

/-- The tail behind the core names a collection with this property. -/
def NamesCollection (metadata : Account) (property : Collection → Prop) : Prop :=
  ∃ core rest tail collection, metadata.KeepsMetadata core rest ∧ MetadataTail.Begins tail rest ∧
    tail.collection = some collection ∧ property collection

/-- The conditions of the gate, in the order in which they decide. -/
def conditions (token metadata : Account) (holder nftMint expected : Address) :
    List (Condition Refusal) :=
  [⟨token.owner = Address.tokenProgram, .invalidTokenAccount⟩,
    ⟨∃ held, token.KeepsToken held, .invalidTokenAccount⟩,
    ⟨∃ held, token.KeepsToken held ∧ held.owner = holder, .unauthorized⟩,
    ⟨∃ held, token.KeepsToken held ∧ held.mint = nftMint, .invalidMintAccount⟩,
    ⟨∃ held, token.KeepsToken held ∧ held.amount = 1, .invalidTokenAmount⟩,
    ⟨metadata.owner = Address.metadataProgram, .invalidMetadata⟩,
    ⟨∃ core rest, metadata.KeepsMetadata core rest, .invalidMetadata⟩,
    ⟨∃ core rest, metadata.KeepsMetadata core rest ∧ core.mint = nftMint, .invalidMetadata⟩,
    ⟨NamesCollection metadata fun _ => True, .invalidCollection⟩,
    ⟨NamesCollection metadata fun collection => collection.key = expected, .invalidCollection⟩,
    ⟨NamesCollection metadata fun collection => collection.verified = true, .unverifiedCollection⟩]

/-! ## The steps of the gate -/

theorem shows_iff_conditions : Shows token metadata holder nftMint expected ↔
    ∀ c ∈ conditions token metadata holder nftMint expected, c.holds := by
  simp only [conditions, List.forall_mem_cons, List.not_mem_nil, false_imp_iff, implies_true,
    and_true]
  constructor
  · rintro ⟨⟨held, hkeeps, howner, hmint, hamount⟩, core, rest, tail, hmetadata, hof, hbegins,
      hnamed⟩
    exact ⟨hkeeps.program, ⟨held, hkeeps⟩, ⟨held, hkeeps, howner⟩, ⟨held, hkeeps, hmint⟩,
      ⟨held, hkeeps, hamount⟩, hmetadata.program, ⟨core, rest, hmetadata⟩,
      ⟨core, rest, hmetadata, hof⟩, ⟨core, rest, tail, _, hmetadata, hbegins, hnamed, trivial⟩,
      ⟨core, rest, tail, _, hmetadata, hbegins, hnamed, rfl⟩,
      ⟨core, rest, tail, _, hmetadata, hbegins, hnamed, rfl⟩⟩
  · rintro ⟨-, ⟨held, hkeeps⟩, ⟨held₁, hkeeps₁, howner⟩, ⟨held₂, hkeeps₂, hmint⟩,
      ⟨held₃, hkeeps₃, hamount⟩, -, ⟨core, rest, hmetadata⟩, ⟨core₁, rest₁, hmetadata₁, hof⟩, -,
      ⟨core₂, rest₂, tail, collection, hmetadata₂, hbegins, hnamed, hkey⟩,
      ⟨core₃, rest₃, tail', collection', hmetadata₃, hbegins', hnamed', hverified⟩⟩
    obtain rfl := hkeeps.unique hkeeps₁
    obtain rfl := hkeeps.unique hkeeps₂
    obtain rfl := hkeeps.unique hkeeps₃
    obtain ⟨rfl, rfl⟩ := hmetadata.unique hmetadata₁
    obtain ⟨rfl, rfl⟩ := hmetadata.unique hmetadata₂
    obtain ⟨rfl, rfl⟩ := hmetadata.unique hmetadata₃
    obtain rfl := Metadata.eq_of_begins hbegins hbegins'
    obtain rfl := Option.some.inj (hnamed.symm.trans hnamed')
    refine ⟨⟨held, hkeeps, howner, hmint, hamount⟩, core, rest, tail, hmetadata, hof, hbegins, ?_⟩
    rw [hnamed, ← hkey, ← hverified]

theorem decides_loadToken (token : Account) :
    Decides token.loadToken
      [⟨token.owner = Address.tokenProgram, .invalidTokenAccount⟩,
        ⟨∃ held, token.KeepsToken held, .invalidTokenAccount⟩] := by
  refine (decides_ensure Iff.rfl _).bind fun _ hprogram => decides_mapError ?_ _
  rw [ensure_eq_ok_iff] at hprogram
  constructor
  · rintro ⟨held, hunpack⟩
    exact ⟨held, Account.loadToken_eq_ok_iff_keepsToken.1
      (Account.loadToken_eq_ok_iff.2 ⟨hprogram, hunpack⟩)⟩
  · rintro ⟨held, hkeeps⟩
    exact ⟨held, (Account.loadToken_eq_ok_iff.1
      (Account.loadToken_eq_ok_iff_keepsToken.2 hkeeps)).2⟩

theorem decides_verifyHolding {held : TokenAccount} (h : token.KeepsToken held) :
    Decides (verifyHolding holder nftMint held.owner held.mint held.amount)
      [⟨∃ held, token.KeepsToken held ∧ held.owner = holder, .unauthorized⟩,
        ⟨∃ held, token.KeepsToken held ∧ held.mint = nftMint, .invalidMintAccount⟩,
        ⟨∃ held, token.KeepsToken held ∧ held.amount = 1, .invalidTokenAmount⟩] := by
  -- the account keeps one token account, so that asking for one is asking of this one
  have hof (property : TokenAccount → Prop) :
      property held ↔ ∃ other, token.KeepsToken other ∧ property other := by
    constructor
    · exact fun hheld => ⟨held, h, hheld⟩
    · rintro ⟨other, hkeeps, hother⟩
      rwa [h.unique hkeeps]
  exact (decides_ensure (hof fun held => held.owner = holder) _).bind fun _ _ =>
    (decides_ensure (hof fun held => held.mint = nftMint) _).bind fun _ _ =>
      decides_ensure (hof fun held => held.amount = 1) _

theorem namesCollection_iff {core : MetadataCore} {rest : Bytes}
    (h : metadata.KeepsMetadata core rest) {property : Collection → Prop} :
    NamesCollection metadata property ↔
      ∃ collection, (Metadata.loadTail rest).collection = some collection ∧
        property collection := by
  constructor
  · rintro ⟨other, left, tail, collection, hkeeps, hbegins, hnamed, hproperty⟩
    obtain ⟨-, rfl⟩ := h.unique hkeeps
    exact ⟨collection, Metadata.collection_loadTail_eq_some_iff.2 ⟨tail, hbegins, hnamed⟩,
      hproperty⟩
  · rintro ⟨collection, hnamed, hproperty⟩
    obtain ⟨tail, hbegins, hnamed⟩ := Metadata.collection_loadTail_eq_some_iff.1 hnamed
    exact ⟨core, rest, tail, collection, h, hbegins, hnamed, hproperty⟩

theorem decides_verifyCollection {core : MetadataCore} {rest : Bytes}
    (h : metadata.KeepsMetadata core rest) :
    Decides (verifyCollection (Metadata.loadTail rest).collection expected)
      [⟨NamesCollection metadata fun _ => True, .invalidCollection⟩,
        ⟨NamesCollection metadata fun collection => collection.key = expected, .invalidCollection⟩,
        ⟨NamesCollection metadata fun collection => collection.verified = true,
          .unverifiedCollection⟩] := by
  have hsome : (∃ collection, (Metadata.loadTail rest).collection = some collection) ↔
      NamesCollection metadata fun _ => True := by
    simp [namesCollection_iff h]
  refine (decides_demand hsome _).bind fun collection hdemand => ?_
  have hnamed : (Metadata.loadTail rest).collection = some collection := demand_eq_ok_iff.1 hdemand
  have hof (property : Collection → Prop) :
      property collection ↔ NamesCollection metadata property := by
    simp [namesCollection_iff h, hnamed]
  exact (decides_ensure (hof fun collection => collection.key = expected) _).bind fun _ _ =>
    decides_ensure (hof fun collection => collection.verified = true) _

theorem decides_metadata (h : metadata.owner = Address.metadataProgram) :
    Decides (do
        let m ← demand (Metadata.load metadata.data) .invalidMetadata
        ensure (m.core.mint = nftMint) .invalidMetadata
        verifyCollection m.tail.collection expected)
      [⟨∃ core rest, metadata.KeepsMetadata core rest, .invalidMetadata⟩,
        ⟨∃ core rest, metadata.KeepsMetadata core rest ∧ core.mint = nftMint, .invalidMetadata⟩,
        ⟨NamesCollection metadata fun _ => True, .invalidCollection⟩,
        ⟨NamesCollection metadata fun collection => collection.key = expected, .invalidCollection⟩,
        ⟨NamesCollection metadata fun collection => collection.verified = true,
          .unverifiedCollection⟩] := by
  have hloads : (∃ m, Metadata.load metadata.data = some m) ↔
      ∃ core rest, metadata.KeepsMetadata core rest := by
    constructor
    · rintro ⟨m, hload⟩
      obtain ⟨rest, hkeeps, -⟩ := (Account.load_data_eq_some_iff h).1 hload
      exact ⟨m.core, rest, hkeeps⟩
    · rintro ⟨core, rest, hkeeps⟩
      exact ⟨⟨core, Metadata.loadTail rest⟩,
        (Account.load_data_eq_some_iff h).2 ⟨rest, hkeeps, rfl⟩⟩
  refine (decides_demand hloads _).bind fun m hdemand => ?_
  obtain ⟨rest, hkeeps, htail⟩ := (Account.load_data_eq_some_iff h).1 (demand_eq_ok_iff.1 hdemand)
  have hmint : m.core.mint = nftMint ↔
      ∃ core rest, metadata.KeepsMetadata core rest ∧ core.mint = nftMint := by
    constructor
    · exact fun hmint => ⟨m.core, rest, hkeeps, hmint⟩
    · rintro ⟨core, left, hother, hmint⟩
      rwa [(hkeeps.unique hother).1]
  rw [htail]
  exact (decides_ensure hmint _).bind fun _ _ => decides_verifyCollection hkeeps

theorem decides_verifyClaim (holder nftMint expected : Address) (token metadata : Account) :
    Decides (verifyClaim holder nftMint expected token metadata)
      (conditions token metadata holder nftMint expected) :=
  (decides_loadToken token).bind fun _ hload =>
    (decides_verifyHolding (Account.loadToken_eq_ok_iff_keepsToken.1 hload)).bind fun _ _ =>
      (decides_ensure Iff.rfl _).bind fun _ hprogram =>
        decides_metadata (ensure_eq_ok_iff.1 hprogram)

/-! ## The result -/

/-- The gate is exact. Two accounts pass it for a holder, a token and a collection if and only if
they show these, whatever bytes they have, and otherwise it refuses for the first of its conditions
that fails. So they pass for one holder, one token and one collection at most; and a metadata
account behind whose core no whole tail begins never passes. -/
theorem gate_is_exact (token metadata : Account) :
    (∀ holder nftMint expected, verifyClaim holder nftMint expected token metadata = .ok () ↔
      Shows token metadata holder nftMint expected) ∧
    (∀ holder nftMint expected refusal,
      verifyClaim holder nftMint expected token metadata = .error refusal ↔
        FirstFailing refusal (conditions token metadata holder nftMint expected)) ∧
    (∀ holder nftMint expected holder' nftMint' expected',
      verifyClaim holder nftMint expected token metadata = .ok () →
        verifyClaim holder' nftMint' expected' token metadata = .ok () →
          holder = holder' ∧ nftMint = nftMint' ∧ expected = expected') ∧
    ∀ core rest, metadata.KeepsMetadata core rest → (∀ tail, ¬MetadataTail.Begins tail rest) →
      ∀ holder nftMint expected, verifyClaim holder nftMint expected token metadata ≠ .ok () := by
  have hexact (holder nftMint expected : Address) :
      verifyClaim holder nftMint expected token metadata = .ok () ↔
        Shows token metadata holder nftMint expected := by
    rw [shows_iff_conditions, ← (decides_verifyClaim holder nftMint expected token metadata).ok_iff]
    exact ⟨fun h => ⟨(), h⟩, fun ⟨(), h⟩ => h⟩
  refine ⟨hexact, ?_, ?_, ?_⟩
  · intro holder nftMint expected refusal
    exact (decides_verifyClaim holder nftMint expected token metadata).error_iff refusal
  · intro holder nftMint expected holder' nftMint' expected' h h'
    exact ((hexact holder nftMint expected).1 h).unique ((hexact holder' nftMint' expected').1 h')
  · intro core rest hkeeps hdamaged holder nftMint expected h
    obtain ⟨other, left, tail, hother, -, hbegins, -⟩ :=
      ((hexact holder nftMint expected).1 h).naming
    obtain ⟨-, rfl⟩ := hkeeps.unique hother
    exact hdamaged tail hbegins

/-! ## One token -/

/-- The account of a wallet that holds one unit of a token. -/
def soleToken : Account where
  owner := Address.tokenProgram
  lamports := 0
  data := (TokenAccount.holding (Bytes32.ofNatBE 22) (Bytes32.ofNatBE 30) 1).pack
  isExecutable := false

/-- Metadata of the token, with these bytes behind the core. -/
def soleTokenMetadata (rest : Bytes) : Account where
  owner := Address.metadataProgram
  lamports := 0
  data :=
    Metadata.mark ::
      (Metadata.coreCodec.encode
          { updateAuthority := Bytes32.zero
            mint := Bytes32.ofNatBE 22
            name := "Ticket"
            symbol := ""
            uri := ""
            sellerFee := 0
            creators := some [{ address := Bytes32.ofNatBE 31, verified := false, share := 100 }]
            primarySale := false
            isMutable := true
            editionNonce := none } ++
        rest)
  isExecutable := false

/-- The tail that names a collection, which confirms it. -/
def soleTokenTail : Bytes :=
  Metadata.tailCodec.encode
    { tokenStandard := some 0
      collection := some { verified := true, key := Bytes32.ofNatBE 50 }
      uses := none }

/-- The wallet passes the gate with the token, and only for itself, the token and the collection.
Without the last byte of the tail it does not pass for any collection. -/
theorem gate_of_sole_token :
    Shows soleToken (soleTokenMetadata soleTokenTail) (Bytes32.ofNatBE 30) (Bytes32.ofNatBE 22)
      (Bytes32.ofNatBE 50) ∧
    (∀ holder nftMint expected,
      verifyClaim holder nftMint expected soleToken (soleTokenMetadata soleTokenTail) = .ok () →
        holder = Bytes32.ofNatBE 30 ∧ nftMint = Bytes32.ofNatBE 22 ∧
          expected = Bytes32.ofNatBE 50) ∧
    ∀ holder nftMint expected,
      verifyClaim holder nftMint expected soleToken (soleTokenMetadata soleTokenTail.dropLast) ≠
        .ok () := by
  have hpasses : verifyClaim (Bytes32.ofNatBE 30) (Bytes32.ofNatBE 22) (Bytes32.ofNatBE 50)
      soleToken (soleTokenMetadata soleTokenTail) = .ok () :=
    toOption_eq_some_iff.1 (by decide +kernel)
  have hcut (tail : MetadataTail) : ¬MetadataTail.Begins tail soleTokenTail.dropLast := by
    rintro ⟨hfits, rest, hrest⟩
    have hdecode := toOption_eq_some_iff.2 (Metadata.decode_tail_eq_ok_iff.2 ⟨hfits, hrest.symm⟩)
    have hrefused : (Metadata.tailCodec.decode soleTokenTail.dropLast).toOption = none := by
      decide +kernel
    rw [hrefused] at hdecode
    cases hdecode
  obtain ⟨hexact, -, hsingle, -⟩ := gate_is_exact soleToken (soleTokenMetadata soleTokenTail)
  obtain ⟨-, -, -, hdamaged⟩ := gate_is_exact soleToken (soleTokenMetadata soleTokenTail.dropLast)
  refine ⟨(hexact _ _ _).1 hpasses, ?_, ?_⟩
  · intro holder nftMint expected h
    exact hsingle holder nftMint expected _ _ _ h hpasses
  · exact hdamaged _ _ ⟨rfl, by constructor <;> decide +kernel, rfl⟩ hcut

end Nft

end Disbursement
