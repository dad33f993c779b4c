import Disbursement.Proofs.Merkle.Binding
import Disbursement.Proofs.Nft.Gate
import Disbursement.Proofs.Program.Isolation
import Disbursement.Proofs.Program.SingleUse

/-!
# Who may redeem

A redemption is for the beneficiary that the tree commits, and nobody is asked who that is: the leaf
is rebuilt from the account that signs as the user and from what the call says, and it is accepted
only if it is in the tree. Where the tree pays the holder of a token, the gate has seen the token in
the hands of the user.

* `HoldsToken` says where the accounts of a token holder are and what they show.
* `Entitled` says, for each entitlement, which committed allocation it goes with.
* `only_the_beneficiary_redeems` is the statement for every successful call. It leaves one way out,
  two byte strings with the same digest, and names where they were hashed.
-/

namespace Disbursement.Program

variable {c marked paid : Chain} {call : Call} {r : RedeemRequest} {a : RedeemAccounts}
  {marker : Option Marker} {settlement : Settlement} {out : Outcome} {schedule : Address}
  {e : Entitlement} {u : Unit}

/-! ## The user -/

/-- The account that a redemption takes as its user. -/
def RedeemsFor (call : Call) (r : RedeemRequest) (user : Address) : Prop :=
  call.addresses[(Instruction.redeem r).kind.slots.findIdx fun slot => slot.name == "user"]? =
    some user

theorem Redeemed.redeemsFor (h : Redeemed c call r a marker settlement marked paid out) :
    RedeemsFor call r a.user := by
  have hmarker := h.taken.marker
  rw [RedeemsFor, h.taken.accounts, RedeemAccounts.addresses, Instruction.kind]
  cases he : r.entitlement with
  | wallet | walletMint mint | nft mint group =>
    have hnone : a.marker = none := by
      rw [← Option.not_isSome_iff_eq_none, hmarker, he]
      exact Bool.false_ne_true
    rw [hnone]
    rfl
  | collection mint group =>
    obtain ⟨slot, hslot⟩ : ∃ slot, a.marker = some slot := by
      rw [← Option.isSome_iff_exists, hmarker, he]
      rfl
    rw [hslot]
    rfl

/-! ## Token holders -/

/-- The user holds this token of the collection: the token account and the metadata account derived
for them prove it. -/
def HoldsToken (c : Chain) (user mint group : Address) : Prop :=
  ∃ token metadata bump, tokenAccountOf user mint = some token ∧
    metadataOf mint = some (metadata, bump) ∧
    Nft.Proves user mint group (c.account token) (c.account metadata)

theorem holderAccounts_of_requireRedeemAccounts (h : requireRedeemAccounts call a e = .ok u) :
    requireHolderAccounts a e = .ok u := by
  unfold requireRedeemAccounts at h
  simp only [bind_eq_ok_iff] at h
  obtain ⟨_, -, _, -, _, -, h⟩ := h
  -- with a marker, one account more must be writable
  split at h
  · simp only [bind_eq_ok_iff] at h
    obtain ⟨_, -, _, -, _, -, _, -, _, -, _, -, _, -, h⟩ := h
    exact h
  · simp only [bind_eq_ok_iff] at h
    obtain ⟨_, -, _, -, _, -, _, -, _, -, _, -, h⟩ := h
    exact h

theorem Redeemed.holdsToken (h : Redeemed c call r a marker settlement marked paid out)
    {mint group : Address} (htoken : r.entitlement.token? = some (mint, group)) :
    HoldsToken c a.user mint group := by
  obtain ⟨holder, hholder⟩ : ∃ holder, a.holder = some holder :=
    Option.isSome_iff_exists.1 (by rw [h.taken.holder, htoken]; rfl)
  have hplaces := holderAccounts_of_requireRedeemAccounts h.checked
  simp only [requireHolderAccounts, htoken, hholder, bind_eq_ok_iff, demand_eq_ok_iff,
    ensure_eq_ok_iff, exists_const, Prod.exists] at hplaces
  obtain ⟨token, htoken', hat, metadata, bump, hmetadata, hat'⟩ := hplaces
  have hpassed := h.passed
  simp only [passGate, htoken, hholder, Nft.verifyClaim_eq_ok_iff] at hpassed
  rw [hat, hat'] at hpassed
  exact ⟨token, metadata, bump, htoken', hmetadata, hpassed⟩

/-! ## The beneficiary -/

/-- The committed allocation is the one that the user redeems by this entitlement. -/
inductive Entitled (c : Chain) (user : Address) (committed : Allocation) : Entitlement → Prop
  /-- The leaf pays the wallet of the user. -/
  | wallet (pays : committed.beneficiary = .wallet user) : Entitled c user committed .wallet
  /-- It also names the mint that is paid. -/
  | walletMint (mint : Address) (pays : committed.beneficiary = .wallet user)
      (paidIn : committed.receivingMint = some mint) : Entitled c user committed (.walletMint mint)
  /-- The leaf pays who holds this token, which is the user. -/
  | nft (mint group : Address) (pays : committed.beneficiary = .nft mint group)
      (holds : HoldsToken c user mint group) : Entitled c user committed (.nft mint group)
  /-- The leaf pays who holds any token of the collection, and the user holds this one. -/
  | collection (mint group : Address) (pays : committed.beneficiary = .collection group)
      (holds : HoldsToken c user mint group) : Entitled c user committed (.collection mint group)

/-- An allocation with the beneficiary and the mint of the request, for a user who holds the token
that is asked for. -/
theorem entitled_of_sameEntry {encoding : LeafEncoding} {committed : Allocation} {user : Address}
    (h : Allocation.SameEntry encoding committed (r.allocation user))
    (holds : ∀ mint group, r.entitlement.token? = some (mint, group) →
      HoldsToken c user mint group) :
    Entitled c user committed r.entitlement := by
  have hpays : committed.beneficiary = r.entitlement.beneficiary user := h.beneficiary
  have hpaidIn : committed.receivingMint = r.entitlement.receivingMint? := h.receivingMint
  cases he : r.entitlement with
  | wallet =>
    rw [he] at hpays
    exact .wallet hpays
  | walletMint mint =>
    rw [he] at hpays hpaidIn
    exact .walletMint mint hpays hpaidIn
  | nft mint group =>
    rw [he] at hpays
    exact .nft mint group hpays (holds mint group (by rw [he]; rfl))
  | collection mint group =>
    rw [he] at hpays
    exact .collection mint group hpays (holds mint group (by rw [he]; rfl))

/-- Only the committed beneficiary can redeem. When a call redeems from a schedule, an account that
has signed is its user, and holds the token if one is asked for. Whatever allocations the root of
the schedule was built from, the only one of them for the index has the amounts of the request, and
it is the user's by the entitlement that the request relies on; or else two different byte strings
have the same digest, one hashed to build the tree and one to check this claim. -/
theorem only_the_beneficiary_redeems {receipt : Receipt} (h : execute c call = .ok receipt)
    (redeems : Redeems call schedule r) :
    ∃ s : Schedule, ∃ user, (c.account schedule).loadRecord = .ok s ∧ RedeemsFor call r user ∧
      call.signs user = true ∧
      (∀ mint group, r.entitlement.token? = some (mint, group) → HoldsToken c user mint group) ∧
      ∀ allocations tree, MerkleTree.build s.leafEncoding allocations = .ok tree →
        s.root = tree.root →
          (∃ committed ∈ allocations, committed.index = r.index ∧
            (∀ other ∈ allocations, other.index = r.index → other = committed) ∧
            committed.receivingAmount = r.receivingAmount ∧
            committed.sendingAmount = r.sendingAmount ∧
            Entitled c user committed r.entitlement) ∨
          Merkle.Collides (Merkle.committedPreimages s.leafEncoding allocations tree)
            (Merkle.presentedPreimages s.leafEncoding (r.allocation user) r.proof) := by
  obtain ⟨a, marker, settlement, marked, paid, out, h, rfl, -⟩ := redeemed_of_execute h redeems
  have holds (mint group : Address) (htoken : r.entitlement.token? = some (mint, group)) :=
    h.holdsToken htoken
  refine ⟨a.schedule.record, a.user, h.taken.loaded, h.redeemsFor, h.taken.signs, holds, ?_⟩
  intro allocations tree built root
  obtain ⟨-, -, -, -, -, leaf, hleaf, hverify, -⟩ := Claim.settle_eq_ok_iff.1 h.settled
  rw [root] at hverify
  rcases Merkle.sameEntry_of_verify built hleaf hverify with ⟨committed, hmem, hsame⟩ | hcollides
  · refine .inl ⟨committed, hmem, hsame.index, fun other hother hindex => ?_, hsame.receivingAmount,
      hsame.sendingAmount, entitled_of_sameEntry hsame holds⟩
    exact MerkleTree.eq_of_index_eq built hother hmem (hindex.trans hsame.index.symm)
  · exact .inr hcollides

/-! ## A token holder -/

/-- A wallet. -/
def tokenHolder : Address :=
  Bytes32.ofNatBE 30

/-- The token in it. -/
def heldToken : Address :=
  Bytes32.ofNatBE 22

/-- The collection of the token. -/
def heldCollection : Address :=
  Bytes32.ofNatBE 50

/-- Who holds the token is paid seven. -/
def heldTokenLeaf : Allocation where
  index := 0
  timestamp := 10
  beneficiary := .nft heldToken heldCollection
  receivingMint := none
  receivingAmount := 7
  sendingAmount := 0

/-- So is who holds another token of the collection. -/
def otherTokenLeaf : Allocation :=
  { heldTokenLeaf with index := 1, beneficiary := .nft (Bytes32.ofNatBE 24) heldCollection }

/-- A schedule for the two tokens, paid from the vault at the address three. -/
def tokenSchedule : Schedule :=
  { Schedule.blank with
    bump := 255
    vault := Bytes32.ofNatBE 3
    eventId := 1
    root := Bytes32.ofNatBE 0x3cf3709743ea3a027a937ef45530bf55f5a781222f19c8dbb3d9029cf2c2406f
    kind := .nft
    isActive := true
    userCount := 2
    redemptions := .empty 2 }

/-- The address derived for it. -/
def tokenScheduleAddress : Address :=
  Bytes32.ofNatBE 0xf93a381260a897822c4a171ae09897f32be91b60ea1ee17dfd00269ae0cf9fa6

/-- The address derived for the holder and the token. -/
def heldTokenAccount : Address :=
  Bytes32.ofNatBE 0xd1f63a0af373483c029bb5059143759dce1351b4488c3895ff3f7ba102d37b03

/-- The address derived for the metadata of the token. -/
def heldTokenMetadata : Address :=
  Bytes32.ofNatBE 0x6c27702042fda177c58e00f45ccf7abc01fd21e02738a7d6be031af2b51590b6

/-- What the metadata program keeps about the token. -/
def heldTokenMetadataData : Bytes :=
  Metadata.mark ::
    (Metadata.coreCodec.encode
        { updateAuthority := Bytes32.zero
          mint := heldToken
          name := ""
          symbol := ""
          uri := ""
          sellerFee := 0
          creators := none
          primarySale := false
          isMutable := false
          editionNonce := none } ++
      Metadata.tailCodec.encode
        { tokenStandard := none
          collection := some { verified := true, key := heldCollection }
          uses := none })

/-- A chain with the vault, its schedule and the holder of the token. -/
def holderChain : Chain where
  account address :=
    if address = Bytes32.ofNatBE 3 then
      { Account.vacant with owner := Address.program, data := Record.encode fundedVault }
    else if address = fundedSigner then { Account.vacant with lamports := 500 }
    else if address = tokenScheduleAddress then
      { Account.vacant with owner := Address.program, data := Record.encode tokenSchedule }
    else if address = heldTokenAccount then
      { Account.vacant with
        owner := Address.tokenProgram
        data := (TokenAccount.holding heldToken tokenHolder 1).pack }
    else if address = heldTokenMetadata then
      { Account.vacant with owner := Address.metadataProgram, data := heldTokenMetadataData }
    else if address = Address.tokenProgram ∨ address = Address.systemProgram then
      { Account.vacant with isExecutable := true }
    else .vacant

/-- The first leaf, with the hash of the second one as its proof. -/
def holderRequest : RedeemRequest where
  entitlement := .nft heldToken heldCollection
  index := 0
  timestamp := 10
  receivingAmount := 7
  sendingAmount := 0
  proof :=
    [⟨Bytes32.ofNatBE 0x8d1932094f84489ca6a71223e5f347cdf0c8aba5f02d0f31443b477d7b93453d, .right⟩]

/-- The holder redeems it. -/
def holderRedemption : Call where
  program := Address.program
  accounts :=
    [⟨Bytes32.ofNatBE 3, false, false⟩, ⟨tokenScheduleAddress, false, true⟩,
      ⟨fundedSigner, false, true⟩, ⟨Bytes32.zero, false, true⟩, ⟨tokenHolder, true, true⟩,
      ⟨Bytes32.ofNatBE 31, false, true⟩, ⟨heldTokenAccount, false, false⟩,
      ⟨heldTokenMetadata, false, false⟩, ⟨Address.tokenProgram, false, false⟩,
      ⟨Address.systemProgram, false, false⟩]
  data := (Instruction.redeem holderRequest).encode
  now := 10

theorem redeems_holderRedemption : Redeems holderRedemption tokenScheduleAddress holderRequest :=
  ⟨toOption_eq_some_iff.1 (by decide +kernel), rfl⟩

theorem execute_holderRedemption :
    ∃ receipt, execute holderChain holderRedemption = .ok receipt ∧
      (receipt.chain.account tokenHolder).lamports = 7 := by
  have hrun : (perform holderChain holderRedemption (.redeem holderRequest)).toOption.map
      (fun out => (out.chain.account tokenHolder).lamports) = some 7 := by
    decide +kernel
  obtain ⟨out, hout, hlamports⟩ := Option.map_eq_some_iff.1 hrun
  exact ⟨_, execute_eq_ok_iff.2 ⟨rfl, _, out, redeems_holderRedemption.1,
    toOption_eq_some_iff.1 hout, rfl⟩, hlamports⟩

theorem root_tokenSchedule : ∃ tree,
    MerkleTree.build .nftSpecific [heldTokenLeaf, otherTokenLeaf] = .ok tree ∧
      tokenSchedule.root = tree.root := by
  have hroot : (MerkleTree.build .nftSpecific [heldTokenLeaf, otherTokenLeaf]).toOption.map
      MerkleTree.root = some tokenSchedule.root := by
    decide +kernel
  obtain ⟨tree, htree, hroot⟩ := Option.map_eq_some_iff.1 hroot
  exact ⟨tree, toOption_eq_some_iff.1 htree, hroot.symm⟩

/-- The holder has signed and holds the token, and is paid for the leaf that names it. -/
theorem redemption_by_token_holder :
    ∃ receipt tree, execute holderChain holderRedemption = .ok receipt ∧
      Redeems holderRedemption tokenScheduleAddress holderRequest ∧
      MerkleTree.build .nftSpecific [heldTokenLeaf, otherTokenLeaf] = .ok tree ∧
      (receipt.chain.account tokenHolder).lamports = 7 ∧
      holderRedemption.signs tokenHolder = true ∧
      HoldsToken holderChain tokenHolder heldToken heldCollection ∧
      ((∃ committed ∈ [heldTokenLeaf, otherTokenLeaf], committed.index = 0 ∧
          Entitled holderChain tokenHolder committed (.nft heldToken heldCollection)) ∨
        Merkle.Collides
          (Merkle.committedPreimages .nftSpecific [heldTokenLeaf, otherTokenLeaf] tree)
          (Merkle.presentedPreimages .nftSpecific (holderRequest.allocation tokenHolder)
            holderRequest.proof)) := by
  obtain ⟨receipt, hexecute, hlamports⟩ := execute_holderRedemption
  obtain ⟨tree, hbuild, hroot⟩ := root_tokenSchedule
  obtain ⟨s, user, hload, huser, hsigns, hholds, hcommitted⟩ :=
    only_the_beneficiary_redeems hexecute redeems_holderRedemption
  have hbefore : (holderChain.account tokenScheduleAddress).loadRecord = .ok tokenSchedule :=
    toOption_eq_some_iff.1 (by decide +kernel)
  obtain rfl : tokenSchedule = s := Except.ok.inj (hbefore.symm.trans hload)
  obtain rfl : tokenHolder = user := Option.some.inj huser
  refine ⟨receipt, tree, hexecute, redeems_holderRedemption, hbuild, hlamports, hsigns,
    hholds heldToken heldCollection rfl, ?_⟩
  rcases hcommitted [heldTokenLeaf, otherTokenLeaf] tree hbuild hroot with
    ⟨committed, hmem, hindex, -, -, -, hentitled⟩ | hcollides
  · exact .inl ⟨committed, hmem, hindex, hentitled⟩
  · exact .inr hcollides

end Disbursement.Program
