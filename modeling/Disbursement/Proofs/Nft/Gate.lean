import Disbursement.Nft.Gate

/-!
# Who passes the gate

Token holders pass the gate by two accounts, and `Nft.Proves` says what these have to show: one unit
of the token, held by the claimant, and metadata of the same token that name the collection as
verified. The gate lets nobody else through (`Nft.verifyClaim_eq_ok_iff`).
-/

namespace Disbursement.Nft

variable {holder nftMint accountOwner accountMint expected : Address} {amount : UInt64}
  {collection : Option Collection} {token metadata : Account} {u : Unit}

theorem verifyHolding_eq_ok_iff :
    verifyHolding holder nftMint accountOwner accountMint amount = .ok u ↔
      accountOwner = holder ∧ accountMint = nftMint ∧ amount = 1 := by
  simp only [verifyHolding, bind_eq_ok_iff, ensure_eq_ok_iff, exists_const]

theorem verifyCollection_eq_ok_iff :
    verifyCollection collection expected = .ok u ↔
      collection = some { verified := true, key := expected } := by
  simp only [verifyCollection, bind_eq_ok_iff, demand_eq_ok_iff, ensure_eq_ok_iff, exists_const]
  constructor
  · rintro ⟨⟨verified, key⟩, rfl, rfl, rfl⟩
    rfl
  · rintro rfl
    exact ⟨_, rfl, rfl, rfl⟩

/-- A token account and a metadata account prove that the holder has a verified token of the
collection. -/
structure Proves (holder nftMint expected : Address) (token metadata : Account) : Prop where
  /-- One unit of the token. -/
  holding : ∃ held, token.loadToken = .ok held ∧ held.owner = holder ∧ held.mint = nftMint ∧
    held.amount = 1
  /-- What the metadata program says of it. -/
  metadataOwner : metadata.owner = Address.metadataProgram
  collection : ∃ m, Metadata.load metadata.data = some m ∧ m.core.mint = nftMint ∧
    m.tail.collection = some { verified := true, key := expected }

theorem verifyClaim_eq_ok_iff :
    verifyClaim holder nftMint expected token metadata = .ok u ↔
      Proves holder nftMint expected token metadata := by
  simp only [verifyClaim, bind_eq_ok_iff, verifyHolding_eq_ok_iff, verifyCollection_eq_ok_iff,
    demand_eq_ok_iff, ensure_eq_ok_iff, exists_const]
  constructor
  · rintro ⟨held, hload, hholding, hprogram, m, hm, hmint, hcollection⟩
    exact ⟨⟨held, hload, hholding⟩, hprogram, m, hm, hmint, hcollection⟩
  · rintro ⟨⟨held, hload, hholding⟩, hprogram, m, hm, hmint, hcollection⟩
    exact ⟨held, hload, hholding, hprogram, m, hm, hmint, hcollection⟩

end Disbursement.Nft
