import Disbursement.Chain.Account
import Disbursement.Nft.Metadata

/-!
# The gate for token holders

A claimant proves to hold a token of a collection by two accounts: a token account that holds
exactly one unit of the mint, and the metadata of the mint, which must name the collection as
verified.
-/

namespace Disbursement.Nft

/-- The fields of a token account prove that `holder` has exactly one unit of the mint. -/
def verifyHolding (holder nftMint accountOwner accountMint : Address) (amount : UInt64) :
    Except Refusal Unit := do
  ensure (accountOwner = holder) .unauthorized
  ensure (accountMint = nftMint) .invalidMintAccount
  ensure (amount = 1) .invalidTokenAmount

/-- The collection is the expected one, and verified. -/
def verifyCollection (collection : Option Collection) (expected : Address) :
    Except Refusal Unit := do
  let collection ← demand collection .invalidCollection
  ensure (collection.key = expected) .invalidCollection
  ensure (collection.verified = true) .unverifiedCollection

/-- Both accounts together prove that `holder` has a verified token of the collection. -/
def verifyClaim (holder nftMint expectedCollection : Address) (token metadata : Account) :
    Except Refusal Unit := do
  let holding ← token.loadToken
  verifyHolding holder nftMint holding.owner holding.mint holding.amount
  ensure (metadata.owner = Address.metadataProgram) .invalidMetadata
  let metadata ← demand (Metadata.load metadata.data) .invalidMetadata
  ensure (metadata.core.mint = nftMint) .invalidMetadata
  verifyCollection metadata.tail.collection expectedCollection

end Disbursement.Nft
