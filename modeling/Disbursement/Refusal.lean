/-!
# Refusals

Why the rules of the vault turn an operation down. `Refusal.code` numbers the causes from 6000 in
the order of `Refusal.all`; `Refusal.label` and `Refusal.message` are how a cause is reported.
-/

namespace Disbursement

/-- A rule of the vault that an operation breaks. -/
inductive Refusal where
  | invalidScheduleType
  | indexOutOfRange
  | invalidProofLength
  | invalidAmount
  | invalidUserCount
  | tooManyAdmins
  | duplicateAdmin
  | invalidOwner
  | duplicateLeafIndex
  | nonContiguousLeafIndex
  | emptyAllocation
  | invalidProof
  | leafMismatch
  | scheduleInactive
  | scheduleLocked
  | wrongScheduleType
  | alreadyRedeemed
  | indexNotInitialized
  | accountAlreadyExists
  | noPendingTransfer
  | unauthorized
  | invalidVault
  | invalidDerivedAddress
  | invalidMintAccount
  | invalidTokenAmount
  | invalidMetadata
  | invalidCollection
  | unverifiedCollection
  | insufficientVaultBalance
  | invalidTokenAccount
  | invalidMint
  | missingFeeAccount
  | invalidAccount
  | arithmeticOverflow
  deriving DecidableEq

namespace Refusal

/-- Every cause, in the order of their codes. -/
def all : List Refusal := [
  invalidScheduleType, indexOutOfRange, invalidProofLength, invalidAmount, invalidUserCount,
  tooManyAdmins, duplicateAdmin, invalidOwner, duplicateLeafIndex, nonContiguousLeafIndex,
  emptyAllocation, invalidProof, leafMismatch, scheduleInactive, scheduleLocked, wrongScheduleType,
  alreadyRedeemed, indexNotInitialized, accountAlreadyExists, noPendingTransfer, unauthorized,
  invalidVault, invalidDerivedAddress, invalidMintAccount, invalidTokenAmount, invalidMetadata,
  invalidCollection, unverifiedCollection, insufficientVaultBalance, invalidTokenAccount,
  invalidMint, missingFeeAccount, invalidAccount, arithmeticOverflow]

/-- The number of a cause: 6000 and its place in `all`. -/
def code (refusal : Refusal) : Nat :=
  6000 + all.idxOf refusal

/-- The name and the wording under which a cause is reported. -/
def report : Refusal → String × String
  | invalidScheduleType => ("InvalidScheduleType", "Invalid schedule type")
  | indexOutOfRange => ("IndexOutOfRange", "Leaf index out of declared range")
  | invalidProofLength => ("InvalidProofLength", "Invalid proof length")
  | invalidAmount => ("InvalidAmount", "Invalid amount: must be greater than zero")
  | invalidUserCount => ("InvalidUserCount", "Invalid user count: must be greater than zero")
  | tooManyAdmins => ("TooManyAdmins", "Too many admins")
  | duplicateAdmin => ("DuplicateAdmin", "Duplicate admin address")
  | invalidOwner => ("InvalidOwner", "Invalid owner")
  | duplicateLeafIndex => ("DuplicateLeafIndex", "Duplicate leaf index in allocation list")
  | nonContiguousLeafIndex =>
    ("NonContiguousLeafIndex", "Allocation indices must be dense and start at zero")
  | emptyAllocation => ("EmptyAllocation", "Allocation list is empty")
  | invalidProof => ("InvalidProof", "Invalid proof")
  | leafMismatch => ("LeafMismatch", "Leaf fields do not match the schedule encoding")
  | scheduleInactive => ("ScheduleInactive", "Schedule inactive")
  | scheduleLocked => ("ScheduleLocked", "Schedule locked")
  | wrongScheduleType => ("WrongScheduleType", "Wrong schedule type for this instruction")
  | alreadyRedeemed => ("AlreadyRedeemed", "Already redeemed")
  | indexNotInitialized => ("IndexNotInitialized", "Redeem index not initialized")
  | accountAlreadyExists => ("AccountAlreadyExists", "Account already exists")
  | noPendingTransfer => ("NoPendingTransfer", "No pending ownership transfer")
  | unauthorized => ("Unauthorized", "Unauthorized")
  | invalidVault => ("InvalidVault", "Wrong vault id")
  | invalidDerivedAddress =>
    ("InvalidDerivedAddress", "Address does not match its derivation seeds")
  | invalidMintAccount => ("InvalidMintAccount", "Invalid mint account")
  | invalidTokenAmount => ("InvalidTokenAmount", "Invalid token amount")
  | invalidMetadata => ("InvalidMetadata", "Invalid metadata")
  | invalidCollection => ("InvalidCollection", "NFT collection mismatch")
  | unverifiedCollection => ("UnverifiedCollection", "NFT collection is not verified")
  | insufficientVaultBalance => ("InsufficientVaultBalance", "Insufficient vault balance")
  | invalidTokenAccount => ("InvalidTokenAccount", "Invalid token account")
  | invalidMint => ("InvalidMint", "Token mint does not match")
  | missingFeeAccount => ("MissingFeeAccount", "Fee token account missing")
  | invalidAccount => ("InvalidAccount", "Invalid account")
  | arithmeticOverflow => ("ArithmeticOverflow", "Arithmetic overflow")

/-- The name of a cause. -/
def label (refusal : Refusal) : String :=
  refusal.report.1

/-- The wording of a cause. -/
def message (refusal : Refusal) : String :=
  refusal.report.2

end Refusal

end Disbursement
