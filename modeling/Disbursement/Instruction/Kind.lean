import Disbursement.Record

/-!
# Kinds of instruction

The fourteen instructions of the program: their names, the eight bytes that select them and the
accounts they take.

* `InstructionKind.mark` is the start of the data of an instruction.
* `InstructionKind.slots` lists the accounts in order, with what a client must allow for each.
-/

namespace Disbursement

/-- The instructions of the program. -/
inductive InstructionKind where
  | createVault
  | setVault
  | transferOwnership
  | acceptOwnership
  | cancelOwnershipTransfer
  | createSchedule
  | setScheduleStatus
  | withdrawSol
  | withdrawToken
  | redeemToken
  | redeemTokenMulti
  | redeemTokenNft
  | redeemTokenNftCollection
  | initRedeemIndex
  deriving DecidableEq

/-- An account that an instruction takes. -/
structure AccountSlot where
  name : String
  /-- Whether the account must sign. -/
  isSigner : Bool
  /-- Whether the account may change. -/
  isWritable : Bool
  deriving DecidableEq

namespace AccountSlot

/-- An account that is only read. -/
def read (name : String) : AccountSlot :=
  ⟨name, false, false⟩

/-- An account that may change. -/
def write (name : String) : AccountSlot :=
  ⟨name, false, true⟩

/-- An account that signs. -/
def sign (name : String) : AccountSlot :=
  ⟨name, true, false⟩

/-- An account that signs and may change. -/
def signWrite (name : String) : AccountSlot :=
  ⟨name, true, true⟩

end AccountSlot

namespace InstructionKind

/-- Every instruction. -/
def all : List InstructionKind := [
  createVault, setVault, transferOwnership, acceptOwnership, cancelOwnershipTransfer,
  createSchedule, setScheduleStatus, withdrawSol, withdrawToken, redeemToken, redeemTokenMulti,
  redeemTokenNft, redeemTokenNftCollection, initRedeemIndex]

/-! ## Names -/

/-- The name of an instruction. -/
def label : InstructionKind → String
  | createVault => "create_vault"
  | setVault => "set_vault"
  | transferOwnership => "transfer_ownership"
  | acceptOwnership => "accept_ownership"
  | cancelOwnershipTransfer => "cancel_ownership_transfer"
  | createSchedule => "create_schedule"
  | setScheduleStatus => "set_schedule_status"
  | withdrawSol => "withdraw_sol"
  | withdrawToken => "withdraw_token"
  | redeemToken => "redeem_token"
  | redeemTokenMulti => "redeem_token_multi"
  | redeemTokenNft => "redeem_token_nft"
  | redeemTokenNftCollection => "redeem_token_nft_collection"
  | initRedeemIndex => "init_redeem_index"

/-- The name as it is logged: its words joined, each with a capital. -/
def title (kind : InstructionKind) : String :=
  String.join ((kind.label.splitOn "_").map String.capitalize)

/-! ## Selection -/

/-- The first eight bytes of the data of an instruction. -/
def mark (kind : InstructionKind) : Bytes :=
  discriminator "global" kind.label

/-- The first eight bytes that are kept for events. -/
def eventMark : Bytes :=
  [0xe4, 0x45, 0xa5, 0x2e, 0x51, 0xcb, 0x9a, 0x1d]

/-- The instruction that eight bytes select. -/
def ofMark? (mark : Bytes) : Option InstructionKind :=
  all.find? fun kind => kind.mark == mark

/-! ## Accounts -/

/-- The accounts an instruction takes, in order. -/
def slots : InstructionKind → List AccountSlot
  | createVault => [.signWrite "owner", .write "vault", .read "system_program"]
  | setVault => [.sign "owner", .write "vault"]
  | transferOwnership => [.sign "owner", .write "vault"]
  | acceptOwnership => [.sign "new_owner", .write "vault"]
  | cancelOwnershipTransfer => [.sign "owner", .write "vault"]
  | createSchedule =>
    [.signWrite "admin", .read "vault", .write "schedule", .read "system_program"]
  | setScheduleStatus => [.sign "admin", .read "vault", .write "schedule"]
  | withdrawSol =>
    [.sign "admin", .read "vault", .write "vault_signer", .write "recipient",
      .read "system_program"]
  | withdrawToken =>
    [.sign "admin", .read "vault", .read "vault_signer", .write "sender", .write "recipient",
      .read "token_program"]
  | redeemToken | redeemTokenMulti =>
    [.read "vault", .write "schedule", .write "vault_signer", .write "vault_token_account",
      .signWrite "user", .write "user_token_account", .read "token_program",
      .read "system_program"]
  | redeemTokenNft =>
    [.read "vault", .write "schedule", .write "vault_signer", .write "vault_token_account",
      .signWrite "user", .write "user_token_account", .read "user_nft_token_account",
      .read "nft_metadata_account", .read "token_program", .read "system_program"]
  | redeemTokenNftCollection =>
    [.read "vault", .write "schedule", .write "redeem_index", .write "vault_signer",
      .write "vault_token_account", .signWrite "user", .write "user_token_account",
      .read "user_nft_token_account", .read "nft_metadata_account", .read "token_program",
      .read "system_program"]
  | initRedeemIndex =>
    [.signWrite "payer", .read "vault", .read "schedule", .write "redeem_index",
      .read "system_program"]

end InstructionKind

end Disbursement
