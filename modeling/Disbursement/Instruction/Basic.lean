import Disbursement.Instruction.Kind
import Disbursement.Redemption.Request

/-!
# Instructions

What the program can be asked to do, with the arguments. The four ways to redeem are one instruction
with different entitlements.

* `Instruction.encode` is the data of an instruction: the eight bytes of its kind and its arguments.
* `Instruction.decode` reads the data and ignores what follows the arguments.
-/

namespace Disbursement

/-- An instruction and its arguments. -/
inductive Instruction where
  /-- Open the vault of a path. -/
  | createVault (path : Digest)
  /-- Replace the admins. -/
  | setVault (admins : List Address)
  /-- Propose a new owner. -/
  | transferOwnership (newOwner : Address)
  /-- Become the owner. -/
  | acceptOwnership
  /-- Drop a proposed owner. -/
  | cancelOwnershipTransfer
  /-- Publish a schedule of the kind with this wire value. -/
  | createSchedule (kind : UInt8) (terms : ScheduleTerms)
  /-- Open or close a schedule for claims. -/
  | setScheduleStatus (isActive : Bool)
  /-- Take lamports out of custody. -/
  | withdrawSol (amount : UInt64)
  /-- Take tokens out of custody. -/
  | withdrawToken (amount : UInt64)
  /-- Redeem a leaf. -/
  | redeem (request : RedeemRequest)
  /-- Create the marker for a claim slot. -/
  | initRedeemIndex (index : UInt16) (nftMint : Address)
  deriving DecidableEq

namespace Instruction

/-- The kind of an instruction. -/
def kind : Instruction → InstructionKind
  | createVault .. => .createVault
  | setVault .. => .setVault
  | transferOwnership .. => .transferOwnership
  | acceptOwnership => .acceptOwnership
  | cancelOwnershipTransfer => .cancelOwnershipTransfer
  | createSchedule .. => .createSchedule
  | setScheduleStatus .. => .setScheduleStatus
  | withdrawSol .. => .withdrawSol
  | withdrawToken .. => .withdrawToken
  | redeem request =>
    match request.entitlement with
    | .wallet => .redeemToken
    | .walletMint .. => .redeemTokenMulti
    | .nft .. => .redeemTokenNft
    | .collection .. => .redeemTokenNftCollection
  | initRedeemIndex .. => .initRedeemIndex

/-! ## Arguments -/

/-- The wire format of the arguments of a new schedule. -/
def scheduleArguments : Codec (UInt8 × ScheduleTerms) :=
  (Codec.u16.pair <| Codec.u64.pair <| Codec.i64.pair <| Codec.bytes32.pair <| Codec.u8.pair <|
    Codec.bytes32.pair <| Codec.bytes32.pair <| Codec.bytes32.pair <| Codec.bytes32.pair
    MarkerScope.codec).imap
    (fun (userCount, eventId, unlock, root, kind, receivingMint, receivingAccount, sendingMint,
        sendingAccount, scope) =>
      let terms : ScheduleTerms :=
        { eventId, userCount, unlock, root, scope, receivingMint, receivingAccount, sendingMint,
          sendingAccount }
      (kind, terms))
    fun (kind, t) => (t.userCount, t.eventId, t.unlock, t.root, kind, t.receivingMint,
      t.receivingAccount, t.sendingMint, t.sendingAccount, t.scope)

/-- The wire format of a proof. -/
def proofCodec : Codec (List ProofNode) :=
  .list ProofNode.codec

/-- The wire format of index, time, proof and amounts. -/
def walletArguments : Codec (UInt16 × Int64 × List ProofNode × UInt64 × UInt64) :=
  Codec.u16.pair <| Codec.i64.pair <| proofCodec.pair <| Codec.u64.pair .u64

/-- The wire format of index, time, proof, mint and amounts. -/
def walletMintArguments : Codec (UInt16 × Int64 × List ProofNode × Address × UInt64 × UInt64) :=
  Codec.u16.pair <| Codec.i64.pair <| proofCodec.pair <| Codec.bytes32.pair <| Codec.u64.pair .u64

/-- The wire format of index, time, token, collection, amounts and proof. -/
def tokenArguments :
    Codec (UInt16 × Int64 × Address × Address × UInt64 × UInt64 × List ProofNode) :=
  Codec.u16.pair <| Codec.i64.pair <| Codec.bytes32.pair <| Codec.bytes32.pair <|
    Codec.u64.pair <| Codec.u64.pair proofCodec

/-- The wire format of a leaf index and a mint. -/
def markerArguments : Codec (UInt16 × Address) :=
  Codec.u16.pair .bytes32

/-- The bytes of the arguments. -/
def encodeArguments : Instruction → Bytes
  | createVault path => Codec.bytes32.encode path
  | setVault admins => (Codec.list .bytes32).encode admins
  | transferOwnership newOwner => Codec.bytes32.encode newOwner
  | acceptOwnership => []
  | cancelOwnershipTransfer => []
  | createSchedule kind terms => scheduleArguments.encode (kind, terms)
  | setScheduleStatus isActive => Codec.bool.encode isActive
  | withdrawSol amount => Codec.u64.encode amount
  | withdrawToken amount => Codec.u64.encode amount
  | redeem ⟨.wallet, index, timestamp, receiving, sending, proof⟩ =>
    walletArguments.encode (index, timestamp, proof, receiving, sending)
  | redeem ⟨.walletMint mint, index, timestamp, receiving, sending, proof⟩ =>
    walletMintArguments.encode (index, timestamp, proof, mint, receiving, sending)
  | redeem ⟨.nft mint group, index, timestamp, receiving, sending, proof⟩ =>
    tokenArguments.encode (index, timestamp, mint, group, receiving, sending, proof)
  | redeem ⟨.collection mint group, index, timestamp, receiving, sending, proof⟩ =>
    tokenArguments.encode (index, timestamp, mint, group, receiving, sending, proof)
  | initRedeemIndex index nftMint => markerArguments.encode (index, nftMint)

/-- The instruction of a kind whose arguments stand at the start of the input, and the rest. -/
def decodeArguments (input : Bytes) : InstructionKind → Except DecodeError (Instruction × Bytes)
  | .createVault => (Codec.bytes32.decode input).map fun (path, rest) => (createVault path, rest)
  | .setVault => ((Codec.list .bytes32).decode input).map fun (admins, rest) =>
    (setVault admins, rest)
  | .transferOwnership => (Codec.bytes32.decode input).map fun (newOwner, rest) =>
    (transferOwnership newOwner, rest)
  | .acceptOwnership => .ok (acceptOwnership, input)
  | .cancelOwnershipTransfer => .ok (cancelOwnershipTransfer, input)
  | .createSchedule => (scheduleArguments.decode input).map fun ((kind, terms), rest) =>
    (createSchedule kind terms, rest)
  | .setScheduleStatus => (Codec.bool.decode input).map fun (isActive, rest) =>
    (setScheduleStatus isActive, rest)
  | .withdrawSol => (Codec.u64.decode input).map fun (amount, rest) => (withdrawSol amount, rest)
  | .withdrawToken => (Codec.u64.decode input).map fun (amount, rest) =>
    (withdrawToken amount, rest)
  | .redeemToken => (walletArguments.decode input).map
    fun ((index, timestamp, proof, receiving, sending), rest) =>
      (redeem ⟨.wallet, index, timestamp, receiving, sending, proof⟩, rest)
  | .redeemTokenMulti => (walletMintArguments.decode input).map
    fun ((index, timestamp, proof, mint, receiving, sending), rest) =>
      (redeem ⟨.walletMint mint, index, timestamp, receiving, sending, proof⟩, rest)
  | .redeemTokenNft => (tokenArguments.decode input).map
    fun ((index, timestamp, mint, group, receiving, sending, proof), rest) =>
      (redeem ⟨.nft mint group, index, timestamp, receiving, sending, proof⟩, rest)
  | .redeemTokenNftCollection => (tokenArguments.decode input).map
    fun ((index, timestamp, mint, group, receiving, sending, proof), rest) =>
      (redeem ⟨.collection mint group, index, timestamp, receiving, sending, proof⟩, rest)
  | .initRedeemIndex => (markerArguments.decode input).map fun ((index, nftMint), rest) =>
    (initRedeemIndex index nftMint, rest)

/-! ## Data -/

/-- The data of an instruction. -/
def encode (i : Instruction) : Bytes :=
  i.kind.mark ++ i.encodeArguments

/-- The instruction in some data, which must be one of the program's own. The mark that is kept for
events is answered for itself. The instructions that the framework adds to every program, to keep
its interface description in an account, are left out: their mark is like that of no instruction. -/
def decode (data : Bytes) : Except EntryError Instruction := do
  ensure (8 ≤ data.length) .instructionMissing
  match InstructionKind.ofMark? (data.take 8) with
  | some kind =>
    match decodeArguments (data.drop 8) kind with
    | .ok (instruction, _) => return instruction
    | .error _ => throw .argumentsInvalid
  | none =>
    throw (if data.take 8 = InstructionKind.eventMark then .eventIdentifier
      else .instructionUnknown)

end Instruction

end Disbursement
