import Disbursement.Address.Derived
import Disbursement.Address.Known
import Disbursement.Allocation.Basic
import Disbursement.Allocation.Leaf
import Disbursement.Amount
import Disbursement.Bytes
import Disbursement.Chain.Account
import Disbursement.Chain.Call
import Disbursement.Chain.SystemProgram
import Disbursement.Chain.TokenProgram
import Disbursement.Check
import Disbursement.Claim
import Disbursement.Codec
import Disbursement.Curve.Edwards25519
import Disbursement.Digest.Keccak256
import Disbursement.Digest.Sha256
import Disbursement.EntryError
import Disbursement.Event
import Disbursement.Event.Field
import Disbursement.Failure
import Disbursement.Instruction.Basic
import Disbursement.Instruction.Kind
import Disbursement.Ledger.Arena
import Disbursement.Ledger.Basic
import Disbursement.Merkle.Hash
import Disbursement.Merkle.Proof
import Disbursement.Merkle.Tree
import Disbursement.Nft.Gate
import Disbursement.Nft.Metadata
import Disbursement.Program.Accounts
import Disbursement.Program.Custody
import Disbursement.Program.Entry
import Disbursement.Program.Invoke
import Disbursement.Program.Markers
import Disbursement.Program.Redeem
import Disbursement.Program.Schedules
import Disbursement.Program.Vaults
import Disbursement.Proofs.Address.Identity
import Disbursement.Proofs.Administration
import Disbursement.Proofs.Agreement
import Disbursement.Proofs.Allocation.Leaf
import Disbursement.Proofs.Chain.Accounts
import Disbursement.Proofs.Chain.Balances
import Disbursement.Proofs.Chain.Flow
import Disbursement.Proofs.Chain.Records
import Disbursement.Proofs.Chain.Spares
import Disbursement.Proofs.Check
import Disbursement.Proofs.Claim.Order
import Disbursement.Proofs.Claim.Payout
import Disbursement.Proofs.Claim.Run
import Disbursement.Proofs.Claim.Settle
import Disbursement.Proofs.Claim.Solvency
import Disbursement.Proofs.Claim.Submission
import Disbursement.Proofs.Claim.TimeLock
import Disbursement.Proofs.Claim.Verdict
import Disbursement.Proofs.Codec
import Disbursement.Proofs.Codec.Exact
import Disbursement.Proofs.Codec.Length
import Disbursement.Proofs.Codec.Strict
import Disbursement.Proofs.Event.Journal
import Disbursement.Proofs.Event.Recognition
import Disbursement.Proofs.InPlace
import Disbursement.Proofs.Instruction
import Disbursement.Proofs.Ledger.Accounting
import Disbursement.Proofs.Ledger.Administration
import Disbursement.Proofs.Ledger.Arena
import Disbursement.Proofs.Ledger.Distribution
import Disbursement.Proofs.Ledger.Rollback
import Disbursement.Proofs.Ledger.Run
import Disbursement.Proofs.Ledger.SingleUse
import Disbursement.Proofs.Ledger.Slots
import Disbursement.Proofs.Merkle.Binding
import Disbursement.Proofs.Merkle.Commitment
import Disbursement.Proofs.Merkle.Completeness
import Disbursement.Proofs.Merkle.Dense
import Disbursement.Proofs.Merkle.Levels
import Disbursement.Proofs.Merkle.Preimages
import Disbursement.Proofs.Merkle.Splitting
import Disbursement.Proofs.Merkle.Verify
import Disbursement.Proofs.Nft.Gate
import Disbursement.Proofs.Nft.Metadata
import Disbursement.Proofs.Nft.Verdict
import Disbursement.Proofs.Program.Accounts
import Disbursement.Proofs.Program.Administration
import Disbursement.Proofs.Program.Authority
import Disbursement.Proofs.Program.Beneficiary
import Disbursement.Proofs.Program.EventLog
import Disbursement.Proofs.Program.Evolution
import Disbursement.Proofs.Program.Isolation
import Disbursement.Proofs.Program.Legs
import Disbursement.Proofs.Program.Opening
import Disbursement.Proofs.Program.Payments
import Disbursement.Proofs.Program.Redeem
import Disbursement.Proofs.Program.SingleUse
import Disbursement.Proofs.Program.Steps
import Disbursement.Proofs.Program.WellFormed
import Disbursement.Proofs.Program.Writes
import Disbursement.Proofs.Record
import Disbursement.Proofs.Record.Space
import Disbursement.Proofs.Redemption.Bitmap
import Disbursement.Proofs.Redemption.Bits
import Disbursement.Proofs.Redemption.Marker
import Disbursement.Proofs.Redemption.Tracker
import Disbursement.Proofs.Schedule
import Disbursement.Proofs.Token.Account
import Disbursement.Proofs.Vault
import Disbursement.Proofs.Vault.History
import Disbursement.Proofs.Vault.InPlace
import Disbursement.Proofs.WireFormat
import Disbursement.Record
import Disbursement.Redemption.Bitmap
import Disbursement.Redemption.Marker
import Disbursement.Redemption.Request
import Disbursement.Redemption.Tracker
import Disbursement.Refusal
import Disbursement.Schedule.Basic
import Disbursement.Schedule.Kind
import Disbursement.Text.Base58
import Disbursement.Text.Hex
import Disbursement.Token.Account
import Disbursement.Vault.Basic
import Disbursement.Vault.Ownership
