/-!
# Entry errors

Why an instruction is turned down before the rules of the vault see it: its bytes, its accounts or
the records they hold are not what the instruction expects. `EntryError.code` is the number,
`EntryError.label` and `EntryError.message` the report of a cause.
-/

namespace Disbursement

/-- A flaw in an instruction, in the accounts it is given or in the records they hold. -/
inductive EntryError where
  /-- The data is too short for an instruction identifier. -/
  | instructionMissing
  /-- No instruction has this identifier. -/
  | instructionUnknown
  /-- The arguments do not decode. -/
  | argumentsInvalid
  /-- The identifier is the one reserved for events. -/
  | eventIdentifier
  /-- An account that changes is not writable. -/
  | notWritable
  /-- An account is not at the address its seeds give. -/
  | wrongSeeds
  /-- The data is too short for a record discriminator. -/
  | discriminatorMissing
  /-- The record is of another type. -/
  | discriminatorMismatch
  /-- The record does not decode. -/
  | recordInvalid
  /-- The record does not fit into its account. -/
  | recordTooLong
  /-- Fewer accounts are given than the instruction takes. -/
  | tooFewAccounts
  /-- The account belongs to another program. -/
  | foreignOwner
  /-- The account is not the program that is called. -/
  | wrongProgram
  /-- The program account cannot be executed. -/
  | notExecutable
  /-- The account did not sign. -/
  | notSigner
  /-- The account is vacant. -/
  | notInitialized
  /-- The instruction is addressed to another program. -/
  | wrongProgramId
  /-- The payer is the account to be created. -/
  | payerIsTarget
  deriving DecidableEq

namespace EntryError

/-- Number, name and wording of a cause. -/
def report : EntryError → Nat × String × String
  | instructionMissing =>
    (100, "InstructionMissing", "8 byte instruction identifier not provided")
  | instructionUnknown =>
    (101, "InstructionFallbackNotFound", "Fallback functions are not supported")
  | argumentsInvalid =>
    (102, "InstructionDidNotDeserialize", "The program could not deserialize the given instruction")
  | eventIdentifier =>
    (1500, "EventInstructionStub", "The program was compiled without `event-cpi` feature")
  | notWritable => (2000, "ConstraintMut", "A mut constraint was violated")
  | wrongSeeds => (2006, "ConstraintSeeds", "A seeds constraint was violated")
  | discriminatorMissing =>
    (3001, "AccountDiscriminatorNotFound", "No 8 byte discriminator was found on the account")
  | discriminatorMismatch =>
    (3002, "AccountDiscriminatorMismatch", "8 byte discriminator did not match what was expected")
  | recordInvalid => (3003, "AccountDidNotDeserialize", "Failed to deserialize the account")
  | recordTooLong => (3004, "AccountDidNotSerialize", "Failed to serialize the account")
  | tooFewAccounts =>
    (3005, "AccountNotEnoughKeys", "Not enough account keys given to the instruction")
  | foreignOwner =>
    (3007, "AccountOwnedByWrongProgram",
      "The given account is owned by a different program than expected")
  | wrongProgram => (3008, "InvalidProgramId", "Program ID was not as expected")
  | notExecutable => (3009, "InvalidProgramExecutable", "Program account is not executable")
  | notSigner => (3010, "AccountNotSigner", "The given account did not sign")
  | notInitialized =>
    (3012, "AccountNotInitialized", "The program expected this account to be already initialized")
  | wrongProgramId =>
    (4100, "DeclaredProgramIdMismatch",
      "The declared program id does not match the actual program id")
  | payerIsTarget =>
    (4101, "TryingToInitPayerAsProgramAccount",
      "You cannot/should not initialize the payer account as a program account")

/-- The number of a cause. -/
def code (error : EntryError) : Nat :=
  error.report.1

/-- The name of a cause. -/
def label (error : EntryError) : String :=
  error.report.2.1

/-- The wording of a cause. -/
def message (error : EntryError) : String :=
  error.report.2.2

end EntryError

end Disbursement
