import Disbursement.Proofs.Codec
import Disbursement.Proofs.Instruction
import Disbursement.Proofs.Ledger.Run
import Disbursement.Proofs.Program.Accounts

/-!
# Requests to the administration

The same things can be asked of a ledger and of the program: to change a vault, or to open or close
one of its schedules. An `AdminRequest` says who asks for what. It is an operation of a ledger
(`AdminRequest.operation`), and an instruction with a list of accounts (`AdminRequest.instruction`
and `AdminRequest.addresses`), which a call may carry in many ways (`AdminRequest.SubmittedAs`).

What a change may do to a vault is said once, by `Vault.Changes`. A caller alone may do what the
checks of the vault let it do (`Vault.changes_setVault_iff` and its companions), and that is all
that the two sides have to agree with.
-/

namespace Disbursement

/-- What can be changed about a vault. -/
inductive VaultChange where
  | setAdmins (admins : List Address)
  | propose (candidate : Address)
  | accept
  | cancel
  deriving DecidableEq

/-- What can be asked for. -/
inductive Administration where
  | change (change : VaultChange)
  | setStatus (schedule : Address) (isActive : Bool)
  deriving DecidableEq

/-- Who asks for what, and which vault it is about. -/
structure AdminRequest where
  caller : Address
  vault : Address
  act : Administration
  deriving DecidableEq

/-! ## The two forms of a request -/

namespace VaultChange

/-- The change as an operation of a ledger. -/
def operation (change : VaultChange) (caller vault : Address) : LedgerOperation :=
  match change with
  | setAdmins admins => .setVault caller vault admins
  | propose candidate => .transferOwnership caller vault candidate
  | accept => .acceptOwnership caller vault
  | cancel => .cancelOwnershipTransfer caller vault

/-- The change as an instruction of the program. -/
def instruction : VaultChange → Instruction
  | setAdmins admins => .setVault admins
  | propose candidate => .transferOwnership candidate
  | accept => .acceptOwnership
  | cancel => .cancelOwnershipTransfer

end VaultChange

namespace AdminRequest

/-- The request as an operation of a ledger. -/
def operation (r : AdminRequest) : LedgerOperation :=
  match r.act with
  | .change change => change.operation r.caller r.vault
  | .setStatus schedule isActive => .setScheduleStatus r.caller r.vault schedule isActive

/-- The request as an instruction of the program. -/
def instruction (r : AdminRequest) : Instruction :=
  match r.act with
  | .change change => change.instruction
  | .setStatus _ isActive => .setScheduleStatus isActive

/-- The accounts that the instruction takes. -/
def addresses (r : AdminRequest) : List Address :=
  match r.act with
  | .change _ => [r.caller, r.vault]
  | .setStatus schedule _ => [r.caller, r.vault, schedule]

/-- The account that the instruction writes. -/
def target (r : AdminRequest) : Address :=
  match r.act with
  | .change _ => r.vault
  | .setStatus schedule _ => schedule

/-- The ledger has the vault that the request is about, and the schedule if it is about one. -/
def Concerns (r : AdminRequest) (l : Ledger) : Prop :=
  (∃ v, l.vault? r.vault = some v) ∧
    match r.act with
    | .change _ => True
    | .setStatus schedule _ => ∃ s, l.schedule? schedule = some s

/-- A call that carries the request: the caller signs, and the account that changes is writable.
More accounts may follow, and more may be allowed. -/
structure SubmittedAs (r : AdminRequest) (call : Call) : Prop where
  program : call.program = Address.program
  instruction : Instruction.decode call.data = .ok r.instruction
  accounts : r.addresses <+: call.addresses
  signs : call.signs r.caller = true
  writes : call.writes r.target = true

/-- The accounts as they are listed in the plainest call. -/
def accounts (r : AdminRequest) : List AccountMeta :=
  r.addresses.map fun address => ⟨address, address = r.caller, address = r.target⟩

/-- The plainest call for a request. -/
def call (r : AdminRequest) (now : Int64) : Call where
  program := Address.program
  accounts := r.accounts
  data := r.instruction.encode
  now

/-- The format has room for the arguments. -/
def Fits (r : AdminRequest) : Prop :=
  match r.act with
  | .change (.setAdmins admins) => admins.length < 2 ^ 32
  | _ => True

end AdminRequest

/-! ## What a caller may do -/

namespace Vault

variable {v w : Vault} {caller candidate : Address} {admins : List Address}

/-- Only this address signs. -/
def onlySigner (caller : Address) : Address → Bool :=
  fun address => decide (address = caller)

@[simp] theorem onlySigner_iff {address : Address} :
    onlySigner caller address = true ↔ address = caller :=
  decide_eq_true_iff

theorem changes_setVault_iff : v.Changes (onlySigner caller) (.setVault admins) w ↔
    caller = v.owner ∧ v.setAdmins admins = .ok w := by
  rw [setAdmins_eq_ok_iff]
  constructor
  · intro h
    cases h with
    | admins _ signed few distinct => exact ⟨(onlySigner_iff.1 signed).symm, few, distinct, rfl⟩
  · rintro ⟨rfl, few, distinct, rfl⟩
    exact .admins admins (onlySigner_iff.2 rfl) few distinct

theorem changes_transferOwnership_iff :
    v.Changes (onlySigner caller) (.transferOwnership candidate) w ↔
      caller = v.owner ∧ v.propose candidate = .ok w := by
  rw [propose_eq_ok_iff]
  constructor
  · intro h
    cases h with
    | proposed _ signed proper => exact ⟨(onlySigner_iff.1 signed).symm, proper, rfl⟩
  · rintro ⟨rfl, proper, rfl⟩
    exact .proposed candidate (onlySigner_iff.2 rfl) proper

theorem changes_acceptOwnership_iff : v.Changes (onlySigner caller) .acceptOwnership w ↔
    ∃ previous, v.accept caller = .ok (previous, w) := by
  simp only [accept_eq_ok_iff]
  constructor
  · intro h
    cases h with
    | accepted previous candidate signed pending =>
      obtain rfl := onlySigner_iff.1 signed
      exact ⟨previous, pending, rfl⟩
  · rintro ⟨previous, pending, rfl⟩
    exact .accepted previous caller (onlySigner_iff.2 rfl) pending

theorem changes_cancelOwnershipTransfer_iff :
    v.Changes (onlySigner caller) .cancelOwnershipTransfer w ↔
      caller = v.owner ∧ ∃ dropped, v.cancel = .ok (dropped, w) := by
  simp only [cancel_eq_ok_iff]
  constructor
  · intro h
    cases h with
    | cancelled dropped signed pending =>
      exact ⟨(onlySigner_iff.1 signed).symm, dropped, pending, rfl⟩
  · rintro ⟨rfl, dropped, pending, rfl⟩
    exact .cancelled dropped (onlySigner_iff.2 rfl) pending

end Vault

/-! ## Calls for requests -/

namespace AdminRequest

variable {r : AdminRequest}

/-- What is put into the plainest call is what the program reads. -/
theorem decode_encode_instruction (h : r.Fits) :
    Instruction.decode r.instruction.encode = .ok r.instruction := by
  obtain ⟨caller, vault, act⟩ := r
  cases act with
  | setStatus schedule isActive =>
    have hread := (Codec.readsBack_bool isActive).decode_encode
    exact Instruction.decode_encode (congrArg (Except.map _) hread)
  | change change =>
    cases change with
    | setAdmins admins =>
      have hread := (Codec.readsBack_list h fun key _ => Codec.readsBack_bytes32 key).decode_encode
      exact Instruction.decode_encode (congrArg (Except.map _) hread)
    | propose candidate =>
      have hread := (Codec.readsBack_bytes32 candidate).decode_encode
      exact Instruction.decode_encode (congrArg (Except.map _) hread)
    | accept => exact Instruction.decode_encode rfl
    | cancel => exact Instruction.decode_encode rfl

theorem caller_mem_addresses (r : AdminRequest) : r.caller ∈ r.addresses := by
  unfold addresses
  split <;> exact List.mem_cons_self

theorem target_mem_addresses (r : AdminRequest) : r.target ∈ r.addresses := by
  unfold addresses target
  split <;> simp

theorem submittedAs_call (h : r.Fits) (now : Int64) : r.SubmittedAs (r.call now) where
  program := rfl
  instruction := decode_encode_instruction h
  accounts := by
    have haddresses : (r.call now).addresses = r.addresses := by
      rw [Call.addresses, call, accounts, List.map_map]
      exact List.map_id _
    exact ⟨[], by rw [List.append_nil, haddresses]⟩
  signs := by
    refine List.any_eq_true.2 ⟨_, List.mem_map_of_mem r.caller_mem_addresses, ?_⟩
    simp
  writes := by
    refine List.any_eq_true.2 ⟨_, List.mem_map_of_mem r.target_mem_addresses, ?_⟩
    simp

end AdminRequest

end Disbursement
