import Disbursement.Codec
import Disbursement.Check

/-!
# Token accounts

The state that the token program keeps of a holding: 165 bytes of fixed layout. An absent optional
field keeps whatever bytes stand behind its tag, so that writing back what was read changes nothing
else.

* `TokenAccount.unpack` reads the layout and refuses an account that is not in use.
* `TokenAccount.pack` writes it; `TokenAccount.holding` is the plain holding of an amount.
-/

namespace Disbursement

/-- An optional field with a place of its own, used or not. -/
structure Reserved (α : Type) where
  /-- Whether the field counts. -/
  isPresent : Bool
  /-- What stands in its place. -/
  value : α
  deriving DecidableEq

/-- The value of a field that counts. -/
def Reserved.get? {α : Type} (field : Reserved α) : Option α :=
  if field.isPresent then some field.value else none

/-- The stages of a token account. -/
inductive TokenState where
  | uninitialized
  | initialized
  | frozen
  deriving DecidableEq

/-- The state of a token account. -/
structure TokenAccount where
  /-- The token that is held. -/
  mint : Address
  /-- Who may spend. -/
  owner : Address
  amount : UInt64
  /-- Who may spend on behalf of the owner. -/
  delegate : Reserved Address
  state : TokenState
  /-- Set for an account that wraps lamports. -/
  native : Reserved UInt64
  /-- What the delegate may still spend. -/
  delegatedAmount : UInt64
  closeAuthority : Reserved Address
  deriving DecidableEq

namespace TokenAccount

/-- The exact length of a token account. -/
def length : Nat := 165

/-- The format of a four-byte tag and a value in its place. -/
def reserved {α : Type} (codec : Codec α) : Codec (Reserved α) where
  encode field :=
    (if field.isPresent then [1, 0, 0, 0] else [0, 0, 0, 0]) ++ codec.encode field.value
  decode input := do
    let (tag, rest) ← (Codec.number 4).decode input
    ensure (tag ≤ 1) (.invalidOption (UInt8.ofNat tag))
    let (value, rest) ← codec.decode rest
    return ({ isPresent := tag = 1, value }, rest)

/-- The layout of a token account. -/
def codec : Codec TokenAccount :=
  (Codec.bytes32.pair <| Codec.bytes32.pair <| Codec.u64.pair <| (reserved .bytes32).pair <|
    (Codec.enumeration [TokenState.uninitialized, .initialized, .frozen]).pair <|
    (reserved .u64).pair <| Codec.u64.pair <| reserved .bytes32).imap
    (fun (mint, owner, amount, delegate, state, native, delegatedAmount, closeAuthority) =>
      { mint, owner, amount, delegate, state, native, delegatedAmount, closeAuthority })
    fun a => (a.mint, a.owner, a.amount, a.delegate, a.state, a.native, a.delegatedAmount,
      a.closeAuthority)

/-- Why data is no usable token account. -/
inductive UnpackError where
  /-- The data does not have the layout. -/
  | invalidData
  /-- The account is not in use. -/
  | uninitialized
  deriving DecidableEq

/-- The account in the given data. -/
def unpack (data : Bytes) : Except UnpackError TokenAccount := do
  ensure (data.length = length) .invalidData
  let (account, _) ← (codec.decode data).mapError fun _ => UnpackError.invalidData
  ensure (account.state ≠ .uninitialized) .uninitialized
  return account

/-- The data of an account. -/
def pack (account : TokenAccount) : Bytes :=
  codec.encode account

/-- An account in use that holds an amount and nothing else. -/
def holding (mint owner : Address) (amount : UInt64) : TokenAccount where
  mint
  owner
  amount
  delegate := ⟨false, Bytes32.zero⟩
  state := .initialized
  native := ⟨false, 0⟩
  delegatedAmount := 0
  closeAuthority := ⟨false, Bytes32.zero⟩

end TokenAccount

end Disbursement
