import Disbursement.Proofs.Codec.Exact
import Disbursement.Proofs.Codec.Length
import Disbursement.Token.Account

/-!
# The layout of token accounts

A token account fills its 165 bytes exactly, and data are unpacked as an account in use if and only
if they are what that account is packed into (`TokenAccount.unpack_eq_ok_iff`).
`TokenAccount.Continues` is what a transfer may make of an account.
-/

namespace Disbursement.TokenAccount

variable {α : Type} {codec : Codec α}

/-- The tag says whether the field counts; its value is written either way. -/
theorem exact_reserved {Fits : α → Prop} (h : codec.Exact Fits) :
    (reserved codec).Exact fun field => Fits field.value where
  readsBack {field} hfits := by
    obtain ⟨isPresent, value⟩ := field
    intro rest
    have hvalue := h.readsBack hfits rest
    cases isPresent <;>
      simp [reserved, Codec.number, Bytes.toNatLE, ensure, bind, Except.bind, hvalue, pure,
        Except.pure]
  accepted {input field rest} hdecode := by
    simp only [reserved, bind_eq_ok_iff, ensure_eq_ok_iff, exists_const, pure_eq_ok_iff,
      Prod.exists, Prod.mk.injEq] at hdecode
    obtain ⟨tag, left, htag, hle, value, _, hvalue, rfl, rfl⟩ := hdecode
    obtain ⟨-, rfl⟩ := (Codec.exact_number 4).accepted htag
    obtain ⟨hfits, rfl⟩ := h.accepted hvalue
    refine ⟨hfits, ?_⟩
    obtain rfl | rfl : tag = 0 ∨ tag = 1 := by omega
    · rfl
    · rfl

/-- A token account has one layout, and everything laid out like that is a token account. -/
theorem exact : TokenAccount.codec.Exact fun _ => True := by
  have hstate : (Codec.enumeration [TokenState.uninitialized, .initialized, .frozen]).Exact
      fun _ => True :=
    (Codec.exact_enumeration (by decide) (by decide)).congr fun state => by cases state <;> decide
  have hfields := Codec.exact_bytes32.pair <| Codec.exact_bytes32.pair <| Codec.exact_u64.pair <|
    (exact_reserved Codec.exact_bytes32).pair <| hstate.pair <|
    (exact_reserved Codec.exact_u64).pair <| Codec.exact_u64.pair <|
      exact_reserved Codec.exact_bytes32
  exact (hfields.imap (fun _ _ => rfl) fun _ => rfl).congr fun _ => by simp

theorem length_encode_reserved {field : Reserved α} :
    ((reserved codec).encode field).length = 4 + (codec.encode field.value).length := by
  cases h : field.isPresent <;> simp [reserved, h] <;> omega

theorem length_pack (t : TokenAccount) : (pack t).length = length := by
  simp [pack, TokenAccount.codec, length_encode_reserved, length]

/-- An account in use is unpacked from its layout and from nothing else. -/
theorem unpack_eq_ok_iff {data : Bytes} {t : TokenAccount} :
    unpack data = .ok t ↔ data = pack t ∧ t.state ≠ .uninitialized := by
  simp only [unpack, bind_eq_ok_iff, mapError_eq_ok_iff, ensure_eq_ok_iff, exists_const,
    pure_eq_ok_iff, Prod.exists]
  constructor
  · rintro ⟨hlength, account, rest, hdecode, hstate, rfl⟩
    obtain ⟨-, hdata⟩ := exact.accepted hdecode
    refine ⟨?_, hstate⟩
    -- the account takes up the whole length, so that nothing follows it
    have hrest : rest.length = 0 := by
      have hpack := length_pack account
      rw [hdata, List.length_append, ← pack, hpack] at hlength
      omega
    rw [hdata, List.length_eq_zero_iff.1 hrest, List.append_nil, pack]
  · rintro ⟨rfl, hstate⟩
    exact ⟨length_pack t, t, [], (exact.readsBack trivial).decode_encode, hstate, rfl⟩

theorem unpack_pack {t : TokenAccount} (h : t.state ≠ .uninitialized) :
    unpack (pack t) = .ok t :=
  unpack_eq_ok_iff.2 ⟨rfl, h⟩

theorem state_ne_of_unpack {data : Bytes} {t : TokenAccount} (h : unpack data = .ok t) :
    t.state ≠ .uninitialized :=
  (unpack_eq_ok_iff.1 h).2

/-! ## What may become of an account -/

/-- The one is the other at a later time: in use as before, for the same token and the same
owner. -/
structure Continues (earlier later : TokenAccount) : Prop where
  mint_eq : later.mint = earlier.mint
  owner_eq : later.owner = earlier.owner
  state_eq : later.state = earlier.state

namespace Continues

variable {t u w : TokenAccount}

theorem refl (t : TokenAccount) : Continues t t :=
  ⟨rfl, rfl, rfl⟩

theorem trans (h : Continues t u) (h' : Continues u w) : Continues t w where
  mint_eq := h'.mint_eq.trans h.mint_eq
  owner_eq := h'.owner_eq.trans h.owner_eq
  state_eq := h'.state_eq.trans h.state_eq

theorem with_amount (h : Continues t u) (amount : UInt64) : Continues t { u with amount } :=
  ⟨h.mint_eq, h.owner_eq, h.state_eq⟩

end Continues

end Disbursement.TokenAccount
