import Disbursement.Proofs.Chain.Flow
import Disbursement.Proofs.Program.Steps

/-!
# Payments and new accounts

What the program does through other programs is a flow of assets: the transfers in both assets, the
payments out of custody and both legs of a redemption are payments (`Chain.Pays`), and a new account
at a derived address is opened (`Chain.Opens`). Each statement names the account that pays and how
much at most.

A leg of a redemption is `LegPaid` by a holder: in lamports by the holder itself, in tokens by a
token account that the holder may spend from.
-/

namespace Disbursement.Program

variable {c d : Chain} {call : Call} {p plain signed : Privileges}
  {source destination target payer recipient authority mint : Address} {amount : UInt64} {space : ℕ}

/-! ## Transfers -/

theorem pays_transferLamports (h : transferLamports p c source target amount = .ok d) :
    c.Pays d (Pi.single source amount.toNat) 0 := by
  simp only [transferLamports, bind_eq_ok_iff, mapError_eq_ok_iff] at h
  obtain ⟨-, -, htransfer⟩ := h
  exact SystemProgram.pays_transfer htransfer

theorem pays_transferTokens {held receiving : TokenAccount}
    (hheld : (c.account source).loadToken = .ok held)
    (hreceiving : (c.account destination).loadToken = .ok receiving)
    (h : transferTokens p c source destination authority amount = .ok d) :
    (held.owner = authority ∨ held.delegate.get? = some authority) ∧
      c.Pays d 0 (Pi.single source amount.toNat) := by
  simp only [transferTokens, bind_eq_ok_iff, mapError_eq_ok_iff] at h
  obtain ⟨-, -, htransfer⟩ := h
  exact TokenProgram.pays_transfer hheld hreceiving htransfer

/-! ## Custody -/

theorem pays_payLamports {custody : Custody}
    (h : custody.payLamports call c recipient amount = .ok d) :
    c.Pays d (Pi.single custody.signer amount.toNat) 0 := by
  simp only [Custody.payLamports, bind_eq_ok_iff, lift_call_eq_ok_iff] at h
  obtain ⟨-, -, -, -, htransfer⟩ := h
  exact pays_transferLamports htransfer

/-- Custody pays tokens only from an account that its signer owns. -/
theorem pays_payTokens {custody : Custody}
    (h : custody.payTokens call c source destination mint amount = .ok d) :
    ∃ held, (c.account source).loadToken = .ok held ∧ held.mint = mint ∧
      held.owner = custody.signer ∧ c.Pays d 0 (Pi.single source amount.toNat) := by
  simp only [Custody.payTokens, Custody.checkSource, bind_eq_ok_iff, ensure_eq_ok_iff, exists_const,
    lift_call_eq_ok_iff, lift_refusal_eq_ok_iff] at h
  obtain ⟨held, hheld, ⟨hmint, howner, -⟩, receiving, hreceiving, -, htransfer⟩ := h
  exact ⟨held, hheld, hmint, howner, (pays_transferTokens hheld hreceiving htransfer).2⟩

/-! ## The legs of a redemption -/

/-- A leg is paid by a holder, who may spend from the token accounts that `spends` admits. -/
inductive LegPaid (before after : Chain) (leg : Leg) (holder : Address)
    (spends : Address → TokenAccount → Prop) : Prop where
  /-- An amount of zero need not be paid. -/
  | nothing (same : after = before)
  | native (asset : leg.asset = .native)
    (pays : before.Pays after (Pi.single holder leg.amount.toNat) 0)
  | token (source : Address) (held : TokenAccount) (asset : leg.asset = .token held.mint)
    (loaded : (before.account source).loadToken = .ok held) (spends : spends source held)
    (pays : before.Pays after 0 (Pi.single source leg.amount.toNat))

variable {a : RedeemAccounts} {leg : Leg} {payout : Payout}

theorem LegPaid.exists_pays {spends : Address → TokenAccount → Prop}
    (h : LegPaid c d leg target spends) : ∃ lamports tokens, c.Pays d lamports tokens := by
  cases h with
  | nothing same => exact ⟨0, 0, same ▸ .refl c⟩
  | native _ pays => exact ⟨_, _, pays⟩
  | token _ _ _ _ _ pays => exact ⟨_, _, pays⟩

/-- The sending leg is paid by the claimant, from the fee source where it is in tokens. -/
theorem paid_of_collect (h : collect call c a leg = .ok d) :
    LegPaid c d leg a.user fun source held =>
      a.fees[1]? = some source ∧ (held.owner = a.user ∨ held.delegate.get? = some a.user) := by
  simp only [collect, bind_eq_ok_iff] at h
  obtain ⟨destination, -, -, -, h⟩ := h
  split at h
  next hasset => exact .native hasset (pays_transferLamports (lift_call_eq_ok_iff.1 h))
  next hasset =>
    simp only [bind_eq_ok_iff, demand_eq_ok_iff, ensure_eq_ok_iff, exists_const,
      lift_call_eq_ok_iff, lift_refusal_eq_ok_iff] at h
    obtain ⟨source, hsource, held, hheld, hmint, receiving, hreceiving, -, htransfer⟩ := h
    obtain ⟨hauthority, hpays⟩ := pays_transferTokens hheld hreceiving htransfer
    exact .token source held (hmint ▸ hasset) hheld ⟨hsource, hauthority⟩ hpays

/-- The receiving leg is paid by the signer of the vault. -/
theorem paid_of_pay (h : pay call c a leg = .ok d) :
    LegPaid c d leg a.signer fun _ held => held.owner = a.signer := by
  unfold pay at h
  split at h
  next =>
    obtain rfl := pure_eq_ok_iff.1 h
    exact .nothing rfl
  next =>
    split at h
    next hasset => exact .native hasset (pays_payLamports h)
    next hasset =>
      obtain ⟨held, hheld, hmint, howner, hpays⟩ := pays_payTokens h
      exact .token a.vaultToken held (hmint ▸ hasset) hheld howner hpays

/-- Both legs are paid, the sending one first where there is one. -/
theorem paid_of_payOut (h : payOut call c a payout = .ok d) :
    ∃ collected, (payout.sending = none ∧ collected = c ∨
        ∃ leg, payout.sending = some leg ∧ LegPaid c collected leg a.user fun source held =>
          a.fees[1]? = some source ∧ (held.owner = a.user ∨ held.delegate.get? = some a.user)) ∧
      LegPaid collected d payout.receiving a.signer fun _ held => held.owner = a.signer := by
  unfold payOut at h
  split at h
  next leg hleg =>
    obtain ⟨collected, hcollect, hpay⟩ := bind_eq_ok_iff.1 h
    exact ⟨collected, .inr ⟨leg, hleg, paid_of_collect hcollect⟩, paid_of_pay hpay⟩
  next hnone => exact ⟨c, .inl ⟨hnone, rfl⟩, paid_of_pay h⟩

theorem exists_pays_payOut (h : payOut call c a payout = .ok d) :
    ∃ lamports tokens, c.Pays d lamports tokens := by
  obtain ⟨collected, hcollected, hpaid⟩ := paid_of_payOut h
  obtain ⟨_, _, hpays⟩ := hpaid.exists_pays
  rcases hcollected with ⟨-, rfl⟩ | ⟨leg, -, hleg⟩
  · exact ⟨_, _, hpays⟩
  · obtain ⟨_, _, hpays'⟩ := hleg.exists_pays
    exact ⟨_, _, hpays'.trans hpays⟩

/-! ## New accounts -/

variable {identity : Identity} {bump : UInt8}

theorem opens_createAccount (h : createAccount p c payer target space = .ok d) :
    ∃ cost, c.Opens d target space (Pi.single payer cost) := by
  simp only [createAccount, bind_eq_ok_iff, mapError_eq_ok_iff] at h
  obtain ⟨-, -, hcreate⟩ := h
  exact ⟨_, SystemProgram.opens_createAccount hcreate⟩

theorem opens_takeOverAccount (h : takeOverAccount plain signed c payer target space = .ok d) :
    ∃ cost, c.Opens d target space (Pi.single payer cost) := by
  have hfunded : ∃ funded cost, c.Pays funded (Pi.single payer cost) 0 ∧ ∃ allocated,
      SystemProgram.allocate funded target space = .ok allocated ∧
        SystemProgram.assign allocated target Address.program = d := by
    dsimp only [takeOverAccount] at h
    split at h
    · simp only [bind_eq_ok_iff, mapError_eq_ok_iff, pure_eq_ok_iff] at h
      obtain ⟨funded, hfund, -, -, hallocate⟩ := h
      exact ⟨funded, _, pays_transferLamports hfund, hallocate⟩
    · simp only [bind_eq_ok_iff, mapError_eq_ok_iff, pure_eq_ok_iff] at h
      obtain ⟨_, rfl, -, -, hallocate⟩ := h
      exact ⟨c, 0, .refl c, hallocate⟩
  obtain ⟨funded, cost, hpays, allocated, hallocate, rfl⟩ := hfunded
  have hopens := Chain.Opens.of_pays hpays (SystemProgram.opens_assign_allocate hallocate)
  rw [add_zero] at hopens
  exact ⟨cost, hopens⟩

/-- Whatever lamports the address held, the account is opened, and the payer pays for it. -/
theorem opens_openAccount (h : openAccount call c payer target identity bump space = .ok d) :
    ∃ cost, c.Opens d target space (Pi.single payer cost) := by
  dsimp only [openAccount] at h
  split at h
  · exact opens_createAccount h
  · exact opens_takeOverAccount h

/-- The account of an identity is opened at the address derived for it. -/
theorem opens_openRecord (h : openRecord call c payer target identity space = .ok (bump, d)) :
    identity.find Address.program = some (target, bump) ∧
      ∃ cost, c.Opens d target space (Pi.single payer cost) := by
  simp only [openRecord, bind_eq_ok_iff, demand_eq_ok_iff, lift_call_eq_ok_iff, ensure_eq_ok_iff,
    exists_const, pure_eq_ok_iff, Prod.exists, Prod.mk.injEq] at h
  obtain ⟨_, _, hfind, rfl, -, opened, hopen, rfl, rfl⟩ := h
  exact ⟨hfind, opens_openAccount hopen⟩

end Disbursement.Program
