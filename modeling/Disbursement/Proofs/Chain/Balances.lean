import Disbursement.Proofs.Chain.Flow

/-!
# Balances

What the accounts of a chain hold, and nothing else about it: their lamports, the amounts in the
token accounts, and what each token account is for (`Chain.balances`). A transfer is a change of
balances that can be written down (`Balances.move`): the amount leaves the one account and arrives
at the other, which may be the same. Both transfers there are do exactly that
(`SystemProgram.balances_transfer`, `TokenProgram.balances_transfer`).
-/

namespace Disbursement

/-- What a token account is for, which never changes. -/
structure Title where
  mint : Address
  owner : Address
  /-- Whether its tokens stand for lamports that it wraps. -/
  wraps : Bool

def TokenAccount.title (t : TokenAccount) : Title where
  mint := t.mint
  owner := t.owner
  wraps := t.native.isPresent

/-- What all accounts hold. -/
@[ext] structure Balances where
  lamports : Address → ℕ
  /-- The amount in a token account, and zero elsewhere. -/
  tokens : Address → ℕ
  /-- What the token account at an address is for, if there is one. -/
  title? : Address → Option Title

namespace Chain

/-- What the accounts of a chain hold. -/
def balances (c : Chain) : Balances where
  lamports a := (c.account a).lamports.toNat
  tokens a := ((c.account a).loadToken.toOption.map fun t => t.amount.toNat).getD 0
  title? a := (c.account a).loadToken.toOption.map TokenAccount.title

variable {c d : Chain} {a : Address} {t : TokenAccount}

theorem balances_of_loadToken (h : (c.account a).loadToken = .ok t) :
    c.balances.tokens a = t.amount.toNat ∧ c.balances.title? a = some t.title := by
  have hload : (c.account a).loadToken.toOption = some t := toOption_eq_some_iff.2 h
  simp only [balances, hload, Option.map_some, Option.getD_some, and_self]

/-- As long as lamports and token accounts are the same, so are the balances. -/
theorem balances_eq (hlamports : ∀ a, (d.account a).lamports = (c.account a).lamports)
    (htokens : ∀ a, (d.account a).loadToken = (c.account a).loadToken) :
    d.balances = c.balances := by
  simp only [balances, hlamports, htokens]

theorem balances_storeRecord {α : Type} [Record α] {value : α} (hown : (c.account a).isOwn)
    (h : c.storeRecord a value = .ok d) : d.balances = c.balances :=
  balances_eq (lamports_storeRecord h) (loadToken_storeRecord hown h)

end Chain

/-! ## Moving an amount -/

/-- An amount leaves one address and arrives at another, which may be the same. -/
def shift (f : Address → ℕ) (source target : Address) (amount : ℕ) : Address → ℕ :=
  f + Pi.single target amount - Pi.single source amount

theorem Moved.eq_shift {f g : Address → ℕ} {source target : Address} {amount : ℕ}
    (h : Moved f g source target amount) : g = shift f source target amount := by
  funext a
  have ha := h a
  simp only [shift, Pi.sub_apply, Pi.add_apply]
  omega

@[simp] theorem shift_self (f : Address → ℕ) (source : Address) (amount : ℕ) :
    shift f source source amount = f :=
  (Moved.self f source amount).eq_shift.symm

@[simp] theorem shift_zero (f : Address → ℕ) (source target : Address) :
    shift f source target 0 = f := by
  have hstill : Moved f f source target 0 := fun a => by rw [Pi.single_zero, Pi.single_zero]
  exact hstill.eq_shift.symm

namespace Balances

/-- Lamports are moved. -/
def moveLamports (b : Balances) (source target : Address) (amount : ℕ) : Balances :=
  { b with lamports := shift b.lamports source target amount }

/-- Tokens are moved, and as many lamports with them if the source wraps lamports. -/
def moveTokens (b : Balances) (source target : Address) (amount : ℕ) : Balances :=
  { b with
    tokens := shift b.tokens source target amount
    lamports :=
      if (b.title? source).any Title.wraps then shift b.lamports source target amount
      else b.lamports }

/-- A transfer from an account to itself changes nothing. -/
theorem moveTokens_self (b : Balances) (source : Address) (amount : ℕ) :
    b.moveTokens source source amount = b := by
  simp only [moveTokens, shift_self, ite_self]

end Balances

namespace SystemProgram

variable {c d : Chain} {source target : Address} {amount : UInt64}

theorem balances_transfer (h : transfer c source target amount = .ok d) :
    amount.toNat ≤ c.balances.lamports source ∧
      d.balances = c.balances.moveLamports source target amount.toNat := by
  simp only [transfer, bind_eq_ok_iff, ensure_eq_ok_iff, demand_eq_ok_iff, exists_const,
    pure_eq_ok_iff] at h
  obtain ⟨-, left, hleft, -, grown, hgrown, rfl⟩ := h
  have hmoved := (Chain.moved_putLamports hleft hgrown).eq_shift
  have htoken (a : Address) : (((c.putLamports source left).putLamports target grown).account
      a).loadToken = (c.account a).loadToken :=
    Account.loadToken_congr (by simp) (by simp)
  refine ⟨?_, ?_⟩
  · have hsub := Amount.sub?_eq_some_iff.1 hleft
    show amount.toNat ≤ (c.account source).lamports.toNat
    omega
  · simp only [Chain.balances, Balances.moveLamports, htoken, hmoved]

end SystemProgram

namespace TokenProgram

variable {c d : Chain} {source destination authority : Address} {amount : UInt64}
  {held receiving : TokenAccount}

theorem Handover.balances (h : Handover c d source destination amount held receiving) :
    d.balances = c.balances.moveTokens source destination amount.toNat := by
  obtain ⟨given, hgiven, hcontinues, hnative, hleft⟩ := h.given
  obtain ⟨taken, htaken, hcontinues', hnative', hgrown⟩ := h.taken
  obtain ⟨hheld, htitle⟩ := Chain.balances_of_loadToken h.loadedSource
  obtain ⟨hreceiving, htitle'⟩ := Chain.balances_of_loadToken h.loadedDestination
  obtain ⟨hgivenAmount, hgivenTitle⟩ := Chain.balances_of_loadToken hgiven
  obtain ⟨htakenAmount, htakenTitle⟩ := Chain.balances_of_loadToken htaken
  have hother {a : Address} (ha : a ≠ source) (ha' : a ≠ destination) :
      d.balances.tokens a = c.balances.tokens a ∧ d.balances.title? a = c.balances.title? a := by
    simp only [Chain.balances, h.loadToken_of_ne ha ha', and_self]
  ext a : 2
  · have hmoved := h.lamports.eq_shift
    have hwraps : (c.balances.title? source).any Title.wraps = held.native.isPresent := by
      rw [htitle]
      rfl
    show (d.account a).lamports.toNat = _
    simp only [Balances.moveTokens, hwraps]
    have hlamports : (d.account a).lamports.toNat = shift _ _ _ _ a := congrFun hmoved a
    rw [hlamports]
    split
    · rfl
    · rw [shift_zero]
      rfl
  · have hmoved : Moved c.balances.tokens d.balances.tokens source destination amount.toNat :=
      .of_ne h.ne (by rw [hheld, hgivenAmount, hleft]) (by rw [hreceiving, htakenAmount, hgrown])
        fun a ha ha' => (hother ha ha').1
    exact congrFun hmoved.eq_shift a
  · show d.balances.title? a = c.balances.title? a
    by_cases ha : a = source
    · rw [ha, hgivenTitle, htitle, TokenAccount.title, TokenAccount.title, hcontinues.mint_eq,
        hcontinues.owner_eq, hnative]
    · by_cases ha' : a = destination
      · rw [ha', htakenTitle, htitle', TokenAccount.title, TokenAccount.title, hcontinues'.mint_eq,
          hcontinues'.owner_eq, hnative']
      · exact (hother ha ha').2

theorem balances_transfer (hheld : (c.account source).loadToken = .ok held)
    (hreceiving : (c.account destination).loadToken = .ok receiving)
    (h : transfer c source destination authority amount = .ok d) :
    amount.toNat ≤ c.balances.tokens source ∧
      d.balances = c.balances.moveTokens source destination amount.toNat := by
  obtain ⟨-, henough, hmoved⟩ := of_transfer hheld hreceiving h
  refine ⟨by rwa [(Chain.balances_of_loadToken hheld).1], ?_⟩
  rcases hmoved with ⟨rfl, rfl⟩ | hhandover
  · rw [Balances.moveTokens_self]
  · exact hhandover.balances

end TokenProgram

end Disbursement
