import Disbursement.Proofs.Chain.Flow
import Disbursement.Proofs.Claim.Solvency
import Disbursement.Proofs.Ledger.Rollback

/-!
# The accounts of a ledger

What the owners hold of a mint is a column of natural numbers, and a transfer moves a part of one
entry to another one, which may be the same. Custody, claimants and the accounts that collect the
sending legs are owners like any other, so the sum of a column never changes, whoever coincides with
whom.

* `Transfer.Carries` is one transfer; `Transfer.Carries.sum_eq` keeps the sums.
* `Ledger.carries_move`: moving an amount is such a transfer.
* `Ledger.Accounted` says, for each operation, by which transfers the columns change.
* `Ledger.total_after`: only funding makes assets, so the totals outlast a whole run without it.
* `Ledger.accounts_balance` is the result, also for operations that fail half-way.
-/

namespace Disbursement

/-! ## Transfers -/

/-- What every owner holds of every mint: a column for each mint. -/
abbrev Holdings := Address → Address → ℕ

/-- An amount of a mint that goes from one owner to another. -/
structure Transfer where
  source : Address
  target : Address
  mint : Address
  amount : UInt64

/-- The source can afford the transfer, and the column of the mint changes by it. The other columns
stay as they are. -/
structure Transfer.Carries (t : Transfer) (before after : Holdings) : Prop where
  affordable : t.amount.toNat ≤ before t.mint t.source
  moved : Moved (before t.mint) (after t.mint) t.source t.target t.amount.toNat
  other : ∀ {mint}, mint ≠ t.mint → after mint = before mint

namespace Transfer.Carries

variable {t : Transfer} {before after : Holdings}

/-- What the source has less, if it is not the target. -/
theorem source_add (h : t.Carries before after) (hne : t.source ≠ t.target) (mint : Address) :
    after mint t.source + (if t.mint = mint then t.amount.toNat else 0) = before mint t.source := by
  by_cases hmint : t.mint = mint
  · subst hmint
    have hmoved := h.moved t.source
    rw [Pi.single_eq_same, Pi.single_eq_of_ne hne] at hmoved
    rw [if_pos rfl]
    exact hmoved
  · rw [if_neg hmint, h.other (Ne.symm hmint)]
    rfl

/-- What anybody else has more. -/
theorem eq_add (h : t.Carries before after) {owner : Address} (hne : owner ≠ t.source)
    (mint : Address) : after mint owner =
      before mint owner + (if t.mint = mint ∧ owner = t.target then t.amount.toNat else 0) := by
  by_cases hmint : t.mint = mint
  · subst hmint
    have hmoved := h.moved owner
    rw [Pi.single_eq_of_ne hne, Pi.single_apply] at hmoved
    simpa using hmoved
  · rw [h.other (Ne.symm hmint), if_neg fun hboth => hmint hboth.1]
    rfl

/-- A transfer makes nothing and loses nothing. -/
theorem sum_eq (h : t.Carries before after) (mint : Address) :
    ∑ owner, after mint owner = ∑ owner, before mint owner := by
  by_cases hmint : mint = t.mint
  · rw [hmint]
    exact h.moved.sum_eq
  · rw [h.other hmint]

end Transfer.Carries

/-! ## Balances -/

namespace Ledger

variable {l m : Ledger} {operation : LedgerOperation} {answer : LedgerAnswer}
  {source target mint user signer : Address} {amount : UInt64} {s : Schedule} {a : Allocation}

/-- What the owners hold, in natural numbers. -/
def holdings (l : Ledger) : Holdings := fun mint owner =>
  (l.balance owner mint).toNat

/-- What all owners hold of a mint together. -/
noncomputable def total (l : Ledger) (mint : Address) : ℕ :=
  ∑ owner, l.holdings mint owner

theorem holdings_putBalance (l : Ledger) (owner mint : Address) (amount : UInt64)
    (mint' owner' : Address) : (l.putBalance owner mint amount).holdings mint' owner' =
      if owner' = owner ∧ mint' = mint then amount.toNat else l.holdings mint' owner' :=
  apply_ite UInt64.toNat _ _ _

/-- Moving an amount is a transfer, whether or not source and target coincide. -/
theorem carries_move (h : l.move source target mint amount = .ok m) :
    Transfer.Carries { source, target, mint, amount } l.holdings m.holdings := by
  simp only [move, bind_eq_ok_iff, demand_eq_ok_iff, pure_eq_ok_iff, Amount.sub?_eq_some_iff,
    Amount.add?_eq_some_iff] at h
  obtain ⟨left, hleft, grown, hgrown, rfl⟩ := h
  have hsource : l.holdings mint source = amount.toNat + left.toNat := hleft
  have htarget : (l.putBalance source mint left).holdings mint target + amount.toNat =
    grown.toNat := hgrown
  refine ⟨?_, ?_, fun {other} hother => ?_⟩
  · show amount.toNat ≤ l.holdings mint source
    omega
  · have hcolumn : ((l.putBalance source mint left).putBalance target mint grown).holdings mint =
        fun a => if a = target then grown.toNat else if a = source then left.toNat
          else l.holdings mint a := by
      funext a
      simp only [holdings_putBalance, and_true]
    simp only [holdings_putBalance, and_true] at htarget
    show Moved (l.holdings mint) _ source target amount.toNat
    rw [hcolumn]
    exact .of_writes hsource htarget
  · funext owner
    simp only [holdings_putBalance, show other ≠ mint from hother, and_false, if_false]

/-- An amount that is there moves to another owner who has room for it. -/
theorem exists_move (hne : source ≠ target) (hheld : amount.toNat ≤ l.holdings mint source)
    (hroom : l.holdings mint target + amount.toNat < 2 ^ 64) :
    ∃ m, l.move source target mint amount = .ok m := by
  have hleft :
      Amount.sub? (l.balance source mint) amount = some (l.balance source mint - amount) := by
    rw [Amount.sub?, if_pos (UInt64.le_iff_toNat_le.2 hheld)]
  have hkept (left : UInt64) : (l.putBalance source mint left).balance target mint =
      l.balance target mint := by
    show (if target = source ∧ mint = mint then left else l.balance target mint) = _
    rw [if_neg fun h => hne h.1.symm]
  have hgrown : Amount.add? (l.balance target mint) amount =
      some (l.balance target mint + amount) :=
    if_pos hroom
  simp only [move, hleft, demand, ok_bind, hkept, hgrown]
  exact ⟨_, rfl⟩

/-! ## The legs of a redemption -/

/-- The receiving leg: from custody to the claimant, in the mint that the allocation names or else
in that of the schedule. -/
def receivingTransfer (s : Schedule) (signer user : Address) (a : Allocation) : Transfer where
  source := signer
  target := user
  mint := a.receivingMint.getD s.receivingMint
  amount := a.receivingAmount

/-- The sending leg: from the claimant to the account that collects for the schedule. -/
def sendingTransfer (s : Schedule) (user : Address) (a : Allocation) : Transfer where
  source := user
  target := s.sendingAccount
  mint := s.sendingMint
  amount := a.sendingAmount

/-- The legs of an allocation change hands, first the sending one if there is one. -/
theorem carries_payOut
    (h : l.payOut user signer s.sendingAccount (.ofAllocation s a) = .ok m) :
    ∃ collected,
      (if 0 < a.sendingAmount then (sendingTransfer s user a).Carries l.holdings collected
        else collected = l.holdings) ∧
      (receivingTransfer s signer user a).Carries collected m.holdings := by
  unfold payOut Payout.ofAllocation at h
  dsimp only at h
  by_cases hsending : 0 < a.sendingAmount
  · rw [if_pos hsending] at h
    obtain ⟨collected, hcollected, hpaid⟩ := bind_eq_ok_iff.1 h
    dsimp only at hcollected
    rw [Asset.mint_ofMint] at hcollected hpaid
    refine ⟨collected.holdings, ?_, carries_move hpaid⟩
    rw [if_pos hsending]
    exact carries_move hcollected
  · rw [if_neg hsending] at h
    obtain ⟨_, ⟨⟩, hpaid⟩ := bind_eq_ok_iff.1 h
    rw [Asset.mint_ofMint] at hpaid
    refine ⟨l.holdings, ?_, carries_move hpaid⟩
    rw [if_neg hsending]

/-- An allocation that asks for nothing is paid by its receiving leg alone. -/
theorem payOut_of_free {sendingAccount : Address} (hfree : a.sendingAmount = 0) :
    l.payOut user signer sendingAccount (.ofAllocation s a) =
      l.move signer user (a.receivingMint.getD s.receivingMint) a.receivingAmount := by
  have hnone : ¬0 < a.sendingAmount := by
    rw [hfree]
    decide
  unfold payOut Payout.ofAllocation
  rw [if_neg hnone]
  show l.move signer user (Asset.ofMint _).mint a.receivingAmount = _
  rw [Asset.mint_ofMint]

/-! ## All operations -/

/-- How the holdings change when an operation succeeds. -/
inductive Accounted (l : Ledger) : LedgerOperation → Holdings → Prop where
  /-- One transfer from the custody signer of the vault. -/
  | withdraws {caller vault mint recipient : Address} {amount : UInt64} {after : Holdings}
      (signer : Address) (derived : signerOf vault = .ok signer)
      (carries : Transfer.Carries { source := signer, target := recipient, mint, amount }
        l.holdings after) :
      Accounted l (.withdraw caller vault mint recipient amount) after
  /-- The sending leg, if something is to be sent, and then the receiving leg. -/
  | redeems {user address : Address} {r : RedeemRequest} {after : Holdings} (s : Schedule)
      (signer : Address) (collected : Holdings) (found : l.schedule? address = some s)
      (derived : signerOf s.vault = .ok signer)
      (sending : if 0 < r.sendingAmount then
          (sendingTransfer s user (r.allocation user)).Carries l.holdings collected
        else collected = l.holdings)
      (receiving : (receivingTransfer s signer user (r.allocation user)).Carries collected after) :
      Accounted l (.redeem user address r) after
  /-- Nothing is moved. -/
  | keeps {operation : LedgerOperation} (h : operation.keepsBalances = true) :
      Accounted l operation l.holdings

theorem Accounted.sum_eq {after : Holdings} (h : Accounted l operation after) (mint : Address) :
    ∑ owner, after mint owner = l.total mint := by
  cases h with
  | withdraws signer derived carries => exact carries.sum_eq mint
  | redeems s signer collected found derived sending receiving =>
    refine (receiving.sum_eq mint).trans ?_
    split at sending
    next => exact sending.sum_eq mint
    next => rw [sending]; rfl
  | keeps => rfl

theorem accounted_perform (h : l.perform operation = .ok (answer, m))
    (hfund : ∀ owner mint amount, operation ≠ .fund owner mint amount) :
    Accounted l operation m.holdings := by
  cases operation with
  | fund owner mint amount => exact absurd rfl (hfund owner mint amount)
  | withdraw caller vault mint recipient amount =>
    simp only [perform, withdraw, bind_eq_ok_iff, pure_eq_ok_iff, Prod.mk.injEq,
      Program.lift_refusal_eq_ok_iff] at h
    obtain ⟨_, ⟨signer, hsigner, v, -, -, -, -, -, hmove⟩, rfl, rfl⟩ := h
    exact .withdraws signer hsigner (carries_move hmove)
  | redeem user address r =>
    obtain ⟨⟨payout, m'⟩, hredeem, hanswer⟩ := bind_eq_ok_iff.1 h
    obtain ⟨rfl, rfl⟩ := Prod.mk.inj (pure_eq_ok_iff.1 hanswer)
    obtain ⟨s, slot, settlement, paid, hredeemed, -⟩ := of_redeem hredeem
    obtain ⟨signer, hsigner, hpaid⟩ := hredeemed.payOut
    rw [Claim.payout_of_settle hredeemed.settled] at hpaid
    obtain ⟨collected, hsending, hreceiving⟩ := carries_payOut hpaid
    have hkept : m'.holdings = paid.holdings := by
      unfold holdings
      rw [hredeemed.stored, balance_writeBack]
    rw [hkept]
    exact .redeems s signer collected (schedule?_eq_some_iff.2 hredeemed.loaded) hsigner hsending
      hreceiving
  | _ =>
    have hkept : m.holdings = l.holdings := by
      unfold holdings
      rw [balance_perform h rfl]
    rw [hkept]
    exact .keeps rfl

theorem total_transact (hfund : ∀ owner mint amount, operation ≠ .fund owner mint amount)
    (mint : Address) : (l.transact operation).2.total mint = l.total mint := by
  rw [transact_eq_perform]
  cases hperform : l.perform operation with
  | error failure => rfl
  | ok result => exact (accounted_perform hperform hfund).sum_eq mint

/-! ## Runs -/

/-- The ledger after a list of operations, each of them a transaction. -/
def after (l : Ledger) (operations : List LedgerOperation) : Ledger :=
  operations.foldl (fun l operation => (l.transact operation).2) l

/-- What all owners hold together outlasts every run in which nothing is funded. -/
theorem total_after {operations : List LedgerOperation}
    (hfund : ∀ owner mint amount, .fund owner mint amount ∉ operations) (mint : Address) :
    (l.after operations).total mint = l.total mint := by
  induction operations generalizing l with
  | nil => rfl
  | cons operation operations ih =>
    have hhead : ∀ owner mint amount, operation ≠ .fund owner mint amount := by
      rintro owner mint' amount rfl
      exact hfund owner mint' amount List.mem_cons_self
    have htail : ∀ owner mint amount, .fund owner mint amount ∉ operations :=
      fun owner mint amount hmem => hfund owner mint amount (List.mem_cons_of_mem _ hmem)
    calc (l.after (operation :: operations)).total mint
        = ((l.transact operation).2.after operations).total mint := rfl
      _ = (l.transact operation).2.total mint := ih htail
      _ = l.total mint := total_transact hhead mint

/-! ## The result -/

/-- The accounts of a ledger balance. Whatever is done with it, apart from funding, the sum over all
owners stays the same for every mint, from one operation to the next and over every run. An
operation that fails leaves the ledger as it was, although in place it may have written something
before. An operation that succeeds changes the holdings by nothing but its transfers: a redemption
by its sending leg, if it has one, and then its receiving leg, a withdrawal by one transfer out of
custody, the others not at all. -/
theorem accounts_balance (l : Ledger) (operation : LedgerOperation) :
    ((∀ owner mint amount, operation ≠ .fund owner mint amount) →
      ∀ mint, (l.transact operation).2.total mint = l.total mint) ∧
    (∀ operations, (∀ owner mint amount, .fund owner mint amount ∉ operations) →
      ∀ mint, (l.after operations).total mint = l.total mint) ∧
    (∀ failure, l.perform operation = .error failure →
      (∃ partly, (inPlace operation).start l = (.error failure, partly)) ∧
        l.transact operation = (.error failure, l)) ∧
    (∀ answer m, l.perform operation = .ok (answer, m) → l.transact operation = (.ok answer, m) ∧
      ((∀ owner mint amount, operation ≠ .fund owner mint amount) →
        Accounted l operation m.holdings)) := by
  cases hperform : l.perform operation with
  | error failure =>
    have hkept : l.transact operation = (.error failure, l) := by
      rw [transact_eq_perform, hperform]
    refine ⟨total_transact, fun _ => total_after, ?_, ?_⟩
    · rintro _ ⟨⟩
      exact ⟨start_inPlace_of_error hperform, hkept⟩
    · rintro _ _ ⟨⟩
  | ok result =>
    obtain ⟨answer, m⟩ := result
    have hdone : l.transact operation = (.ok answer, m) := by
      rw [transact_eq_perform, hperform]
    refine ⟨total_transact, fun _ => total_after, ?_, ?_⟩
    · rintro _ ⟨⟩
    · rintro _ _ ⟨⟩
      exact ⟨hdone, accounted_perform hperform⟩

end Ledger

end Disbursement
