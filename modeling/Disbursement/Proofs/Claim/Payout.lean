import Disbursement.Claim

/-!
# What an allocation is owed

`Payout.Owes` says what an allocation is owed without saying how it is computed: the amounts, the
mints they are in, and when they are native. `Payout.owes_iff` says that exactly
`Payout.ofAllocation` is owed, so that the two can stand for each other.
-/

namespace Disbursement

/-! ## Assets of a mint -/

namespace Asset

variable {mint other : Address}

theorem mint_ofMint (mint : Address) : (ofMint mint).mint = mint := by
  unfold ofMint
  split
  next h => rw [h]; rfl
  next => rfl

theorem ofMint_eq_native_iff : ofMint mint = .native ↔ mint = Address.nativeMint := by
  unfold ofMint
  split <;> simp_all

theorem ofMint_eq_token_iff :
    ofMint mint = .token other ↔ mint ≠ Address.nativeMint ∧ mint = other := by
  unfold ofMint
  split <;> simp_all

end Asset

/-! ## What is owed -/

/-- A leg moves an amount of a mint; it is native if and only if the mint is the native one. -/
structure Leg.Moves (leg : Leg) (mint : Address) (amount : UInt64) : Prop where
  mint_eq : leg.asset.mint = mint
  native_iff : leg.asset = .native ↔ mint = Address.nativeMint
  amount_eq : leg.amount = amount

theorem Leg.moves_iff {leg : Leg} {mint : Address} {amount : UInt64} :
    leg.Moves mint amount ↔ leg = ⟨.ofMint mint, amount⟩ := by
  constructor
  · rintro ⟨hmint, hnative, rfl⟩
    obtain ⟨asset, amount⟩ := leg
    congr
    cases asset with
    | native => exact (Asset.ofMint_eq_native_iff.2 (hnative.1 rfl)).symm
    | token mint' =>
      -- were the mint the native one, the token would have to be native
      have hne : mint ≠ Address.nativeMint := fun h => Asset.noConfusion (hnative.2 h)
      exact (Asset.ofMint_eq_token_iff.2 ⟨hne, hmint.symm⟩).symm
  · rintro rfl
    exact ⟨Asset.mint_ofMint mint, Asset.ofMint_eq_native_iff, rfl⟩

/-- The mint of the leaf is paid, or else that of the schedule, and the sending mint of the schedule
is asked for if the leaf asks for an amount. -/
structure Payout.Owes (payout : Payout) (s : Schedule) (a : Allocation) : Prop where
  receiving : payout.receiving.Moves (a.receivingMint.getD s.receivingMint) a.receivingAmount
  sending_iff : (∃ leg, payout.sending = some leg) ↔ 0 < a.sendingAmount
  sending : ∀ leg, payout.sending = some leg → leg.Moves s.sendingMint a.sendingAmount

theorem Payout.owes_iff {payout : Payout} {s : Schedule} {a : Allocation} :
    payout.Owes s a ↔ payout = .ofAllocation s a := by
  constructor
  · rintro ⟨hreceiving, hasked, hsending⟩
    obtain ⟨receiving, sending⟩ := payout
    unfold ofAllocation
    congr
    · exact Leg.moves_iff.1 hreceiving
    · split
      next hpositive =>
        obtain ⟨leg, rfl⟩ := hasked.2 hpositive
        rw [Leg.moves_iff.1 (hsending leg rfl)]
      next hzero =>
        cases sending with
        | none => rfl
        | some leg => exact absurd (hasked.1 ⟨leg, rfl⟩) hzero
  · rintro rfl
    refine ⟨Leg.moves_iff.2 rfl, ?_, fun leg hleg => ?_⟩
    · unfold ofAllocation
      split <;> simp_all
    · unfold ofAllocation at hleg
      split at hleg
      · exact Leg.moves_iff.2 (Option.some.inj hleg).symm
      · cases hleg

end Disbursement
