import Disbursement.Proofs.InPlace
import Disbursement.Proofs.Ledger.Run

/-!
# Transactions in place

An operation can also write the ledger step by step. Then a failure leaves behind what was written
before it: a claim whose second transfer is refused has already made the first one. Run as one
transaction (`InPlace.atomic`) such an operation restores the ledger it found.

* `Ledger.inPlace` is an operation in place, `Ledger.transact` the same as one transaction.
* `Ledger.start_moveInPlace`: a transfer that cannot be credited has been debited.
* `Ledger.transact_eq_perform`: the transaction is the operation that returns the ledger afterwards
  or fails. The proof compares the two step by step (`InPlace.Yields`).
-/

namespace Disbursement

/-- A computation that writes a ledger. -/
abbrev LedgerInPlace (α : Type) := InPlace Ledger Failure α

namespace InPlace

variable {α β : Type}

/-- Restore the ledger if the computation fails. -/
def atomic (f : LedgerInPlace α) : LedgerInPlace α := do
  let snapshot ← get
  try
    f
  catch failure =>
    set snapshot
    throw failure

/-- Read the ledger, compute the result and the ledger afterwards, and write it back at the end. -/
def atEnd (compute : Ledger → Except Failure (α × Ledger)) : LedgerInPlace α := do
  let (result, l) ← compute (← get)
  set l
  return result

end InPlace

namespace Ledger

open InPlace

/-- Write a balance less, then another one more. -/
def moveInPlace (source target mint : Address) (amount : UInt64) : LedgerInPlace Unit := do
  let left ← demand (Amount.sub? ((← get).balance source mint) amount)
    (Failure.refusal .insufficientVaultBalance)
  modify fun l => l.putBalance source mint left
  let grown ← demand (Amount.add? ((← get).balance target mint) amount)
    (Failure.refusal .arithmeticOverflow)
  modify fun l => l.putBalance target mint grown

/-- Both legs of a payout, one after the other. -/
def payOutInPlace (user signer sendingAccount : Address) (payout : Payout) :
    LedgerInPlace Unit := do
  match payout.sending with
  | some leg => moveInPlace user sendingAccount leg.asset.mint leg.amount
  | none => pure ()
  moveInPlace signer user payout.receiving.asset.mint payout.receiving.amount

/-- Take an amount out of custody. -/
def withdrawInPlace (caller vaultAddress mint recipient : Address) (amount : UInt64) :
    LedgerInPlace Unit := do
  let signer ← signerOf vaultAddress
  let vault ← ((← get).vault vaultAddress).mapError Failure.refusal
  (vault.requireAdmin caller).mapError Failure.refusal
  ensure (0 < amount) (Failure.refusal .invalidAmount)
  moveInPlace signer recipient mint amount

/-- Redeem a leaf: first the transfers, then the slot. -/
def redeemInPlace (user scheduleAddress : Address) (r : RedeemRequest) : LedgerInPlace Payout := do
  ((← get).passGate user r.entitlement).mapError Failure.refusal
  let schedule ← ((← get).schedule scheduleAddress).mapError Failure.refusal
  let found ← (← get).findMarker schedule r
  let settlement ← ((r.claim user).settle schedule (found.map Prod.snd) (← get).now).mapError
    Failure.refusal
  let signer ← signerOf schedule.vault
  payOutInPlace user signer schedule.sendingAccount settlement.payout
  modify fun l => l.writeBack scheduleAddress found settlement
  return settlement.payout

/-- An operation in place. All but the two that move balances write the ledger once, at their
end. -/
def inPlace : LedgerOperation → LedgerInPlace LedgerAnswer
  | .withdraw caller vault mint recipient amount => do
    withdrawInPlace caller vault mint recipient amount
    return .done
  | .redeem user schedule request => do
    let payout ← redeemInPlace user schedule request
    return .payout payout
  | operation => atEnd fun l => l.perform operation

/-- An operation in place, as one transaction. -/
def transact (l : Ledger) (operation : LedgerOperation) : Except Failure LedgerAnswer × Ledger :=
  (atomic (inPlace operation)).start l

end Ledger

/-! ## What a computation in place leaves -/

namespace InPlace

variable {α β : Type} {l : Ledger}

/-- The ledger that is left is the one that was computed; after the same refusal it is any. -/
inductive Leaves : Except Failure Unit × Ledger → Except Refusal Ledger → Prop where
  | done (m : Ledger) : Leaves (.ok (), m) (.ok m)
  | refused (refusal : Refusal) (m : Ledger) : Leaves (.error refusal, m) (.error refusal)

/-- The result and the ledger that are left are those that were computed; after the same failure the
ledger is any. -/
inductive Yields : Except Failure α × Ledger → Except Failure (α × Ledger) → Prop where
  | done (result : α) (m : Ledger) : Yields (.ok result, m) (.ok (result, m))
  | failed (failure : Failure) (m : Ledger) : Yields (.error failure, m) (.error failure)

theorem start_tryCatch {f : LedgerInPlace α} {handle : Failure → LedgerInPlace α} :
    (tryCatch f handle : LedgerInPlace α).start l = match f.start l with
      | (.ok result, m) => (.ok result, m)
      | (.error failure, m) => (handle failure).start m := by
  simp only [tryCatch, tryCatchThe, MonadExceptOf.tryCatch, ExceptT.tryCatch, ExceptT.mk, start,
    ExceptT.run, StateT.run_bind]
  rcases StateT.run f l with ⟨_ | _, m⟩ <;> rfl

theorem start_atomic {f : LedgerInPlace α} :
    (atomic f).start l = match f.start l with
      | (.ok result, m) => (.ok result, m)
      | (.error failure, _) => (.error failure, l) := by
  show (tryCatch f fun failure => do set l; throw failure : LedgerInPlace α).start l = _
  rw [start_tryCatch]
  rfl

/-! ## Composition -/

theorem Leaves.bind {f : LedgerInPlace Unit} {k : Unit → LedgerInPlace Unit}
    {x : Except Refusal Ledger} {y : Ledger → Except Refusal Ledger} (h : Leaves (f.start l) x)
    (hk : ∀ m, Leaves ((k ()).start m) (y m)) : Leaves ((f >>= k).start l) (x >>= y) := by
  rw [start_bind]
  generalize f.start l = left at h
  cases h with
  | done m => exact hk m
  | refused refusal m => exact .refused refusal m

theorem Leaves.yields_bind {f : LedgerInPlace Unit} {k : Unit → LedgerInPlace β}
    {x : Except Refusal Ledger} {y : Ledger → Except Failure (β × Ledger)}
    (h : Leaves (f.start l) x)
    (hk : ∀ m, Yields ((k ()).start m) (y m)) :
    Yields ((f >>= k).start l) ((liftM x : Except Failure Ledger) >>= y) := by
  rw [start_bind]
  generalize f.start l = left at h
  cases h with
  | done m => exact hk m
  | refused refusal m => exact .failed refusal m

/-- A check reads nothing that the computation in place would not find. -/
theorem yields_check {check : Except Failure α} {k : α → LedgerInPlace β}
    {y : α → Except Failure (β × Ledger)} (hk : ∀ value, Yields ((k value).start l) (y value)) :
    Yields ((liftM check >>= k : LedgerInPlace β).start l) (check >>= y) := by
  cases check with
  | error failure => exact .failed failure l
  | ok value => exact hk value

theorem yields_get {k : Ledger → LedgerInPlace β} {x : Except Failure (β × Ledger)}
    (h : Yields ((k l).start l) x) : Yields ((get >>= k : LedgerInPlace β).start l) x :=
  h

theorem yields_atEnd (compute : Ledger → Except Failure (α × Ledger)) :
    Yields ((atEnd compute).start l) (compute l) := by
  have hstart : (atEnd compute).start l = match compute l with
      | .ok (result, m) => (.ok result, m)
      | .error failure => (.error failure, l) := by
    show (liftM (compute l) >>= fun (result, m) => do
      set m
      return result : LedgerInPlace α).start l = _
    cases compute l <;> rfl
  rw [hstart]
  cases compute l with
  | error failure => exact .failed failure l
  | ok result => exact .done result.1 result.2

end InPlace

namespace Ledger

open InPlace

variable {l m : Ledger} {operation : LedgerOperation}

/-- A transfer that cannot be credited has been debited already. -/
theorem start_moveInPlace (source target mint : Address) (amount : UInt64) :
    (moveInPlace source target mint amount).start l =
      match Amount.sub? (l.balance source mint) amount with
      | none => (.error (.refusal .insufficientVaultBalance), l)
      | some left =>
        match Amount.add? ((l.putBalance source mint left).balance target mint) amount with
        | none => (.error (.refusal .arithmeticOverflow), l.putBalance source mint left)
        | some grown => (.ok (), (l.putBalance source mint left).putBalance target mint grown) := by
  show (liftM (demand (Amount.sub? (l.balance source mint) amount)
    (Failure.refusal .insufficientVaultBalance)) >>= _ : LedgerInPlace Unit).start l = _
  cases Amount.sub? (l.balance source mint) amount with
  | none => rfl
  | some left =>
    show (liftM (demand (Amount.add? ((l.putBalance source mint left).balance target mint) amount)
      (Failure.refusal .arithmeticOverflow)) >>= _ : LedgerInPlace Unit).start _ = _
    dsimp only
    cases Amount.add? ((l.putBalance source mint left).balance target mint) amount with
    | none => rfl
    | some grown => rfl

theorem leaves_moveInPlace (source target mint : Address) (amount : UInt64) :
    Leaves ((moveInPlace source target mint amount).start l)
      (l.move source target mint amount) := by
  rw [start_moveInPlace, move]
  cases Amount.sub? (l.balance source mint) amount with
  | none => exact .refused _ l
  | some left =>
    show Leaves _ (demand (Amount.add? ((l.putBalance source mint left).balance target mint) amount)
      .arithmeticOverflow >>= _)
    dsimp only
    cases Amount.add? ((l.putBalance source mint left).balance target mint) amount with
    | none => exact .refused _ _
    | some grown => exact .done _

theorem leaves_payOutInPlace (user signer sendingAccount : Address) (payout : Payout) :
    Leaves ((payOutInPlace user signer sendingAccount payout).start l)
      (l.payOut user signer sendingAccount payout) := by
  unfold payOut payOutInPlace
  cases payout.sending with
  | none => exact leaves_moveInPlace ..
  | some leg => exact (leaves_moveInPlace ..).bind fun m => leaves_moveInPlace ..

theorem yields_withdraw (caller vault mint recipient : Address) (amount : UInt64) :
    Yields ((inPlace (.withdraw caller vault mint recipient amount)).start l)
      (l.perform (.withdraw caller vault mint recipient amount)) := by
  simp only [inPlace, withdrawInPlace, perform, withdraw, bind_assoc]
  refine yields_check fun signer => yields_get <| yields_check fun found => yields_check fun _ =>
    yields_check fun _ => ?_
  exact (leaves_moveInPlace ..).yields_bind fun m => Yields.done LedgerAnswer.done m

theorem yields_redeem (user schedule : Address) (request : RedeemRequest) :
    Yields ((inPlace (.redeem user schedule request)).start l)
      (l.perform (.redeem user schedule request)) := by
  simp only [inPlace, redeemInPlace, perform, redeem, bind_assoc]
  refine yields_get <| yields_check fun _ => yields_get <| yields_check fun s => yields_get <|
    yields_check fun found => yields_get <| yields_check fun settlement =>
      yields_check fun signer => ?_
  refine (leaves_payOutInPlace ..).yields_bind fun m => ?_
  exact Yields.done (LedgerAnswer.payout settlement.payout) (m.writeBack schedule found settlement)

theorem yields_inPlace : Yields ((inPlace operation).start l) (l.perform operation) := by
  cases operation with
  | withdraw caller vault mint recipient amount => exact yields_withdraw ..
  | redeem user schedule request => exact yields_redeem ..
  | _ => exact yields_atEnd fun l => l.perform _

/-- In place, an operation fails as it does otherwise, with the ledger in some state. -/
theorem start_inPlace_of_error {failure : Failure} (h : l.perform operation = .error failure) :
    ∃ partly, (inPlace operation).start l = (.error failure, partly) := by
  have hyields : Yields ((inPlace operation).start l) (l.perform operation) := yields_inPlace
  rw [h] at hyields
  generalize (inPlace operation).start l = left at hyields
  cases hyields with
  | failed failure m => exact ⟨m, rfl⟩

/-- Operations in place, as transactions, are the operations that return a ledger or fail. -/
theorem transact_eq_perform : l.transact operation = match l.perform operation with
    | .ok (answer, m) => (.ok answer, m)
    | .error failure => (.error failure, l) := by
  have hyields : Yields ((inPlace operation).start l) (l.perform operation) := yields_inPlace
  rw [transact, start_atomic]
  generalize (inPlace operation).start l = left at hyields
  generalize l.perform operation = computed at hyields
  cases hyields with
  | done answer m => rfl
  | failed failure m => rfl

/-- A claimant pays two of a mint and is to receive three from an empty custody: without the
transaction, the two would be gone. -/
example :
    let user := Bytes32.ofNatBE 1
    let signer := Bytes32.ofNatBE 2
    let collector := Bytes32.ofNatBE 3
    let mint := Bytes32.ofNatBE 4
    let payout : Payout := {
      receiving := { asset := .token mint, amount := 3 }
      sending := some { asset := .token mint, amount := 2 } }
    let left := (payOutInPlace user signer collector payout).start (new.fund user mint 5)
    left.1 = .error (Failure.refusal .insufficientVaultBalance) ∧ left.2.balance user mint = 3 ∧
      left.2.balance collector mint = 2 := by
  exact ⟨rfl, rfl, rfl⟩

/-! ## The records after a transaction -/

/-- What a transaction leaves of the records is what the operation writes, or the records as they
were. -/
theorem arena_transact (l : Ledger) (operation : LedgerOperation) :
    (l.transact operation).2.arena = l.arena ∨
      ∃ answer, Writes l operation answer (l.transact operation).2.arena := by
  rw [transact_eq_perform]
  cases hperform : l.perform operation with
  | error failure => exact .inl rfl
  | ok result => exact .inr ⟨result.1, writes_perform hperform⟩

theorem sound_transact (hsound : l.arena.Sound) : (l.transact operation).2.arena.Sound := by
  rcases arena_transact l operation with hkept | ⟨answer, hwrites⟩
  · rw [hkept]
    exact hsound
  · exact hwrites.sound hsound

theorem evolves_transact (hsound : l.arena.Sound) :
    l.arena.Evolves (l.transact operation).2.arena := by
  rcases arena_transact l operation with hkept | ⟨answer, hwrites⟩
  · rw [hkept]
    exact .refl _
  · exact hwrites.evolves hsound

end Ledger

end Disbursement
