import Disbursement.Chain.SystemProgram
import Disbursement.Chain.TokenProgram
import Disbursement.Proofs.Chain.Spares
import Disbursement.Proofs.Token.Account
import Mathlib.Algebra.BigOperators.Group.Finset.Piecewise
import Mathlib.Algebra.Group.Pi.Basic
import Mathlib.Algebra.GroupWithZero.Nat
import Mathlib.Data.Fintype.EquivFin

/-!
# Flows of assets

Assets are only moved, never made or lost. `Chain.Flow` bounds what a change of the chain takes out
of each account, in lamports and in tokens, and says that the totals over all accounts stay. Flows
add up (`Chain.Flow.trans`).

* `Chain.Pays` is a flow that is nothing but a payment: no account changes hands, and the data of an
  account change only in the hands of the token program. `SystemProgram.pays_transfer` and
  `TokenProgram.pays_transfer` are the two payments there are.
* `Chain.Opens` is a flow that turns an unused account into one of this program:
  `SystemProgram.opens_createAccount`, `SystemProgram.opens_assign_allocate`.
-/

namespace Disbursement

/-! ## Totals -/

/-- There are finitely many addresses, so what all accounts hold can be added up. -/
noncomputable instance : Fintype Bytes32 :=
  Fintype.ofInjective
    (fun b => (⟨Bytes.toNatLE b.toList, b.length_toList ▸ Bytes.toNatLE_lt b.toList⟩ :
      Fin (256 ^ 32)))
    fun a b h => by
      have hnat : Bytes.toNatLE a.toList = Bytes.toNatLE b.toList := Fin.mk.inj h
      have ha := Bytes.ofNatLE_toNatLE a.toList
      have hb := Bytes.ofNatLE_toNatLE b.toList
      rw [a.length_toList, hnat] at ha
      rw [b.length_toList] at hb
      exact Bytes32.ext (ha.symm.trans hb)

/-- The amount of the token of a mint that an account holds. -/
def Account.tokens (a : Account) (mint : Address) : ℕ :=
  match a.loadToken with
  | .ok t => if t.mint = mint then t.amount.toNat else 0
  | .error _ => 0

namespace Account

variable {a b : Account} {t : TokenAccount} {mint : Address}

theorem tokens_of_loadToken (h : a.loadToken = .ok t) :
    a.tokens mint = if t.mint = mint then t.amount.toNat else 0 := by
  rw [tokens, h]

theorem tokens_congr (h : a.loadToken = b.loadToken) : a.tokens mint = b.tokens mint := by
  rw [tokens, tokens, h]

end Account

namespace Chain

/-- The lamports of all accounts. -/
noncomputable def totalLamports (c : Chain) : ℕ :=
  ∑ a, (c.account a).lamports.toNat

/-- The tokens of a mint in all accounts. -/
noncomputable def totalTokens (c : Chain) (mint : Address) : ℕ :=
  ∑ a, (c.account a).tokens mint

end Chain

/-! ## One amount -/

/-- An amount is moved from one address to another, which may be the same. -/
def Moved (before after : Address → ℕ) (source target : Address) (amount : ℕ) : Prop :=
  ∀ a, after a + (Pi.single source amount : Address → ℕ) a =
    before a + (Pi.single target amount : Address → ℕ) a

namespace Moved

variable {f g : Address → ℕ} {source target : Address} {amount : ℕ}

theorem self (f : Address → ℕ) (source : Address) (amount : ℕ) : Moved f f source source amount :=
  fun _ => rfl

theorem of_ne (hne : source ≠ target) (hsource : f source = amount + g source)
    (htarget : f target + amount = g target)
    (hother : ∀ a, a ≠ source → a ≠ target → g a = f a) : Moved f g source target amount := by
  intro a
  by_cases ha : a = source
  · subst ha
    rw [Pi.single_eq_same, Pi.single_eq_of_ne hne]
    omega
  · rw [Pi.single_eq_of_ne ha]
    by_cases ha' : a = target
    · rw [ha', Pi.single_eq_same]
      omega
    · rw [Pi.single_eq_of_ne ha', hother a ha ha']

/-- First the source is written, with what is left of it, then the target. -/
theorem of_writes {left grown : ℕ} (hleft : f source = amount + left)
    (hgrown : (if target = source then left else f target) + amount = grown) :
    Moved f (fun a => if a = target then grown else if a = source then left else f a) source target
      amount := by
  by_cases heq : source = target
  · subst heq
    rw [if_pos rfl] at hgrown
    have hsame : (fun a => if a = source then grown else if a = source then left else f a) = f := by
      funext a
      split
      next ha =>
        rw [ha]
        omega
      next => rfl
    rw [hsame]
    exact .self _ _ _
  · rw [if_neg (Ne.symm heq)] at hgrown
    refine .of_ne heq ?_ ?_ fun a ha ha' => ?_
    · rw [if_neg heq, if_pos rfl]
      exact hleft
    · rw [if_pos rfl]
      exact hgrown
    · rw [if_neg ha', if_neg ha]

theorem le (h : Moved f g source target amount) (a : Address) :
    f a ≤ g a + (Pi.single source amount : Address → ℕ) a := by
  rw [h a]
  exact Nat.le_add_right _ _

theorem sum_eq (h : Moved f g source target amount) : ∑ a, g a = ∑ a, f a := by
  have hsum : ∑ a, (g a + (Pi.single source amount : Address → ℕ) a) =
      ∑ a, (f a + (Pi.single target amount : Address → ℕ) a) :=
    Finset.sum_congr rfl fun a _ => h a
  simp only [Finset.sum_add_distrib, Finset.sum_pi_single', Finset.mem_univ, if_true] at hsum
  omega

end Moved

/-! ## Flows -/

namespace Chain

variable {c d e : Chain} {lamports lamports' tokens tokens' : Address → ℕ} {target : Address}
  {space : ℕ}

/-- At most so many lamports leave each account that the token program does not own, and at most so
many tokens each token account; a token account stays one of its mint and its owner. The totals
stay. -/
structure Flow (before after : Chain) (lamports tokens : Address → ℕ) : Prop where
  foreign : ∀ {a : Address}, (before.account a).owner ≠ Address.tokenProgram →
    (after.account a).owner ≠ Address.tokenProgram
  lamports_le : ∀ {a : Address}, (before.account a).owner ≠ Address.tokenProgram →
    (before.account a).lamports.toNat ≤ (after.account a).lamports.toNat + lamports a
  tokens_le : ∀ {a : Address} {t : TokenAccount}, (before.account a).loadToken = .ok t →
    ∃ u, (after.account a).loadToken = .ok u ∧ t.Continues u ∧
      t.amount.toNat ≤ u.amount.toNat + tokens a
  totalLamports_eq : after.totalLamports = before.totalLamports
  totalTokens_eq : ∀ mint, after.totalTokens mint = before.totalTokens mint

namespace Flow

theorem trans (h : c.Flow d lamports tokens) (h' : d.Flow e lamports' tokens') :
    c.Flow e (lamports + lamports') (tokens + tokens') where
  foreign hforeign := h'.foreign (h.foreign hforeign)
  lamports_le {a} hforeign := by
    have hle := h.lamports_le hforeign
    have hle' := h'.lamports_le (h.foreign hforeign)
    rw [Pi.add_apply]
    omega
  tokens_le {a t} ht := by
    obtain ⟨u, hu, hcontinues, hle⟩ := h.tokens_le ht
    obtain ⟨w, hw, hcontinues', hle'⟩ := h'.tokens_le hu
    refine ⟨w, hw, hcontinues.trans hcontinues', ?_⟩
    rw [Pi.add_apply]
    omega
  totalLamports_eq := h'.totalLamports_eq.trans h.totalLamports_eq
  totalTokens_eq mint := (h'.totalTokens_eq mint).trans (h.totalTokens_eq mint)

/-- Nothing moves as long as lamports and token accounts are the same. -/
theorem of_eq (howner : ∀ a, (c.account a).owner ≠ Address.tokenProgram →
      (d.account a).owner ≠ Address.tokenProgram)
    (hlamports : ∀ a, (d.account a).lamports = (c.account a).lamports)
    (htokens : ∀ a, (d.account a).loadToken = (c.account a).loadToken) :
    c.Flow d lamports tokens where
  foreign := howner _
  lamports_le {a} _ := by rw [hlamports a]; exact Nat.le_add_right _ _
  tokens_le {a t} ht := ⟨t, (htokens a).trans ht, .refl t, Nat.le_add_right _ _⟩
  totalLamports_eq := Finset.sum_congr rfl fun a _ => by rw [hlamports a]
  totalTokens_eq mint := Finset.sum_congr rfl fun a _ => Account.tokens_congr (htokens a)

theorem refl (c : Chain) : c.Flow c lamports tokens :=
  .of_eq (fun _ => id) (fun _ => rfl) fun _ => rfl

/-- Storing a record in an account of this program moves nothing. -/
theorem of_storeRecord {α : Type} [Record α] {value : α} (hown : (c.account target).isOwn)
    (h : c.storeRecord target value = .ok d) : c.Flow d lamports tokens :=
  .of_eq (fun a hforeign => (owner_storeRecord h a).symm ▸ hforeign) (lamports_storeRecord h)
    (loadToken_storeRecord hown h)

end Flow

/-- A flow that is nothing but a payment. -/
structure Pays (before after : Chain) (lamports tokens : Address → ℕ) : Prop
    extends Flow before after lamports tokens where
  owner_eq : ∀ a, (after.account a).owner = (before.account a).owner
  data_eq : ∀ {a : Address}, (before.account a).owner ≠ Address.tokenProgram →
    (after.account a).data = (before.account a).data

namespace Pays

theorem refl (c : Chain) : c.Pays c lamports tokens where
  toFlow := .refl c
  owner_eq _ := rfl
  data_eq _ := rfl

theorem trans (h : c.Pays d lamports tokens) (h' : d.Pays e lamports' tokens') :
    c.Pays e (lamports + lamports') (tokens + tokens') where
  toFlow := h.toFlow.trans h'.toFlow
  owner_eq a := (h'.owner_eq a).trans (h.owner_eq a)
  data_eq hforeign := (h'.data_eq (h.foreign hforeign)).trans (h.data_eq hforeign)

theorem agreesOff (h : c.Pays d lamports tokens) : c.AgreesOff d [] := by
  intro a _
  refine ⟨by rw [Account.isOwn, Account.isOwn, h.owner_eq a], fun hown => h.data_eq ?_⟩
  rw [hown]
  exact Address.tokenProgram_ne_program.symm

theorem spares (h : c.Pays d lamports tokens) : c.Spares d :=
  h.agreesOff.spares fun _ hmem => absurd hmem List.not_mem_nil

end Pays

/-- A flow of lamports that turns an unused account into one of this program, with data that are all
zero. -/
structure Opens (before after : Chain) (target : Address) (space : ℕ)
    (lamports : Address → ℕ) : Prop
    extends Flow before after lamports 0 where
  vacant : (before.account target).owner = Address.systemProgram
  isOwn : (after.account target).isOwn
  data : (after.account target).data = List.replicate space 0
  owner_eq : ∀ {a : Address}, a ≠ target → (after.account a).owner = (before.account a).owner
  data_eq : ∀ {a : Address}, a ≠ target → (before.account a).owner ≠ Address.tokenProgram →
    (after.account a).data = (before.account a).data

namespace Opens

theorem not_isOwn (h : c.Opens d target space lamports) : ¬(c.account target).isOwn :=
  Account.not_isOwn_of_owner_eq h.vacant

theorem agreesOff (h : c.Opens d target space lamports) : c.AgreesOff d [target] := by
  intro a hmem
  have hne : a ≠ target := List.ne_of_not_mem_cons hmem
  refine ⟨by rw [Account.isOwn, Account.isOwn, h.owner_eq hne], fun hown => h.data_eq hne ?_⟩
  rw [hown]
  exact Address.tokenProgram_ne_program.symm

/-- What is stored in the new account moves nothing more. -/
theorem flow_storeRecord {α : Type} [Record α] {value : α} (h : c.Opens d target space lamports)
    (hstore : d.storeRecord target value = .ok e) : c.Flow e lamports 0 := by
  have hstill : d.Flow e 0 0 := .of_storeRecord h.isOwn hstore
  exact h.toFlow.trans hstill

/-- The account may be paid for before it is opened. -/
theorem of_pays (h : c.Pays d lamports 0) (h' : d.Opens e target space lamports') :
    c.Opens e target space (lamports + lamports') where
  toFlow := h.toFlow.trans h'.toFlow
  vacant := (h.owner_eq target).symm.trans h'.vacant
  isOwn := h'.isOwn
  data := h'.data
  owner_eq hne := (h'.owner_eq hne).trans (h.owner_eq _)
  data_eq hne hforeign := (h'.data_eq hne (h.foreign hforeign)).trans (h.data_eq hforeign)

/-- The account may be paid for after it was opened. -/
theorem pays (h : c.Opens d target space lamports) (h' : d.Pays e lamports' 0) :
    c.Opens e target space (lamports + lamports') where
  toFlow := h.toFlow.trans h'.toFlow
  vacant := h.vacant
  isOwn := (h'.owner_eq target).trans h.isOwn
  data := by
    refine (h'.data_eq ?_).trans h.data
    rw [h.isOwn]
    exact Address.tokenProgram_ne_program.symm
  owner_eq hne := (h'.owner_eq _).trans (h.owner_eq hne)
  data_eq hne hforeign := (h'.data_eq (h.foreign hforeign)).trans (h.data_eq hne hforeign)

end Opens

/-! ## Two lamport balances -/

variable {source : Address} {amount left grown : UInt64}

theorem moved_putLamports (hleft : Amount.sub? (c.account source).lamports amount = some left)
    (hgrown : Amount.add? ((c.putLamports source left).account target).lamports amount =
      some grown) :
    Moved (fun a => (c.account a).lamports.toNat)
      (fun a => (((c.putLamports source left).putLamports target grown).account a).lamports.toNat)
      source target amount.toNat := by
  rw [Amount.sub?_eq_some_iff] at hleft
  rw [Amount.add?_eq_some_iff, lamports_putLamports, apply_ite UInt64.toNat] at hgrown
  have hmoved : Moved (fun a => (c.account a).lamports.toNat) _ source target amount.toNat :=
    .of_writes hleft hgrown
  simpa only [lamports_putLamports, apply_ite UInt64.toNat] using hmoved

end Chain

/-! ## The system program -/

namespace SystemProgram

variable {c d : Chain} {payer source target : Address} {amount : UInt64} {space : ℕ}

theorem pays_transfer (h : transfer c source target amount = .ok d) :
    c.Pays d (Pi.single source amount.toNat) 0 := by
  simp only [transfer, bind_eq_ok_iff, ensure_eq_ok_iff, demand_eq_ok_iff, exists_const,
    pure_eq_ok_iff] at h
  obtain ⟨-, left, hleft, -, grown, hgrown, rfl⟩ := h
  have hmoved := Chain.moved_putLamports hleft hgrown
  have htoken (a : Address) : (((c.putLamports source left).putLamports target grown).account
      a).loadToken = (c.account a).loadToken :=
    Account.loadToken_congr (by simp) (by simp)
  exact
    { foreign := by simp
      lamports_le := fun _ => hmoved.le _
      tokens_le := fun {a t} ht => ⟨t, (htoken a).trans ht, .refl t, Nat.le_add_right _ _⟩
      totalLamports_eq := hmoved.sum_eq
      totalTokens_eq := fun mint => Finset.sum_congr rfl fun a _ => Account.tokens_congr (htoken a)
      owner_eq := by simp
      data_eq := by simp }

theorem opens_assign_allocate (h : allocate c target space = .ok d) :
    c.Opens (assign d target Address.program) target space 0 := by
  simp only [allocate, bind_eq_ok_iff, ensure_eq_ok_iff, exists_const, pure_eq_ok_iff] at h
  obtain ⟨⟨-, hvacant⟩, rfl⟩ := h
  have hother {a : Address} (hne : a ≠ target) :
      (assign (c.putData target (List.replicate space 0)) target Address.program).account a =
        c.account a := by
    rw [assign, Chain.account_put_of_ne _ hne, Chain.putData, Chain.account_put_of_ne _ hne]
  have htarget :
      (assign (c.putData target (List.replicate space 0)) target Address.program).account target =
        { c.account target with data := List.replicate space 0, owner := Address.program } := by
    rw [assign, Chain.account_put_self, Chain.putData, Chain.account_put_self]
  have hflow : c.Flow (assign (c.putData target (List.replicate space 0)) target
      Address.program) 0 0 := by
    refine .of_eq (fun a hforeign => ?_) (fun a => ?_) fun a => ?_
    · by_cases hne : a = target
      · rw [hne, htarget]
        exact Address.tokenProgram_ne_program.symm
      · rwa [hother hne]
    · by_cases hne : a = target
      · rw [hne, htarget]
      · rw [hother hne]
    · by_cases hne : a = target
      · -- neither the system program nor this one keeps tokens
        rw [hne, htarget, Account.loadToken_of_owner_ne Address.tokenProgram_ne_program.symm,
          Account.loadToken_of_owner_ne]
        rw [hvacant]
        exact Address.tokenProgram_ne_systemProgram.symm
      · rw [hother hne]
  exact
    { toFlow := hflow
      vacant := hvacant
      isOwn := by rw [htarget]; rfl
      data := by rw [htarget]
      owner_eq := fun hne => by rw [hother hne]
      data_eq := fun hne _ => by rw [hother hne] }

/-- The payer pays for the account after it was handed over. -/
theorem opens_createAccount
    (h : createAccount c payer target amount space Address.program = .ok d) :
    c.Opens d target space (Pi.single payer amount.toNat) := by
  simp only [createAccount, bind_eq_ok_iff, ensure_eq_ok_iff, exists_const] at h
  obtain ⟨-, allocated, hallocate, htransfer⟩ := h
  have hopens := (opens_assign_allocate hallocate).pays (pays_transfer htransfer)
  rwa [zero_add] at hopens

end SystemProgram

/-! ## The token program -/

namespace TokenProgram

variable {c d : Chain} {source destination authority : Address} {amount : UInt64}
  {held receiving : TokenAccount}

theorem load_eq_ok_iff {t : TokenAccount} :
    load c source = .ok t ↔ TokenAccount.unpack (c.account source).data = .ok t :=
  mapError_eq_ok_iff

/-- Whoever spends is the owner or the delegate, and only what is delegated may change. -/
theorem of_spendBy {spent : TokenAccount} (h : spendBy held authority amount = .ok spent) :
    (held.owner = authority ∨ held.delegate.get? = some authority) ∧ held.Continues spent ∧
      spent.native = held.native := by
  unfold spendBy at h
  split at h
  next hdelegate =>
    simp only [bind_eq_ok_iff, demand_eq_ok_iff, pure_eq_ok_iff] at h
    obtain ⟨left, -, rfl⟩ := h
    exact ⟨.inr hdelegate, ⟨rfl, rfl, rfl⟩, rfl⟩
  next =>
    simp only [bind_eq_ok_iff, ensure_eq_ok_iff, exists_const, pure_eq_ok_iff] at h
    obtain ⟨howner, rfl⟩ := h
    exact ⟨.inl howner, ⟨rfl, rfl, rfl⟩, rfl⟩

/-- The lamports that are wrapped move between the same two accounts. -/
theorem of_moveWrapped (hne : source ≠ destination)
    (h : moveWrapped c source destination amount = .ok d) :
    (∀ a, (d.account a).owner = (c.account a).owner ∧ (d.account a).data = (c.account a).data) ∧
      Moved (fun a => (c.account a).lamports.toNat) (fun a => (d.account a).lamports.toNat) source
        destination amount.toNat := by
  simp only [moveWrapped, bind_eq_ok_iff, demand_eq_ok_iff, pure_eq_ok_iff] at h
  obtain ⟨left, hleft, grown, hgrown, rfl⟩ := h
  refine ⟨by simp, Chain.moved_putLamports hleft ?_⟩
  rwa [Chain.lamports_putLamports, if_neg hne.symm]

/-- One account gives tokens and another one takes them. If the one that gives wraps lamports, these
move along. -/
structure Handover (before after : Chain) (source destination : Address) (amount : UInt64)
    (held receiving : TokenAccount) : Prop where
  ne : source ≠ destination
  mint_eq : held.mint = receiving.mint
  owner_eq : ∀ a, (after.account a).owner = (before.account a).owner
  data_eq : ∀ {a : Address}, a ≠ source → a ≠ destination →
    (after.account a).data = (before.account a).data
  lamports : Moved (fun a => (before.account a).lamports.toNat)
    (fun a => (after.account a).lamports.toNat) source destination
    (if held.native.isPresent then amount.toNat else 0)
  loadedSource : (before.account source).loadToken = .ok held
  loadedDestination : (before.account destination).loadToken = .ok receiving
  given : ∃ given, (after.account source).loadToken = .ok given ∧ held.Continues given ∧
    given.native = held.native ∧ held.amount.toNat = amount.toNat + given.amount.toNat
  taken : ∃ taken, (after.account destination).loadToken = .ok taken ∧ receiving.Continues taken ∧
    taken.native = receiving.native ∧ receiving.amount.toNat + amount.toNat = taken.amount.toNat

namespace Handover

variable (h : Handover c d source destination amount held receiving)
include h

theorem loadToken_of_ne {a : Address} (ha : a ≠ source) (ha' : a ≠ destination) :
    (d.account a).loadToken = (c.account a).loadToken :=
  Account.loadToken_congr (h.owner_eq a) (h.data_eq ha ha')

theorem tokens (mint : Address) : Moved (fun a => (c.account a).tokens mint)
    (fun a => (d.account a).tokens mint) source destination
    (if held.mint = mint then amount.toNat else 0) := by
  obtain ⟨given, hgiven, hcontinues, -, hleft⟩ := h.given
  obtain ⟨taken, htaken, hcontinues', -, hgrown⟩ := h.taken
  refine .of_ne h.ne ?_ ?_ fun a ha ha' => Account.tokens_congr (h.loadToken_of_ne ha ha')
  · simp only [Account.tokens_of_loadToken h.loadedSource, Account.tokens_of_loadToken hgiven,
      hcontinues.mint_eq]
    split
    · exact hleft
    · rfl
  · simp only [Account.tokens_of_loadToken h.loadedDestination, Account.tokens_of_loadToken htaken,
      hcontinues'.mint_eq, h.mint_eq]
    split
    · exact hgrown
    · rfl

theorem pays : c.Pays d 0 (Pi.single source amount.toNat) := by
  have hsource := (Account.loadToken_eq_ok_iff.1 h.loadedSource).1
  have hdestination := (Account.loadToken_eq_ok_iff.1 h.loadedDestination).1
  refine
    { foreign := fun {a} hforeign => (h.owner_eq a).symm ▸ hforeign
      lamports_le := fun {a} hforeign => ?_
      tokens_le := fun {a t} ht => ?_
      totalLamports_eq := h.lamports.sum_eq
      totalTokens_eq := fun mint => (h.tokens mint).sum_eq
      owner_eq := h.owner_eq
      data_eq := fun {a} hforeign => h.data_eq ?_ ?_ }
  · have hne : a ≠ source := by
      rintro rfl
      exact hforeign hsource
    have hle := h.lamports.le a
    rwa [Pi.single_eq_of_ne hne] at hle
  · by_cases ha : a = source
    · subst ha
      obtain ⟨given, hgiven, hcontinues, -, hleft⟩ := h.given
      obtain rfl := Except.ok.inj (h.loadedSource.symm.trans ht)
      refine ⟨given, hgiven, hcontinues, ?_⟩
      rw [Pi.single_eq_same]
      omega
    · by_cases ha' : a = destination
      · subst ha'
        obtain ⟨taken, htaken, hcontinues, -, hgrown⟩ := h.taken
        obtain rfl := Except.ok.inj (h.loadedDestination.symm.trans ht)
        exact ⟨taken, htaken, hcontinues, by omega⟩
      · exact ⟨t, (h.loadToken_of_ne ha ha').trans ht, .refl t, Nat.le_add_right _ _⟩
  · rintro rfl
    exact hforeign hsource
  · rintro rfl
    exact hforeign hdestination

end Handover

/-- What is written to the two accounts after the wrapped lamports have moved. -/
theorem handover_putData {moved : Chain} {given taken : TokenAccount} (hne : source ≠ destination)
    (hheld : (c.account source).loadToken = .ok held)
    (hreceiving : (c.account destination).loadToken = .ok receiving)
    (hsame : ∀ a, (moved.account a).owner = (c.account a).owner ∧
      (moved.account a).data = (c.account a).data)
    (hlamports : Moved (fun a => (c.account a).lamports.toNat)
      (fun a => (moved.account a).lamports.toNat) source destination
      (if held.native.isPresent then amount.toNat else 0))
    (hgiven : held.Continues given ∧ given.native = held.native)
    (htaken : receiving.Continues taken ∧ taken.native = receiving.native)
    (hmint : held.mint = receiving.mint)
    (hleft : held.amount.toNat = amount.toNat + given.amount.toNat)
    (hgrown : receiving.amount.toNat + amount.toNat = taken.amount.toNat) :
    Handover c ((moved.putData source (TokenAccount.pack given)).putData destination
      (TokenAccount.pack taken)) source destination amount held receiving := by
  obtain ⟨hsource, hunpack⟩ := Account.loadToken_eq_ok_iff.1 hheld
  obtain ⟨hdestination, hunpack'⟩ := Account.loadToken_eq_ok_iff.1 hreceiving
  set d := (moved.putData source (TokenAccount.pack given)).putData destination
    (TokenAccount.pack taken) with hd
  have howner (a : Address) : (d.account a).owner = (c.account a).owner := by
    rw [hd, Chain.owner_putData, Chain.owner_putData, (hsame a).1]
  have hgivenLoad : (d.account source).loadToken = .ok given := by
    refine Account.loadToken_eq_ok_iff.2 ⟨(howner source).trans hsource, ?_⟩
    rw [hd, Chain.data_putData, if_neg hne, Chain.data_putData, if_pos rfl]
    exact TokenAccount.unpack_pack (hgiven.1.state_eq ▸ TokenAccount.state_ne_of_unpack hunpack)
  have htakenLoad : (d.account destination).loadToken = .ok taken := by
    refine Account.loadToken_eq_ok_iff.2 ⟨(howner destination).trans hdestination, ?_⟩
    rw [hd, Chain.data_putData, if_pos rfl]
    exact TokenAccount.unpack_pack (htaken.1.state_eq ▸ TokenAccount.state_ne_of_unpack hunpack')
  exact
    { ne := hne
      mint_eq := hmint
      owner_eq := howner
      data_eq := fun ha ha' => by
        rw [hd, Chain.data_putData, if_neg ha', Chain.data_putData, if_neg ha, (hsame _).2]
      lamports := by simpa only [hd, Chain.lamports_putData] using hlamports
      loadedSource := hheld
      loadedDestination := hreceiving
      given := ⟨given, hgivenLoad, hgiven.1, hgiven.2, hleft⟩
      taken := ⟨taken, htakenLoad, htaken.1, htaken.2, hgrown⟩ }

/-- Tokens move between two accounts of one mint, which may be the same, and only the owner of the
source or its delegate moves them. -/
theorem of_transfer (hheld : (c.account source).loadToken = .ok held)
    (hreceiving : (c.account destination).loadToken = .ok receiving)
    (h : transfer c source destination authority amount = .ok d) :
    (held.owner = authority ∨ held.delegate.get? = some authority) ∧
      amount.toNat ≤ held.amount.toNat ∧
      (source = destination ∧ d = c ∨ Handover c d source destination amount held receiving) := by
  have hunpack := (Account.loadToken_eq_ok_iff.1 hheld).2
  have hunpack' := (Account.loadToken_eq_ok_iff.1 hreceiving).2
  simp only [transfer, bind_eq_ok_iff, ensure_eq_ok_iff, demand_eq_ok_iff, exists_const,
    load_eq_ok_iff, Amount.sub?_eq_some_iff] at h
  obtain ⟨giver, hgiver, taker, htaker, -, left, hleft, hmint, spent, hspent, h⟩ := h
  obtain rfl := Except.ok.inj (hunpack.symm.trans hgiver)
  obtain rfl := Except.ok.inj (hunpack'.symm.trans htaker)
  obtain ⟨hauthority, hspent, hnative⟩ := of_spendBy hspent
  refine ⟨hauthority, by omega, ?_⟩
  have hgiven : held.Continues { spent with amount := left } ∧ spent.native = held.native :=
    ⟨hspent.with_amount left, hnative⟩
  split at h
  next hsame => exact .inl ⟨hsame, (pure_eq_ok_iff.1 h).symm⟩
  next hne =>
    obtain ⟨grown, hgrown, h⟩ := bind_eq_ok_iff.1 h
    rw [demand_eq_ok_iff, Amount.add?_eq_some_iff] at hgrown
    have htaken : receiving.Continues { receiving with amount := grown } ∧
        receiving.native = receiving.native :=
      ⟨(TokenAccount.Continues.refl receiving).with_amount grown, rfl⟩
    refine .inr ?_
    split at h
    next hwraps =>
      obtain ⟨moved, hmoved, h⟩ := bind_eq_ok_iff.1 h
      obtain rfl := pure_eq_ok_iff.1 h
      obtain ⟨hsame, hlamports⟩ := of_moveWrapped hne hmoved
      rw [hnative] at hwraps
      exact handover_putData hne hheld hreceiving hsame (by rwa [if_pos hwraps]) hgiven htaken hmint
        hleft hgrown
    next hplain =>
      obtain rfl := pure_eq_ok_iff.1 h
      have hstill : Moved (fun a => (c.account a).lamports.toNat)
          (fun a => (c.account a).lamports.toNat) source destination
          (if held.native.isPresent then amount.toNat else 0) := fun a => by
        rw [if_neg (hnative ▸ hplain), Pi.single_zero, Pi.single_zero]
      exact handover_putData hne hheld hreceiving (fun _ => ⟨rfl, rfl⟩) hstill hgiven htaken hmint
        hleft hgrown

theorem pays_transfer (hheld : (c.account source).loadToken = .ok held)
    (hreceiving : (c.account destination).loadToken = .ok receiving)
    (h : transfer c source destination authority amount = .ok d) :
    (held.owner = authority ∨ held.delegate.get? = some authority) ∧
      c.Pays d 0 (Pi.single source amount.toNat) := by
  obtain ⟨hauthority, -, ⟨-, rfl⟩ | hhandover⟩ := of_transfer hheld hreceiving h
  · exact ⟨hauthority, .refl d⟩
  · exact ⟨hauthority, hhandover.pays⟩

end TokenProgram

end Disbursement
