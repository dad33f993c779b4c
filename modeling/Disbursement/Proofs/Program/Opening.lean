import Disbursement.Proofs.Address.Identity
import Disbursement.Proofs.Check
import Disbursement.Proofs.Program.WellFormed
import Disbursement.Proofs.Record.Space

/-!
# Opening a claim slot

Anyone can send lamports to an address before its account exists. Opening the slot of a collection
schedule works all the same: the payer adds what is missing to the rent minimum, and the account
comes out as if nobody had been there before (`Chain.Installs`), whichever way it is created
(`installs_openAccount`). It works once. The marker that is made is there for good, so that a slot
with the same key is not opened a second time, whatever happens in between (`slot_opens_once`).
-/

namespace Disbursement

/-! ## A new account -/

namespace Chain

/-- What is missing at an address to the rent minimum of so many bytes. -/
def shortfall (c : Chain) (target : Address) (space : ℕ) : ℕ :=
  (SystemProgram.rentMinimum space).toNat - (c.account target).lamports.toNat

/-- The payer is a wallet at another address that has what is missing. -/
structure CanFund (c : Chain) (payer target : Address) (space : ℕ) : Prop where
  ne : payer ≠ target
  owner : (c.account payer).owner = Address.systemProgram
  data : (c.account payer).data = []
  enough : c.shortfall target space ≤ (c.account payer).lamports.toNat

/-- An account of this program with these data appears at an address. It has the lamports that were
there before, at least the rent minimum, and the payer has paid what was missing. Nothing else
changes. -/
structure Installs (before after : Chain) (payer target : Address) (data : Bytes) : Prop where
  opened : ∃ lamports : UInt64,
    lamports.toNat = max (before.account target).lamports.toNat
      (SystemProgram.rentMinimum data.length).toNat ∧
    after.account target =
      { before.account target with owner := Address.program, lamports := lamports, data := data }
  paid : ∃ left : UInt64,
    left.toNat + before.shortfall target data.length = (before.account payer).lamports.toNat ∧
    after.account payer = { before.account payer with lamports := left }
  elsewhere : ∀ address, address ≠ target → address ≠ payer →
    after.account address = before.account address

variable {c d e : Chain} {payer target : Address} {data : Bytes} {space : ℕ}

theorem Installs.isOwn (h : c.Installs d payer target data) : (d.account target).isOwn := by
  obtain ⟨_, -, htarget⟩ := h.opened
  rw [htarget]
  rfl

theorem Installs.data_eq (h : c.Installs d payer target data) : (d.account target).data = data := by
  obtain ⟨_, -, htarget⟩ := h.opened
  rw [htarget]

/-- A record can be stored in the new account if it fills it. -/
theorem Installs.storeRecord {α : Type} [Record α] {value : α} (h : c.Installs d payer target data)
    (hne : payer ≠ target) (hlength : (Record.encode value).length = data.length) :
    ∃ e, d.storeRecord target value = .ok e ∧ c.Installs e payer target (Record.encode value) := by
  have hdata := h.data_eq
  have hstore : Record.store (d.account target).data value = .ok (Record.encode value) := by
    refine Record.store_eq_ok_iff.2 ⟨by rw [hdata, hlength], ?_⟩
    rw [Bytes.writeOver_of_length_le (by rw [hdata, hlength]), hdata, hlength, List.drop_length,
      List.append_nil]
  refine ⟨_, storeRecord_eq_ok_iff.2 ⟨_, hstore, rfl⟩, ?_⟩
  obtain ⟨lamports, hlamports, htarget⟩ := h.opened
  obtain ⟨left, hleft, hpayer⟩ := h.paid
  refine ⟨⟨lamports, by rw [hlength, hlamports], ?_⟩, ⟨left, by rw [hlength, hleft], ?_⟩, ?_⟩
  · rw [putData, account_put_self, htarget]
  · rw [putData, account_put_of_ne d hne, hpayer]
  · intro address ha ha'
    rw [putData, account_put_of_ne d ha, h.elsewhere address ha ha']

/-- The lamports that are there may be written. -/
theorem putLamports_self (c : Chain) (target : Address) :
    c.putLamports target (c.account target).lamports = c := by
  ext address : 2
  rw [putLamports, account_put]
  split
  next heq => rw [heq]
  next => rfl

end Chain

/-! ## The system program -/

namespace SystemProgram

variable {c : Chain} {payer target : Address} {amount left grown : UInt64} {space : ℕ}

/-- A wallet can pay to another account what it has. -/
theorem transfer_eq_ok (hne : payer ≠ target)
    (howner : (c.account payer).owner = Address.systemProgram)
    (hdata : (c.account payer).data = [])
    (hleft : left.toNat + amount.toNat = (c.account payer).lamports.toNat)
    (hgrown : (c.account target).lamports.toNat + amount.toNat = grown.toNat) :
    transfer c payer target amount = .ok ((c.putLamports payer left).putLamports target grown) := by
  simp only [transfer, bind_eq_ok_iff, ensure_eq_ok_iff, demand_eq_ok_iff, exists_const,
    pure_eq_ok_iff, Amount.sub?_eq_some_iff, Amount.add?_eq_some_iff]
  refine ⟨hdata, left, by omega, howner, grown, ?_, rfl⟩
  rwa [Chain.lamports_putLamports, if_neg hne.symm]

/-- An unused account gets its data. -/
theorem allocate_eq_ok (howner : (c.account target).owner = Address.systemProgram)
    (hdata : (c.account target).data = []) :
    allocate c target space = .ok (c.putData target (List.replicate space 0)) := by
  simp only [allocate, bind_eq_ok_iff, ensure_eq_ok_iff, exists_const, pure_eq_ok_iff]
  exact ⟨⟨hdata, howner⟩, trivial⟩

end SystemProgram

/-! ## Two ways to the same account -/

namespace Chain

variable {c d : Chain} {payer target : Address} {left grown : UInt64} {space : ℕ}

/-- What the payer keeps and what the address then has. -/
theorem CanFund.exists_amounts (h : c.CanFund payer target space) :
    ∃ left grown : UInt64,
      left.toNat + c.shortfall target space = (c.account payer).lamports.toNat ∧
      (c.account target).lamports.toNat + c.shortfall target space = grown.toNat := by
  have henough := h.enough
  have hpayer := (c.account payer).lamports.toNat_lt
  have htarget := (c.account target).lamports.toNat_lt
  have hrent := (SystemProgram.rentMinimum space).toNat_lt
  refine ⟨UInt64.ofNat ((c.account payer).lamports.toNat - c.shortfall target space),
    UInt64.ofNat ((c.account target).lamports.toNat + c.shortfall target space), ?_, ?_⟩
  · rw [UInt64.toNat_ofNat_of_lt' (by simp only [UInt64.size]; omega)]
    omega
  · rw [UInt64.toNat_ofNat_of_lt' (by simp only [UInt64.size, shortfall]; omega)]

theorem installs_of_accounts
    (hleft : left.toNat + c.shortfall target space = (c.account payer).lamports.toNat)
    (hgrown : (c.account target).lamports.toNat + c.shortfall target space = grown.toNat)
    (htarget : d.account target =
      { c.account target with
        owner := Address.program, lamports := grown, data := List.replicate space 0 })
    (hpayer : d.account payer = { c.account payer with lamports := left })
    (helsewhere : ∀ address, address ≠ target → address ≠ payer →
      d.account address = c.account address) :
    c.Installs d payer target (List.replicate space 0) := by
  have hlamports : grown.toNat =
      max (c.account target).lamports.toNat (SystemProgram.rentMinimum space).toNat := by
    unfold shortfall at hgrown
    omega
  exact
    { opened := ⟨grown, by rw [List.length_replicate, hlamports], htarget⟩
      paid := ⟨left, by rw [List.length_replicate, hleft], hpayer⟩
      elsewhere := helsewhere }

end Chain

namespace Program

variable {c : Chain} {call : Call} {p plain signed : Privileges} {payer target : Address}
  {identity : Identity} {bump : UInt8} {space : ℕ} {left grown : UInt64}

/-- The payer signs, and both accounts may change. -/
theorem requirePrivileges_eq_ok (hsigns : p.signs payer = true) (hwrites : p.writes payer = true)
    (hwrites' : p.writes target = true) {isSigner : Bool}
    (hsigns' : isSigner = true → p.signs target = true) :
    requirePrivileges p [⟨payer, true, true⟩, ⟨target, isSigner, true⟩] = .ok () := by
  cases isSigner with
  | false => simp [requirePrivileges, ensure, Privileges.grants, hsigns, hwrites, hwrites']
  | true =>
    simp [requirePrivileges, ensure, Privileges.grants, hsigns, hwrites, hwrites', hsigns' rfl]

/-- An address without lamports: the account is created, and then paid for. -/
theorem installs_createAccount (h : c.CanFund payer target space)
    (howner : (c.account target).owner = Address.systemProgram)
    (hdata : (c.account target).data = []) (hlamports : (c.account target).lamports = 0)
    (hprivileges : requirePrivileges p [⟨payer, true, true⟩, ⟨target, true, true⟩] = .ok ()) :
    ∃ d, createAccount p c payer target space = .ok d ∧
      c.Installs d payer target (List.replicate space 0) := by
  obtain ⟨left, grown, hleft, hgrown⟩ := h.exists_amounts
  have hshortfall : c.shortfall target space = (SystemProgram.rentMinimum space).toNat := by
    rw [Chain.shortfall, hlamports]
    rfl
  set assigned := SystemProgram.assign (c.putData target (List.replicate space 0)) target
    Address.program with hassigned
  have hpayer : assigned.account payer = c.account payer := by
    simp only [hassigned, SystemProgram.assign, Chain.putData, Chain.account_put_of_ne _ h.ne]
  have htarget : (assigned.account target).lamports = (c.account target).lamports := by
    simp only [hassigned, SystemProgram.assign, Chain.putData, Chain.account_put_self]
  have htransfer : SystemProgram.transfer assigned payer target (SystemProgram.rentMinimum space) =
      .ok ((assigned.putLamports payer left).putLamports target grown) := by
    refine SystemProgram.transfer_eq_ok h.ne ?_ ?_ ?_ ?_
    · rw [hpayer, h.owner]
    · rw [hpayer, h.data]
    · rw [hpayer, ← hleft, hshortfall]
    · rw [htarget, ← hgrown, hshortfall]
  refine ⟨(assigned.putLamports payer left).putLamports target grown, ?_, ?_⟩
  · simp only [createAccount, SystemProgram.createAccount, bind_eq_ok_iff, mapError_eq_ok_iff,
      ensure_eq_ok_iff, exists_const]
    exact ⟨(), hprivileges, hlamports, _, SystemProgram.allocate_eq_ok howner hdata, htransfer⟩
  · refine Chain.installs_of_accounts hleft hgrown ?_ ?_ fun address ha ha' => ?_
    · simp only [hassigned, SystemProgram.assign, Chain.putData, Chain.putLamports,
        Chain.account_put_self, Chain.account_put_of_ne _ h.ne.symm]
    · rw [Chain.putLamports, Chain.account_put_of_ne _ h.ne, Chain.putLamports,
        Chain.account_put_self, hpayer]
    · simp only [hassigned, SystemProgram.assign, Chain.putData, Chain.putLamports,
        Chain.account_put_of_ne _ ha, Chain.account_put_of_ne _ ha']

/-- What is missing is nothing if the address has enough. -/
theorem toNat_missing : ((Amount.sub? (SystemProgram.rentMinimum space)
    (c.account target).lamports).getD 0).toNat = c.shortfall target space := by
  rw [Chain.shortfall]
  cases hsub : Amount.sub? (SystemProgram.rentMinimum space) (c.account target).lamports with
  | some missing =>
    have hmissing := Amount.sub?_eq_some_iff.1 hsub
    show missing.toNat = _
    omega
  | none =>
    unfold Amount.sub? at hsub
    split at hsub
    · cases hsub
    next hlarge =>
      rw [UInt64.not_le, UInt64.lt_iff_toNat_lt] at hlarge
      show (0 : UInt64).toNat = _
      rw [UInt64.toNat_zero]
      omega

/-- What is missing is paid, if anything is. -/
theorem fund_eq_ok (h : c.CanFund payer target space) {missing : UInt64}
    (hmissing : missing.toNat = c.shortfall target space)
    (hleft : left.toNat + c.shortfall target space = (c.account payer).lamports.toNat)
    (hgrown : (c.account target).lamports.toNat + c.shortfall target space = grown.toNat)
    (hplain : requirePrivileges plain [⟨payer, true, true⟩, ⟨target, false, true⟩] = .ok ()) :
    (if 0 < missing then transferLamports plain c payer target missing else pure c) =
      .ok ((c.putLamports payer left).putLamports target grown) := by
  split
  next =>
    simp only [transferLamports, bind_eq_ok_iff, mapError_eq_ok_iff]
    refine ⟨(), hplain, SystemProgram.transfer_eq_ok h.ne h.owner h.data ?_ ?_⟩
    · rw [hmissing, hleft]
    · rw [hmissing, hgrown]
  next hnone =>
    -- without a payment both balances are written as they were
    have hzero : c.shortfall target space = 0 := by
      rw [← hmissing]
      rw [UInt64.lt_iff_toNat_lt, UInt64.toNat_zero] at hnone
      omega
    rw [hzero, Nat.add_zero, UInt64.toNat_inj] at hleft hgrown
    rw [hleft, ← hgrown, Chain.putLamports_self, Chain.putLamports_self]
    rfl

/-- The account is funded, and then allocated and assigned. -/
theorem takeOverAccount_eq : takeOverAccount plain signed c payer target space = (do
    let missing :=
      (Amount.sub? (SystemProgram.rentMinimum space) (c.account target).lamports).getD 0
    let funded ← (if 0 < missing then transferLamports plain c payer target missing else pure c)
    requirePrivileges signed [⟨target, true, true⟩]
    let opened ← (SystemProgram.allocate funded target space).mapError CallError.system
    pure (SystemProgram.assign opened target Address.program)) := by
  dsimp only [takeOverAccount]
  split <;> rfl

/-- An address that has lamports: it is paid for, and then taken over. -/
theorem installs_takeOverAccount (h : c.CanFund payer target space)
    (howner : (c.account target).owner = Address.systemProgram)
    (hdata : (c.account target).data = [])
    (hplain : requirePrivileges plain [⟨payer, true, true⟩, ⟨target, false, true⟩] = .ok ())
    (hsigned : requirePrivileges signed [⟨target, true, true⟩] = .ok ()) :
    ∃ d, takeOverAccount plain signed c payer target space = .ok d ∧
      c.Installs d payer target (List.replicate space 0) := by
  obtain ⟨left, grown, hleft, hgrown⟩ := h.exists_amounts
  set funded := (c.putLamports payer left).putLamports target grown with hfunded
  have hallocate : SystemProgram.allocate funded target space =
      .ok (funded.putData target (List.replicate space 0)) := by
    refine SystemProgram.allocate_eq_ok ?_ ?_
    · rw [hfunded, Chain.owner_putLamports, Chain.owner_putLamports, howner]
    · rw [hfunded, Chain.data_putLamports, Chain.data_putLamports, hdata]
  refine ⟨SystemProgram.assign (funded.putData target (List.replicate space 0)) target
    Address.program, ?_, ?_⟩
  · rw [takeOverAccount_eq]
    simp only [bind_eq_ok_iff, mapError_eq_ok_iff, pure_eq_ok_iff]
    exact ⟨funded, fund_eq_ok h toNat_missing hleft hgrown hplain, (), hsigned, _, hallocate, rfl⟩
  · refine Chain.installs_of_accounts hleft hgrown ?_ ?_ fun address ha ha' => ?_
    · simp only [hfunded, SystemProgram.assign, Chain.putData, Chain.putLamports,
        Chain.account_put_self, Chain.account_put_of_ne _ h.ne.symm]
    · simp only [hfunded, SystemProgram.assign, Chain.putData, Chain.putLamports,
        Chain.account_put_self, Chain.account_put_of_ne _ h.ne]
    · simp only [hfunded, SystemProgram.assign, Chain.putData, Chain.putLamports,
        Chain.account_put_of_ne _ ha, Chain.account_put_of_ne _ ha']

/-- Whatever lamports an unused address has, its account is opened. -/
theorem installs_openAccount (h : c.CanFund payer target space)
    (howner : (c.account target).owner = Address.systemProgram)
    (hdata : (c.account target).data = [])
    (hderived : identity.addressWith bump Address.program = some target)
    (hsigns : call.signs payer = true) (hwrites : call.writes payer = true)
    (hwrites' : call.writes target = true) :
    ∃ d, openAccount call c payer target identity bump space = .ok d ∧
      c.Installs d payer target (List.replicate space 0) := by
  have hsigned :
      (call.privileges (identity.addressWith bump Address.program)).signs target = true := by
    simp [Call.privileges, hderived]
  have hpayer (derived : Option Address) : (call.privileges derived).signs payer = true := by
    simp [Call.privileges, hsigns]
  by_cases hlamports : (c.account target).lamports = 0
  · simp only [openAccount, if_pos hlamports]
    exact installs_createAccount h howner hdata hlamports
      (requirePrivileges_eq_ok (hpayer _) hwrites hwrites' fun _ => hsigned)
  · simp only [openAccount, if_neg hlamports]
    refine installs_takeOverAccount h howner hdata
      (requirePrivileges_eq_ok (hpayer _) hwrites hwrites' (absurd · Bool.false_ne_true)) ?_
    have hwritable : (call.privileges (identity.addressWith bump Address.program)).writes target =
      true := hwrites'
    simp [requirePrivileges, ensure, Privileges.grants, hsigned, hwritable]

/-! ## The instruction -/

/-- An active collection schedule with its vault, and the address derived for a slot of it. -/
structure OpenSlot (c : Chain) (schedule : Address) (s : Schedule) (index : UInt16)
    (key address : Address) (bump : UInt8) : Prop where
  loaded : (c.account schedule).loadRecord = .ok s
  derived : (Identity.schedule s.eventId).addressWith s.bump Address.program = some schedule
  vault : ∃ v : Vault, (c.account s.vault).loadRecord = .ok v
  active : s.isActive = true
  kind : s.kind = .collection
  inRange : index < s.userCount
  found : (Identity.marker s.eventId index key).find Address.program = some (address, bump)

/-- The call asks to open a slot, and has the accounts for it. -/
structure AsksToOpen (c : Chain) (call : Call) (payer vault schedule address : Address)
    (index : UInt16) (nftMint : Address) : Prop where
  program : call.program = Address.program
  decoded : Instruction.decode call.data = .ok (.initRedeemIndex index nftMint)
  accounts : [payer, vault, schedule, address, Address.systemProgram] <+: call.addresses
  signs : call.signs payer = true
  writesPayer : call.writes payer = true
  writes : call.writes address = true
  executable : (c.account Address.systemProgram).isExecutable = true

section Instruction

variable {d : Chain} {schedule address nftMint : Address} {s : Schedule} {index : UInt16}

theorem pass_entry {β : Type} {condition : Prop} [Decidable condition] {otherwise : EntryError}
    {next : Unit → Except Failure β} (h : condition) :
    ((liftM (ensure condition otherwise) : Except Failure Unit) >>= next) = next () :=
  bind_eq_of_ok (lift_entry_eq_ok_iff.2 (ensure_eq_ok_iff.2 h))

theorem pass_refusal {β : Type} {condition : Prop} [Decidable condition] {otherwise : Refusal}
    {next : Unit → Except Failure β} (h : condition) :
    ((liftM (ensure condition otherwise) : Except Failure Unit) >>= next) = next () :=
  bind_eq_of_ok (lift_refusal_eq_ok_iff.2 (ensure_eq_ok_iff.2 h))

/-- What remains of the instruction once its accounts are taken and the slot is found open. -/
def createMarker (c : Chain) (call : Call) (payer schedule address : Address) (s : Schedule)
    (index : UInt16) (nftMint : Address) (bump : UInt8) : Except Failure Outcome := do
  (c.account address).requireVacant Address.program
  let c ← openAccount call c payer address (.marker s.eventId index (s.markerKey nftMint)) bump
    Marker.space
  let c ← c.storeRecord address (Marker.create bump schedule index (s.markerKey nftMint))
  return {
    chain := c
    event := .redeemIndexInitialized schedule address index nftMint (s.markerKey nftMint) call.now
    message := "Redeem index " ++ toString index.toNat ++ " initialized" }

/-- Every check before that one is passed. -/
theorem initRedeemIndex_eq_createMarker
    (slot : OpenSlot c schedule s index (s.markerKey nftMint) address bump)
    (asks : AsksToOpen c call payer s.vault schedule address index nftMint) :
    initRedeemIndex c call index nftMint =
      createMarker c call payer schedule address s index nftMint bump := by
  obtain ⟨v, hvault⟩ := slot.vault
  obtain ⟨rest, htakes⟩ := Takes.exists_iff.2 asks.accounts
  obtain ⟨_, hpayer, htakes⟩ := Takes.cons_iff.1 htakes
  obtain ⟨_, hvault', htakes⟩ := Takes.cons_iff.1 htakes
  obtain ⟨_, hschedule, htakes⟩ := Takes.cons_iff.1 htakes
  obtain ⟨_, haddress, hprogram⟩ := Takes.cons_iff.1 htakes
  unfold initRedeemIndex
  refine (bind_eq_of_ok (a := (payer, ⟨s.vault, v⟩, ⟨schedule, s⟩, address)) ?_).trans ?_
  · simp only [run'_eq_ok_iff, run_bind_eq_ok_iff, run_pure_eq_ok_iff, nextSigner_eq_ok_iff,
      nextRecord_eq_ok_iff, nextAccount_eq_ok_iff, nextProgram_eq_ok_iff]
    exact ⟨rest, _, _, ⟨hpayer, asks.signs⟩, _, _, ⟨hvault', hvault⟩, _, _,
      ⟨hschedule, slot.loaded⟩, _, _, haddress, (), _, ⟨hprogram, asks.executable⟩, rfl, rfl⟩
  refine (pass_entry asks.writesPayer).trans ?_
  refine (pass_entry slot.derived).trans ?_
  refine (pass_refusal rfl).trans ?_
  refine (pass_entry asks.writes).trans ?_
  refine (pass_refusal slot.active).trans ?_
  refine (pass_refusal slot.kind).trans ?_
  refine (pass_refusal slot.inRange).trans ?_
  refine (bind_eq_of_ok (demand_eq_ok_iff.2 slot.found)).trans ?_
  exact pass_refusal rfl

theorem createMarker_installs (h : c.CanFund payer address Marker.space)
    (howner : (c.account address).owner = Address.systemProgram)
    (hdata : (c.account address).data = [])
    (slot : OpenSlot c schedule s index (s.markerKey nftMint) address bump)
    (asks : AsksToOpen c call payer s.vault schedule address index nftMint) :
    ∃ out, createMarker c call payer schedule address s index nftMint bump = .ok out ∧
      c.Installs out.chain payer address
        (Record.encode (Marker.create bump schedule index (s.markerKey nftMint))) := by
  have hvacant : (c.account address).owner ≠ Address.program ∧ (c.account address).data = [] :=
    ⟨howner ▸ Address.program_ne_systemProgram.symm, hdata⟩
  obtain ⟨opened, hopen, hinstalls⟩ := installs_openAccount h howner hdata
    (Identity.addressWith_of_find slot.found) asks.signs asks.writesPayer asks.writes
  have hlength : (Record.encode (Marker.create bump schedule index (s.markerKey nftMint))).length =
      (List.replicate Marker.space (0 : UInt8)).length := by
    rw [Marker.length_encode, List.length_replicate]
  obtain ⟨stored, hstore, hinstalls⟩ := hinstalls.storeRecord h.ne hlength
  simp only [createMarker, Account.requireVacant, bind_eq_ok_iff, lift_refusal_eq_ok_iff,
    lift_call_eq_ok_iff, lift_entry_eq_ok_iff, ensure_eq_ok_iff, exists_const, pure_eq_ok_iff]
  exact ⟨_, ⟨hvacant, opened, hopen, stored, hstore, rfl⟩, hinstalls⟩

theorem createMarker_refused (hown : (c.account address).isOwn) :
    createMarker c call payer schedule address s index nftMint bump =
      .error (.refusal .accountAlreadyExists) := by
  have hvacant : ¬((c.account address).owner ≠ Address.program ∧ (c.account address).data = []) :=
    fun h => h.1 hown
  rw [createMarker, Account.requireVacant, ensure, if_neg hvacant]
  rfl

theorem AsksToOpen.execute_eq
    (asks : AsksToOpen c call payer s.vault schedule address index nftMint)
    (slot : OpenSlot c schedule s index (s.markerKey nftMint) address bump) :
    execute c call = (createMarker c call payer schedule address s index nftMint bump).map
      fun out => {
        chain := out.chain
        events := [out.event]
        logs := ["Instruction: " ++ InstructionKind.initRedeemIndex.title, out.message] } := by
  unfold execute
  refine (bind_eq_of_ok (a := ()) (ensure_eq_ok_iff.2 asks.program)).trans ?_
  refine (bind_eq_of_ok (lift_entry_eq_ok_iff.2 asks.decoded)).trans ?_
  rw [perform, initRedeemIndex_eq_createMarker slot asks]
  cases createMarker c call payer schedule address s index nftMint bump <;> rfl

end Instruction

/-! ## What happens later -/

/-- Any calls are made, and other programs do what leaves the accounts of this one alone. -/
inductive LeadsTo (c : Chain) : Chain → Prop where
  | refl : LeadsTo c c
  | call {d : Chain} (h : LeadsTo c d) (call : Call) : LeadsTo c (attempt d call)
  | others {d e : Chain} (h : LeadsTo c d) (spares : d.Spares e) : LeadsTo c e

theorem evolves_attempt (c : Chain) (call : Call) : c.Evolves (attempt c call) := by
  unfold attempt
  cases hexecute : execute c call with
  | error failure => exact .refl c
  | ok receipt => exact evolves_execute hexecute

namespace LeadsTo

variable {d : Chain} {address : Address}

/-- A call that succeeds is the first thing that happens. -/
theorem of_execute {receipt : Receipt} (hexecute : execute c call = .ok receipt)
    (h : LeadsTo receipt.chain d) : LeadsTo c d := by
  induction h with
  | refl =>
    rw [← attempt_of_ok hexecute]
    exact .call .refl call
  | call _ next ih => exact .call ih next
  | others _ spares ih => exact .others ih spares

theorem evolves (h : LeadsTo c d) : c.Evolves d := by
  induction h with
  | refl => exact .refl c
  | call _ call ih => exact ih.trans (evolves_attempt _ call)
  | others _ spares ih => exact ih.trans (.of_spares spares)

theorem exists_vault (h : LeadsTo c d) {v : Vault} (hv : (c.account address).loadRecord = .ok v) :
    ∃ w : Vault, (d.account address).loadRecord = .ok w := by
  induction h with
  | refl => exact ⟨v, hv⟩
  | call _ call ih =>
    obtain ⟨w, hw⟩ := ih
    unfold attempt
    split
    next receipt hexecute =>
      obtain ⟨-, instruction, out, -, hperform, rfl⟩ := execute_eq_ok_iff.1 hexecute
      exact (persists_perform hperform).vault hw
    next => exact ⟨w, hw⟩
  | others _ spares ih =>
    obtain ⟨w, hw⟩ := ih
    exact ⟨w, spares.loadRecord hw⟩

end LeadsTo

section Later

variable {d : Chain} {schedule address nftMint : Address} {s t : Schedule} {index : UInt16}
  {key : Address} {m : Marker}

/-- The slot stays open as long as its schedule is active. -/
theorem OpenSlot.later (h : OpenSlot c schedule s index key address bump) (hleads : LeadsTo c d)
    (hload : (d.account schedule).loadRecord = .ok t) (hactive : t.isActive = true) :
    OpenSlot d schedule t index key address bump := by
  obtain ⟨t', hload', hcontinues⟩ := hleads.evolves.schedule h.loaded
  obtain rfl := Except.ok.inj (hload.symm.trans hload')
  obtain ⟨v, hvault⟩ := h.vault
  have hvault' := hleads.exists_vault hvault
  rw [hcontinues.eq_with] at hload hactive ⊢
  exact
    { loaded := hload
      derived := h.derived
      vault := hvault'
      active := hactive
      kind := h.kind
      inRange := h.inRange
      found := h.found }

/-- Where there is a marker, none is created. -/
theorem refused_of_marker {later : Call}
    (hschedule : (d.account schedule).loadRecord = .ok t)
    (hmarker : (d.account address).loadRecord = .ok m)
    (hfound : (Identity.marker t.eventId index (t.markerKey nftMint)).find Address.program =
      some (address, bump))
    (hdecode : Instruction.decode later.data = .ok (.initRedeemIndex index nftMint))
    (hthird : later.addresses[2]? = some schedule) :
    (∀ receipt, execute d later ≠ .ok receipt) ∧ attempt d later = d := by
  suffices hrefused : ∀ receipt, execute d later ≠ .ok receipt by
    refine ⟨hrefused, ?_⟩
    cases hlater : execute d later with
    | error failure => exact attempt_of_error hlater
    | ok receipt => exact absurd hlater (hrefused receipt)
  intro receipt hexecute
  obtain ⟨-, instruction, out, hdecode', hperform, -⟩ := execute_eq_ok_iff.1 hexecute
  obtain rfl := Except.ok.inj (hdecode.symm.trans hdecode')
  obtain ⟨payer, vault, schedule', address', bump', opened, h⟩ := of_initRedeemIndex hperform
  have hschedule' : schedule'.address = schedule := by
    obtain ⟨rest, hrest⟩ := h.accounts
    rw [← hrest] at hthird
    exact Option.some.inj hthird
  have hloaded := h.loaded
  rw [hschedule'] at hloaded
  obtain rfl := Except.ok.inj (hschedule.symm.trans hloaded)
  obtain ⟨rfl, -⟩ := Prod.mk.inj (Option.some.inj (hfound.symm.trans h.found))
  exact h.vacant.1 (Account.isOwn_of_loadRecord hmarker)

/-- A call with the right accounts is refused for the marker. -/
theorem AsksToOpen.refused {later : Call}
    (h : AsksToOpen d later payer t.vault schedule address index nftMint)
    (slot : OpenSlot d schedule t index (t.markerKey nftMint) address bump)
    (hmarker : (d.account address).loadRecord = .ok m) :
    execute d later = .error (.refusal .accountAlreadyExists) ∧ attempt d later = d := by
  have hrefused : execute d later = .error (.refusal .accountAlreadyExists) := by
    rw [h.execute_eq slot, createMarker_refused (Account.isOwn_of_loadRecord hmarker)]
    rfl
  exact ⟨hrefused, attempt_of_error hrefused⟩

end Later

/-- A slot is opened once, whatever was sent to its address before. Let a collection schedule be
active at its address, with its vault, and let nobody but senders of lamports have used the address
of a slot. A call with the right accounts, paid for by a wallet that has what is missing to the rent
minimum, succeeds: the account is then one of this program, its bytes are the unredeemed marker of
the slot, it has the lamports that were sent or else the rent minimum, and the wallet has paid the
difference. Whatever happens afterwards, no call opens the slot again, for any token with the same
key; and with the right accounts it is refused for the marker that exists as long as the schedule is
active, and changes nothing. -/
theorem slot_opens_once {schedule address nftMint : Address} {s : Schedule} {index : UInt16}
    (slot : OpenSlot c schedule s index (s.markerKey nftMint) address bump)
    (unused : (c.account address).owner = Address.systemProgram ∧ (c.account address).data = [])
    (funds : c.CanFund payer address Marker.space)
    (asks : AsksToOpen c call payer s.vault schedule address index nftMint) :
    ∃ receipt, execute c call = .ok receipt ∧
      c.Installs receipt.chain payer address
        (Record.encode (Marker.create bump schedule index (s.markerKey nftMint))) ∧
      (receipt.chain.account address).data.length = Marker.space ∧
      (receipt.chain.account address).loadMarker Address.program =
        .ok (some (Marker.create bump schedule index (s.markerKey nftMint))) ∧
      ∀ d, LeadsTo receipt.chain d → ∀ later other, s.markerKey other = s.markerKey nftMint →
        (Instruction.decode later.data = .ok (.initRedeemIndex index other) →
          later.addresses[2]? = some schedule →
            (∀ receipt', execute d later ≠ .ok receipt') ∧ attempt d later = d) ∧
        ∀ (t : Schedule) payer', (d.account schedule).loadRecord = .ok t → t.isActive = true →
          AsksToOpen d later payer' s.vault schedule address index other →
            execute d later = .error (.refusal .accountAlreadyExists) ∧ attempt d later = d := by
  obtain ⟨out, hcreate, hinstalls⟩ := createMarker_installs funds unused.1 unused.2 slot asks
  have hexecute := asks.execute_eq slot
  rw [hcreate] at hexecute
  have hmarker : (out.chain.account address).loadRecord =
      .ok (Marker.create bump schedule index (s.markerKey nftMint)) := by
    refine Account.loadRecord_eq_ok_iff.2 ⟨hinstalls.isOwn, ?_⟩
    have hload := Record.load_encode_append
      (Marker.readsBack (Marker.create bump schedule index (s.markerKey nftMint))) []
    rwa [List.append_nil, ← hinstalls.data_eq] at hload
  refine ⟨_, hexecute, hinstalls, ?_, Account.loadMarker_eq_some_iff.2 hmarker, ?_⟩
  · rw [hinstalls.data_eq, Marker.length_encode]
  intro d hleads later other hkey
  obtain ⟨m, hm, -⟩ := hleads.evolves.marker hmarker
  have hevolves : c.Evolves d := (evolves_execute hexecute).trans hleads.evolves
  obtain ⟨t, ht, hcontinues⟩ := hevolves.schedule slot.loaded
  have hkey' : t.markerKey other = s.markerKey nftMint := by rw [hcontinues.markerKey_eq, hkey]
  constructor
  · intro hdecode hthird
    have hfound := slot.found
    rw [← hkey', ← hcontinues.eventId_eq] at hfound
    exact refused_of_marker ht hm hfound hdecode hthird
  · intro t' payer' ht' hactive hasks
    obtain rfl := Except.ok.inj (ht.symm.trans ht')
    have hslot := slot.later (.of_execute hexecute hleads) ht hactive
    have hvault : t.vault = s.vault := by rw [hcontinues.eq_with]
    rw [← hkey'] at hslot
    rw [← hvault] at hasks
    exact hasks.refused hslot hm

/-! ## A gift to a slot -/

/-- A distribution to the holders of a collection, paid from the vault at the address three. -/
def collectionSchedule : Schedule :=
  { Schedule.blank with
    bump := 255
    vault := Bytes32.ofNatBE 3
    eventId := 1
    kind := .collection
    isActive := true
    userCount := 5 }

/-- The address derived for it. -/
def collectionScheduleAddress : Address :=
  Bytes32.ofNatBE 0xf93a381260a897822c4a171ae09897f32be91b60ea1ee17dfd00269ae0cf9fa6

/-- The address derived for the slot of a token at index three. -/
def giftedSlot : Address :=
  Bytes32.ofNatBE 0x4a4848f5fa07f234e07da447b754ab28f3c15cf2717683f0181a7c931d18b1df

/-- Someone has sent lamports to the slot, and a wallet has two million. -/
def giftedChain : Chain where
  account address :=
    if address = Bytes32.ofNatBE 3 then
      { Account.vacant with
        owner := Address.program
        data := Record.encode (Vault.create (Bytes32.ofNatBE 1) 255 255) }
    else if address = collectionScheduleAddress then
      { Account.vacant with owner := Address.program, data := Record.encode collectionSchedule }
    else if address = giftedSlot then { Account.vacant with lamports := 419840 }
    else if address = Bytes32.ofNatBE 1 then { Account.vacant with lamports := 2000000 }
    else if address = Address.systemProgram then { Account.vacant with isExecutable := true }
    else .vacant

/-- The wallet opens the slot. -/
def openingGiftedSlot : Call where
  program := Address.program
  accounts :=
    [⟨Bytes32.ofNatBE 1, true, true⟩, ⟨Bytes32.ofNatBE 3, false, false⟩,
      ⟨collectionScheduleAddress, false, false⟩, ⟨giftedSlot, false, true⟩,
      ⟨Address.systemProgram, false, false⟩]
  data := (Instruction.initRedeemIndex 3 (Bytes32.ofNatBE 22)).encode
  now := 10

theorem openSlot_giftedChain : OpenSlot giftedChain collectionScheduleAddress collectionSchedule 3
    (collectionSchedule.markerKey (Bytes32.ofNatBE 22)) giftedSlot 255 where
  loaded := toOption_eq_some_iff.1 (by decide +kernel)
  derived := by decide +kernel
  vault := ⟨_, toOption_eq_some_iff.1 (by decide +kernel : _ =
    some (Vault.create (Bytes32.ofNatBE 1) 255 255))⟩
  active := rfl
  kind := rfl
  inRange := by decide
  found := by decide +kernel

theorem asksToOpen_openingGiftedSlot {c : Chain}
    (h : (c.account Address.systemProgram).isExecutable = true) :
    AsksToOpen c openingGiftedSlot (Bytes32.ofNatBE 1) (Bytes32.ofNatBE 3) collectionScheduleAddress
      giftedSlot 3 (Bytes32.ofNatBE 22) where
  program := rfl
  decoded := toOption_eq_some_iff.1 (by decide +kernel)
  accounts := ⟨[], rfl⟩
  signs := by decide +kernel
  writesPayer := by decide +kernel
  writes := by decide +kernel
  executable := h

/-- The slot is opened for a million, and only once. -/
theorem gifted_slot_opened : ∃ receipt, execute giftedChain openingGiftedSlot = .ok receipt ∧
    (receipt.chain.account giftedSlot).lamports.toNat = 1419840 ∧
    (receipt.chain.account (Bytes32.ofNatBE 1)).lamports.toNat = 1000000 ∧
    (receipt.chain.account giftedSlot).loadMarker Address.program =
      .ok (some (Marker.create 255 collectionScheduleAddress 3 (Bytes32.ofNatBE 22))) ∧
    execute receipt.chain openingGiftedSlot = .error (.refusal .accountAlreadyExists) := by
  have hfunds : giftedChain.CanFund (Bytes32.ofNatBE 1) giftedSlot Marker.space :=
    ⟨by decide +kernel, by decide +kernel, by decide +kernel, by decide +kernel⟩
  obtain ⟨receipt, hexecute, hinstalls, hlength, hmarker, hlater⟩ :=
    slot_opens_once openSlot_giftedChain ⟨by decide +kernel, by decide +kernel⟩ hfunds
      (asksToOpen_openingGiftedSlot (by decide +kernel))
  obtain ⟨lamports, hlamports, haccount⟩ := hinstalls.opened
  obtain ⟨left, hleft, hpayer⟩ := hinstalls.paid
  rw [Marker.length_encode] at hlamports hleft
  have hshortfall : giftedChain.shortfall giftedSlot Marker.space = 1000000 := by decide +kernel
  have hbefore : (giftedChain.account (Bytes32.ofNatBE 1)).lamports.toNat = 2000000 := by
    decide +kernel
  have hlargest : max (giftedChain.account giftedSlot).lamports.toNat
      (SystemProgram.rentMinimum Marker.space).toNat = 1419840 := by
    decide +kernel
  refine ⟨receipt, hexecute, ?_, ?_, hmarker, ?_⟩
  · rw [haccount, hlamports, hlargest]
  · rw [hpayer]
    show left.toNat = 1000000
    omega
  · have hschedule : (receipt.chain.account collectionScheduleAddress).loadRecord =
        .ok collectionSchedule := by
      rw [hinstalls.elsewhere _ (by decide +kernel) (by decide +kernel)]
      exact openSlot_giftedChain.loaded
    have hexecutable : (receipt.chain.account Address.systemProgram).isExecutable = true := by
      rw [hinstalls.elsewhere _ (by decide +kernel) (by decide +kernel)]
      decide +kernel
    obtain ⟨-, hrefused⟩ :=
      hlater receipt.chain .refl openingGiftedSlot (Bytes32.ofNatBE 22) rfl
    exact (hrefused collectionSchedule (Bytes32.ofNatBE 1) hschedule rfl
      (asksToOpen_openingGiftedSlot hexecutable)).1

end Program

end Disbursement
