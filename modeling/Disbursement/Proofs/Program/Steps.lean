import Disbursement.Program.Entry
import Disbursement.Proofs.Program.Accounts

/-!
# What an instruction that succeeds has done

One statement for each instruction: which accounts it took, which checks held, what was stored and
what was logged. Whatever is proved about the program is proved from these, and the bodies of the
instructions are opened here only.
-/

namespace Disbursement.Program

variable {c : Chain} {call : Call} {out : Outcome}

/-! ## Vaults -/

/-- What it takes to open a vault. -/
structure VaultOpened (c : Chain) (call : Call) (path : Digest) (owner vault signer : Address)
    (bump signerNonce : UInt8) (opened : Chain) (out : Outcome) : Prop where
  accounts : [owner, vault, Address.systemProgram] <+: call.addresses
  signs : call.signs owner = true
  writes : call.writes owner = true
  openRecord : openRecord call c owner vault (.vault path) Vault.space = .ok (bump, opened)
  custody : (Identity.signer vault).find Address.program = some (signer, signerNonce)
  stored : opened.storeRecord vault (Vault.create owner bump signerNonce) = .ok out.chain
  event : out.event = .vaultCreated vault owner signer call.now

theorem of_createVault {path : Digest} (h : createVault c call path = .ok out) :
    ∃ owner vault signer bump signerNonce opened,
      VaultOpened c call path owner vault signer bump signerNonce opened out := by
  simp only [createVault, run'_eq_ok_iff, run_bind_eq_ok_iff, run_pure_eq_ok_iff,
    nextSigner_eq_ok_iff, nextAccount_eq_ok_iff, nextProgram_eq_ok_iff, bind_eq_ok_iff,
    pure_eq_ok_iff, lift_entry_eq_ok_iff, requireWritable_eq_ok_iff, demand_eq_ok_iff, Prod.exists,
    Prod.mk.injEq, exists_const] at h
  obtain ⟨_, _, ⟨_, owner, _, ⟨htakes, hsigns⟩, vault, _, htakes₁, _, ⟨htakes₂, -⟩, ⟨rfl, rfl⟩, -⟩,
    bump, opened, hopen, hwrites, signer, signerNonce, hsigner, chain, hstored, rfl⟩ := h
  exact ⟨owner, vault, signer, bump, signerNonce, opened,
    { accounts := ((htakes.append htakes₁).append htakes₂).isPrefix
      signs := hsigns
      writes := hwrites
      openRecord := hopen
      custody := hsigner
      stored := hstored
      event := rfl }⟩

/-- What a change of a vault takes. -/
structure VaultTaken (c : Chain) (call : Call) (signer : Address) (vault : Loaded Vault) :
    Prop where
  accounts : [signer, vault.address] <+: call.addresses
  signs : call.signs signer = true
  loaded : (c.account vault.address).loadRecord = .ok vault.record
  writes : call.writes vault.address = true

/-- The accounts of a change are taken exactly if they are there and as they should be. -/
theorem takeVaultChange_eq_ok_iff {signer : Address} {vault : Loaded Vault} :
    takeVaultChange c call = .ok (signer, vault) ↔ VaultTaken c call signer vault := by
  simp only [takeVaultChange, run'_eq_ok_iff, run_bind_eq_ok_iff, run_pure_eq_ok_iff,
    nextSigner_eq_ok_iff, nextRecord_eq_ok_iff, bind_eq_ok_iff, pure_eq_ok_iff,
    lift_entry_eq_ok_iff, requireWritable_eq_ok_iff, Prod.exists, Prod.mk.injEq, exists_const]
  constructor
  · rintro ⟨_, _, ⟨_, signer, _, ⟨htakes, hsigns⟩, vault, _, ⟨htakes₁, hloaded⟩, ⟨rfl, rfl⟩, -⟩,
      hwrites, rfl, rfl⟩
    exact
      { accounts := (htakes.append htakes₁).isPrefix
        signs := hsigns
        loaded := hloaded
        writes := hwrites }
  · intro h
    obtain ⟨rest, htakes⟩ := Takes.exists_iff.2 h.accounts
    obtain ⟨left, hsigner, hvault⟩ := Takes.cons_iff.1 htakes
    exact ⟨signer, vault, ⟨rest, signer, left, ⟨hsigner, h.signs⟩, vault, rest, ⟨hvault, h.loaded⟩,
      ⟨rfl, rfl⟩, rfl⟩, h.writes, rfl, rfl⟩

theorem of_setVault {admins : List Address} (h : setVault c call admins = .ok out) :
    ∃ owner vault changed, VaultTaken c call owner vault ∧ owner = vault.record.owner ∧
      vault.record.setAdmins admins = .ok changed ∧
      c.storeRecord vault.address changed = .ok out.chain ∧
      out.event = .vaultAdminsUpdated vault.address owner (UInt8.ofNat admins.length) call.now := by
  simp only [setVault, bind_eq_ok_iff, pure_eq_ok_iff, lift_refusal_eq_ok_iff, lift_entry_eq_ok_iff,
    requireOwner_eq_ok_iff, Prod.exists, exists_const] at h
  obtain ⟨owner, vault, htake, howner, changed, hchanged, chain, hstored, rfl⟩ := h
  exact ⟨owner, vault, changed, takeVaultChange_eq_ok_iff.1 htake, howner, hchanged, hstored, rfl⟩

theorem of_transferOwnership {newOwner : Address}
    (h : transferOwnership c call newOwner = .ok out) :
    ∃ owner vault changed, VaultTaken c call owner vault ∧ owner = vault.record.owner ∧
      vault.record.propose newOwner = .ok changed ∧
      c.storeRecord vault.address changed = .ok out.chain ∧
      out.event = .ownershipTransferInitiated vault.address owner newOwner call.now := by
  simp only [transferOwnership, bind_eq_ok_iff, pure_eq_ok_iff, lift_refusal_eq_ok_iff,
    lift_entry_eq_ok_iff, requireOwner_eq_ok_iff, Prod.exists, exists_const] at h
  obtain ⟨owner, vault, htake, howner, changed, hchanged, chain, hstored, rfl⟩ := h
  exact ⟨owner, vault, changed, takeVaultChange_eq_ok_iff.1 htake, howner, hchanged, hstored, rfl⟩

theorem of_acceptOwnership (h : acceptOwnership c call = .ok out) :
    ∃ newOwner vault oldOwner changed, VaultTaken c call newOwner vault ∧
      vault.record.accept newOwner = .ok (oldOwner, changed) ∧
      c.storeRecord vault.address changed = .ok out.chain ∧
      out.event = .ownershipTransferCompleted vault.address oldOwner newOwner call.now := by
  simp only [acceptOwnership, bind_eq_ok_iff, pure_eq_ok_iff, lift_refusal_eq_ok_iff,
    lift_entry_eq_ok_iff, Prod.exists] at h
  obtain ⟨newOwner, vault, htake, oldOwner, changed, hchanged, chain, hstored, rfl⟩ := h
  exact ⟨newOwner, vault, oldOwner, changed, takeVaultChange_eq_ok_iff.1 htake, hchanged, hstored,
    rfl⟩

theorem of_cancelOwnershipTransfer (h : cancelOwnershipTransfer c call = .ok out) :
    ∃ owner vault dropped changed, VaultTaken c call owner vault ∧ owner = vault.record.owner ∧
      vault.record.cancel = .ok (dropped, changed) ∧
      c.storeRecord vault.address changed = .ok out.chain ∧
      out.event = .ownershipTransferCancelled vault.address owner dropped call.now := by
  simp only [cancelOwnershipTransfer, bind_eq_ok_iff, pure_eq_ok_iff, lift_refusal_eq_ok_iff,
    lift_entry_eq_ok_iff, requireOwner_eq_ok_iff, Prod.exists, exists_const] at h
  obtain ⟨owner, vault, htake, howner, dropped, changed, hchanged, chain, hstored, rfl⟩ := h
  exact ⟨owner, vault, dropped, changed, takeVaultChange_eq_ok_iff.1 htake, howner, hchanged,
    hstored, rfl⟩

/-! ## Schedules -/

/-- What it takes to publish a schedule. -/
structure SchedulePublished (c : Chain) (call : Call) (kind : UInt8) (terms : ScheduleTerms)
    (admin : Address) (vault : Loaded Vault) (schedule signer : Address) (bump : UInt8)
    (opened : Chain) (created : Schedule) (out : Outcome) : Prop where
  accounts : [admin, vault.address, schedule, Address.systemProgram] <+: call.addresses
  signs : call.signs admin = true
  writes : call.writes admin = true
  loaded : (c.account vault.address).loadRecord = .ok vault.record
  authority : admin = vault.record.owner ∨ admin ∈ vault.record.admins
  openRecord : openRecord call c admin schedule (.schedule terms.eventId)
    (Schedule.space (Schedule.trackedLeaves kind terms.userCount)) = .ok (bump, opened)
  custody : ∃ nonce, (Identity.signer schedule).find Address.program = some (signer, nonce)
  new : ∃ scheduleKind, ScheduleKind.ofByte kind = .ok scheduleKind ∧
    Schedule.create vault.address bump call.now scheduleKind terms = .ok created
  stored : opened.storeRecord schedule created = .ok out.chain
  event : out.event = .scheduleCreated vault.address schedule signer terms.eventId kind
    terms.userCount terms.root call.now

theorem of_createSchedule {kind : UInt8} {terms : ScheduleTerms}
    (h : createSchedule c call kind terms = .ok out) :
    ∃ admin vault schedule signer bump opened created,
      SchedulePublished c call kind terms admin vault schedule signer bump opened created out := by
  simp only [createSchedule, run'_eq_ok_iff, run_bind_eq_ok_iff, run_pure_eq_ok_iff,
    nextSigner_eq_ok_iff, nextRecord_eq_ok_iff, nextAccount_eq_ok_iff, nextProgram_eq_ok_iff,
    bind_eq_ok_iff, pure_eq_ok_iff, lift_entry_eq_ok_iff, lift_refusal_eq_ok_iff,
    requireWritable_eq_ok_iff, requireAdmin_eq_ok_iff, demand_eq_ok_iff, Prod.exists, Prod.mk.injEq,
    exists_const] at h
  obtain ⟨_, _, _, ⟨_, admin, _, ⟨htakes, hsigns⟩, vault, _, ⟨htakes₁, hloaded⟩, schedule, _,
    htakes₂, _, ⟨htakes₃, -⟩, ⟨rfl, rfl, rfl⟩, -⟩, bump, opened, hopen, hwrites, hauthority,
    scheduleKind, hkind, signer, nonce, hsigner, created, hcreated, chain, hstored, rfl⟩ := h
  exact ⟨admin, vault, schedule, signer, bump, opened, created,
    { accounts := (((htakes.append htakes₁).append htakes₂).append htakes₃).isPrefix
      signs := hsigns
      writes := hwrites
      loaded := hloaded
      authority := hauthority
      openRecord := hopen
      custody := ⟨nonce, hsigner⟩
      new := ⟨scheduleKind, hkind, hcreated⟩
      stored := hstored
      event := rfl }⟩

/-- What it takes to open or close a schedule for claims. -/
structure StatusSet (c : Chain) (call : Call) (isActive : Bool) (admin : Address)
    (vault : Loaded Vault) (schedule : Loaded Schedule) (out : Outcome) : Prop where
  accounts : [admin, vault.address, schedule.address] <+: call.addresses
  signs : call.signs admin = true
  loadedVault : (c.account vault.address).loadRecord = .ok vault.record
  loaded : (c.account schedule.address).loadRecord = .ok schedule.record
  seeds : (Identity.schedule schedule.record.eventId).addressWith schedule.record.bump
    Address.program = some schedule.address
  writes : call.writes schedule.address = true
  ofVault : schedule.record.vault = vault.address
  authority : admin = vault.record.owner ∨ admin ∈ vault.record.admins
  stored : c.storeRecord schedule.address { schedule.record with isActive } = .ok out.chain
  event : out.event = .scheduleStatusChanged schedule.address admin isActive call.now

theorem of_setScheduleStatus {isActive : Bool}
    (h : setScheduleStatus c call isActive = .ok out) :
    ∃ admin vault schedule, StatusSet c call isActive admin vault schedule out := by
  simp only [setScheduleStatus, run'_eq_ok_iff, run_bind_eq_ok_iff, run_pure_eq_ok_iff,
    nextSigner_eq_ok_iff, nextRecord_eq_ok_iff, bind_eq_ok_iff, pure_eq_ok_iff,
    lift_entry_eq_ok_iff, lift_refusal_eq_ok_iff, requireSeeds_eq_ok_iff, requireWritable_eq_ok_iff,
    requireVaultOf_eq_ok_iff, requireAdmin_eq_ok_iff, Prod.exists, Prod.mk.injEq, exists_const] at h
  obtain ⟨_, _, _, ⟨_, admin, _, ⟨htakes, hsigns⟩, vault, _, ⟨htakes₁, hvault⟩, schedule, _,
    ⟨htakes₂, hschedule⟩, ⟨rfl, rfl, rfl⟩, -⟩, hseeds, hwrites, hof, hauthority, chain, hstored,
    rfl⟩ := h
  exact ⟨admin, vault, schedule,
    { accounts := ((htakes.append htakes₁).append htakes₂).isPrefix
      signs := hsigns
      loadedVault := hvault
      loaded := hschedule
      seeds := hseeds
      writes := hwrites
      ofVault := hof
      authority := hauthority
      stored := hstored
      event := rfl }⟩

/-! ## Custody -/

/-- What it takes to withdraw lamports. -/
structure SolTaken (c : Chain) (call : Call) (amount : UInt64) (admin : Address)
    (vault : Loaded Vault) (signer recipient : Address) (out : Outcome) : Prop where
  accounts : [admin, vault.address, signer, recipient, Address.systemProgram] <+: call.addresses
  signs : call.signs admin = true
  loaded : (c.account vault.address).loadRecord = .ok vault.record
  seeds : (Identity.signer vault.address).addressWith vault.record.signerNonce Address.program =
    some signer
  writesSigner : call.writes signer = true
  writesRecipient : call.writes recipient = true
  positive : 0 < amount
  authority : admin = vault.record.owner ∨ admin ∈ vault.record.admins
  paid : Custody.payLamports ⟨vault.address, vault.record.signerNonce, signer⟩ call c recipient
    amount = .ok out.chain
  event : out.event = .solWithdrawn vault.address admin recipient amount call.now

theorem of_withdrawSol {amount : UInt64} (h : withdrawSol c call amount = .ok out) :
    ∃ admin vault signer recipient, SolTaken c call amount admin vault signer recipient out := by
  simp only [withdrawSol, run'_eq_ok_iff, run_bind_eq_ok_iff, run_pure_eq_ok_iff,
    nextSigner_eq_ok_iff, nextRecord_eq_ok_iff, nextAccount_eq_ok_iff, nextProgram_eq_ok_iff,
    bind_eq_ok_iff, pure_eq_ok_iff, lift_entry_eq_ok_iff, lift_refusal_eq_ok_iff,
    requireSeeds_eq_ok_iff, requireWritable_eq_ok_iff, requireAdmin_eq_ok_iff, ensure_eq_ok_iff,
    Prod.exists, Prod.mk.injEq, exists_const] at h
  obtain ⟨_, _, _, _, ⟨_, admin, _, ⟨htakes, hsigns⟩, vault, _, ⟨htakes₁, hloaded⟩, signer, _,
    htakes₂, recipient, _, htakes₃, _, ⟨htakes₄, -⟩, ⟨rfl, rfl, rfl, rfl⟩, -⟩, hseeds, hsigner,
    hrecipient, hpositive, hauthority, chain, hpaid, rfl⟩ := h
  exact ⟨admin, vault, signer, recipient,
    { accounts :=
        ((((htakes.append htakes₁).append htakes₂).append htakes₃).append htakes₄).isPrefix
      signs := hsigns
      loaded := hloaded
      seeds := hseeds
      writesSigner := hsigner
      writesRecipient := hrecipient
      positive := hpositive
      authority := hauthority
      paid := hpaid
      event := rfl }⟩

/-- What it takes to withdraw tokens. -/
structure TokenTaken (c : Chain) (call : Call) (amount : UInt64) (admin : Address)
    (vault : Loaded Vault) (signer sender recipient : Address) (held : TokenAccount)
    (out : Outcome) : Prop where
  accounts : [admin, vault.address, signer, sender, recipient, Address.tokenProgram] <+:
    call.addresses
  signs : call.signs admin = true
  loaded : (c.account vault.address).loadRecord = .ok vault.record
  seeds : (Identity.signer vault.address).addressWith vault.record.signerNonce Address.program =
    some signer
  writesSender : call.writes sender = true
  writesRecipient : call.writes recipient = true
  positive : 0 < amount
  authority : admin = vault.record.owner ∨ admin ∈ vault.record.admins
  loadedSender : (c.account sender).loadToken = .ok held
  paid : Custody.payTokens ⟨vault.address, vault.record.signerNonce, signer⟩ call c sender recipient
    held.mint amount = .ok out.chain
  event : out.event = .tokenWithdrawn vault.address admin sender recipient amount call.now

theorem of_withdrawToken {amount : UInt64} (h : withdrawToken c call amount = .ok out) :
    ∃ admin vault signer sender recipient held,
      TokenTaken c call amount admin vault signer sender recipient held out := by
  simp only [withdrawToken, run'_eq_ok_iff, run_bind_eq_ok_iff, run_pure_eq_ok_iff,
    nextSigner_eq_ok_iff, nextRecord_eq_ok_iff, nextAccount_eq_ok_iff, nextProgram_eq_ok_iff,
    bind_eq_ok_iff, pure_eq_ok_iff, lift_entry_eq_ok_iff, lift_refusal_eq_ok_iff,
    requireSeeds_eq_ok_iff, requireWritable_eq_ok_iff, requireAdmin_eq_ok_iff, ensure_eq_ok_iff,
    Prod.exists, Prod.mk.injEq, exists_const] at h
  obtain ⟨_, _, _, _, _, ⟨_, admin, _, ⟨htakes, hsigns⟩, vault, _, ⟨htakes₁, hloaded⟩, signer, _,
    htakes₂, sender, _, htakes₃, recipient, _, htakes₄, _, ⟨htakes₅, -⟩, ⟨rfl, rfl, rfl, rfl, rfl⟩,
    -⟩, hseeds, hsender, hrecipient, hpositive, hauthority, held, hheld, chain, hpaid, rfl⟩ := h
  exact ⟨admin, vault, signer, sender, recipient, held,
    { accounts := (((((htakes.append htakes₁).append htakes₂).append htakes₃).append
        htakes₄).append htakes₅).isPrefix
      signs := hsigns
      loaded := hloaded
      seeds := hseeds
      writesSender := hsender
      writesRecipient := hrecipient
      positive := hpositive
      authority := hauthority
      loadedSender := hheld
      paid := hpaid
      event := rfl }⟩

/-! ## Claim slots -/

/-- What it takes to create the marker of a claim slot. -/
structure MarkerCreated (c : Chain) (call : Call) (index : UInt16) (nftMint payer : Address)
    (vault : Loaded Vault) (schedule : Loaded Schedule) (address : Address) (bump : UInt8)
    (opened : Chain) (out : Outcome) : Prop where
  accounts : [payer, vault.address, schedule.address, address, Address.systemProgram] <+:
    call.addresses
  signs : call.signs payer = true
  loadedVault : (c.account vault.address).loadRecord = .ok vault.record
  loaded : (c.account schedule.address).loadRecord = .ok schedule.record
  writesPayer : call.writes payer = true
  seeds : (Identity.schedule schedule.record.eventId).addressWith schedule.record.bump
    Address.program = some schedule.address
  ofVault : schedule.record.vault = vault.address
  writes : call.writes address = true
  active : schedule.record.isActive = true
  kind : schedule.record.kind = .collection
  inRange : index < schedule.record.userCount
  found : (Identity.marker schedule.record.eventId index
    (schedule.record.markerKey nftMint)).find Address.program = some (address, bump)
  vacant : (c.account address).owner ≠ Address.program ∧ (c.account address).data = []
  openAccount : openAccount call c payer address
    (.marker schedule.record.eventId index (schedule.record.markerKey nftMint)) bump Marker.space =
      .ok opened
  stored : opened.storeRecord address (Marker.create bump schedule.address index
    (schedule.record.markerKey nftMint)) = .ok out.chain
  event : out.event = .redeemIndexInitialized schedule.address address index nftMint
    (schedule.record.markerKey nftMint) call.now

theorem of_initRedeemIndex {index : UInt16} {nftMint : Address}
    (h : initRedeemIndex c call index nftMint = .ok out) :
    ∃ payer vault schedule address bump opened,
      MarkerCreated c call index nftMint payer vault schedule address bump opened out := by
  simp only [initRedeemIndex, run'_eq_ok_iff, run_bind_eq_ok_iff, run_pure_eq_ok_iff,
    nextSigner_eq_ok_iff, nextRecord_eq_ok_iff, nextAccount_eq_ok_iff, nextProgram_eq_ok_iff,
    bind_eq_ok_iff, pure_eq_ok_iff, lift_entry_eq_ok_iff, lift_refusal_eq_ok_iff,
    lift_call_eq_ok_iff, requireSeeds_eq_ok_iff, requireWritable_eq_ok_iff,
    requireVaultOf_eq_ok_iff, Schedule.requireActive, Schedule.requireKind, Schedule.requireIndex,
    Account.requireVacant, verifyAddress, demand_eq_ok_iff, ensure_eq_ok_iff, Prod.exists,
    Prod.mk.injEq, exists_const] at h
  obtain ⟨_, _, _, _, ⟨_, payer, _, ⟨htakes, hsigns⟩, vault, _, ⟨htakes₁, hvault⟩, schedule, _,
    ⟨htakes₂, hschedule⟩, address, _, htakes₃, _, ⟨htakes₄, -⟩, ⟨rfl, rfl, rfl, rfl⟩, -⟩, hpayer,
    hseeds, hof, hwrites, hactive, hkind, hindex, _, bump, hfound, rfl, hvacant, opened, hopened,
    chain, hstored, rfl⟩ := h
  exact ⟨payer, vault, schedule, address, bump, opened,
    { accounts :=
        ((((htakes.append htakes₁).append htakes₂).append htakes₃).append htakes₄).isPrefix
      signs := hsigns
      loadedVault := hvault
      loaded := hschedule
      writesPayer := hpayer
      seeds := hseeds
      ofVault := hof
      writes := hwrites
      active := hactive
      kind := hkind
      inRange := hindex
      found := hfound
      vacant := hvacant
      openAccount := hopened
      stored := hstored
      event := rfl }⟩

/-! ## Redeeming -/

/-- The addresses of the accounts of a redemption, in their order. -/
def RedeemAccounts.addresses (a : RedeemAccounts) : List Address :=
  [a.vault.address] ++ [a.schedule.address] ++ a.marker.toList ++ [a.signer] ++ [a.vaultToken] ++
    [a.user] ++ [a.userToken] ++ (a.holder.elim [] fun holder => [holder.token, holder.metadata]) ++
    [Address.tokenProgram] ++ [Address.systemProgram] ++ a.fees

/-- What it takes to have the accounts of a redemption. -/
structure RedeemTaken (c : Chain) (call : Call) (e : Entitlement) (a : RedeemAccounts) : Prop where
  accounts : call.addresses = a.addresses
  loadedVault : (c.account a.vault.address).loadRecord = .ok a.vault.record
  loaded : (c.account a.schedule.address).loadRecord = .ok a.schedule.record
  marker : a.marker.isSome = usesMarker e
  signs : call.signs a.user = true
  holder : a.holder.isSome = e.token?.isSome

/-- A marker is taken where one is used. -/
theorem takes_marker {e : Entitlement} {marker : Option Address} {accounts rest : List AccountMeta}
    (h : (if usesMarker e then some <$> nextAccount else pure none : Intake (Option Address)).run
      accounts = .ok (marker, rest)) :
    Takes accounts marker.toList rest ∧ marker.isSome = usesMarker e := by
  split at h
  next huses =>
    rw [map_eq_pure_bind, run_bind_eq_ok_iff] at h
    simp only [nextAccount_eq_ok_iff, run_pure_eq_ok_iff] at h
    obtain ⟨address, _, htakes, rfl, rfl⟩ := h
    exact ⟨htakes, huses.symm⟩
  next huses =>
    obtain ⟨rfl, rfl⟩ := run_pure_eq_ok_iff.1 h
    exact ⟨.nil _, (eq_false_of_ne_true huses).symm⟩

/-- The two accounts of a token holder are taken where a token is held. -/
theorem takes_holder {p : Prop} [Decidable p] {β : Type} {next : Option HolderAccounts → Intake β}
    {accounts rest : List AccountMeta} {value : β}
    (h : (if p then do
          let token ← nextAccount
          let metadata ← nextAccount
          let holder ← pure (some { token, metadata })
          next holder
        else do
          let holder ← pure none
          next holder : Intake β).run accounts = .ok (value, rest)) :
    ∃ holder left, (next holder).run left = .ok (value, rest) ∧ holder.isSome = decide p ∧
      Takes accounts (holder.elim [] fun holder => [holder.token, holder.metadata]) left := by
  split at h
  next hp =>
    simp only [run_bind_eq_ok_iff, nextAccount_eq_ok_iff, run_pure_eq_ok_iff] at h
    obtain ⟨token, _, htoken, metadata, left, hmetadata, _, _, ⟨rfl, rfl⟩, hnext⟩ := h
    exact ⟨some { token, metadata }, left, hnext, (decide_eq_true hp).symm,
      htoken.append hmetadata⟩
  next hp =>
    simp only [run_bind_eq_ok_iff, run_pure_eq_ok_iff] at h
    obtain ⟨_, _, ⟨rfl, rfl⟩, hnext⟩ := h
    exact ⟨none, accounts, hnext, (decide_eq_false hp).symm, .nil accounts⟩

theorem of_takeRedeemAccounts {e : Entitlement} {a : RedeemAccounts} {rest : List AccountMeta}
    (h : (takeRedeemAccounts c call e).run call.accounts = .ok (a, rest)) :
    RedeemTaken c call e a := by
  simp only [takeRedeemAccounts, run_bind_eq_ok_iff, run_ite_bind_eq_ok_iff, nextRecord_eq_ok_iff,
    nextAccount_eq_ok_iff, nextSigner_eq_ok_iff] at h
  obtain ⟨vault, _, ⟨htakes, hvault⟩, schedule, _, ⟨htakes₁, hschedule⟩, marker, _, hmarker,
    signer, _, htakes₃, vaultToken, _, htakes₄, user, _, ⟨htakes₅, hsigns⟩, userToken, _, htakes₆,
    hrest⟩ := h
  obtain ⟨htakes₂, hmarker⟩ := takes_marker hmarker
  obtain ⟨holder, _, hprograms, hholder, htakes₇⟩ := takes_holder hrest
  simp only [run_bind_eq_ok_iff, nextProgram_eq_ok_iff, run_pure_eq_ok_iff, run_get_eq_ok_iff,
    exists_const] at hprograms
  obtain ⟨_, ⟨htakes₈, -⟩, _, ⟨htakes₉, -⟩, _, _, ⟨rfl, rfl⟩, rfl, -⟩ := hprograms
  have hhead := (((((htakes.append htakes₁).append htakes₂).append htakes₃).append
    htakes₄).append htakes₅).append htakes₆
  exact
    { accounts := (((hhead.append htakes₇).append htakes₈).append htakes₉).addresses_eq
      loadedVault := hvault
      loaded := hschedule
      marker := hmarker
      signs := hsigns
      holder := hholder.trans Bool.decide_eq_true }

/-- What it takes to redeem: the chain after the marker was stored, and after both legs were
paid. -/
structure Redeemed (c : Chain) (call : Call) (r : RedeemRequest) (a : RedeemAccounts)
    (marker : Option Marker) (settlement : Settlement) (marked paid : Chain) (out : Outcome) :
    Prop where
  taken : RedeemTaken c call r.entitlement a
  checked : requireRedeemAccounts call a r.entitlement = .ok ()
  passed : passGate c a r.entitlement = .ok ()
  found : findMarker c a r = .ok marker
  settled : (r.claim a.user).settle a.schedule.record marker call.now = .ok settlement
  storeMarker : storeMarker c a settlement.marker = .ok marked
  payOut : payOut call marked a settlement.payout = .ok paid
  stored : paid.storeRecord a.schedule.address settlement.schedule = .ok out.chain
  event : out.event = .redeemed a.schedule.address r.index a.user
    settlement.payout.receiving.asset.mint r.receivingAmount r.sendingAmount call.now

theorem of_redeem {r : RedeemRequest} (h : redeem c call r = .ok out) :
    ∃ a marker settlement marked paid,
      Redeemed c call r a marker settlement marked paid out := by
  simp only [redeem, run'_eq_ok_iff, bind_eq_ok_iff, pure_eq_ok_iff, lift_refusal_eq_ok_iff,
    lift_entry_eq_ok_iff] at h
  obtain ⟨a, ⟨rest, htake⟩, ⟨⟩, hchecked, ⟨⟩, hpassed, marker, hfound, settlement, hsettled, marked,
    hmarked, paid, hpaid, chain, hstored, rfl⟩ := h
  exact ⟨a, marker, settlement, marked, paid,
    { taken := of_takeRedeemAccounts htake
      checked := hchecked
      passed := hpassed
      found := hfound
      settled := hsettled
      storeMarker := hmarked
      payOut := hpaid
      stored := hstored
      event := rfl }⟩

end Disbursement.Program
