import Disbursement.Program.Custody
import Disbursement.Proofs.Codec
import Disbursement.Proofs.Program.Accounts

/-!
# Derived identities

The seeds of an identity are hashed without separators between them. They can still be told apart:
the first byte says the kind (`Identity.head?_flatten_seeds`), and the fields of a kind have fixed
widths (`Identity.flatten_seeds_inj`). Program and domain mark follow behind the bump and are the
same for all, so what is hashed says the identity and the bump (`Identity.preimage_inj`). Two
identities at one address are therefore a collision of the hash function, and its two sides are
named.

`DerivedAddress.create_of_find` is about the search: the bump it ends with derives the address it
returns. That is why custody can sign for the account that the check of the seeds lets through.
-/

namespace Disbursement

/-! ## Derivation -/

namespace DerivedAddress

variable {seeds seeds' : List Bytes} {program address : Address} {bump : UInt8}

theorem create_eq_some_iff :
    create seeds program = some address ↔
      Edwards25519.isPoint (Sha256.digest (preimage seeds program)) = false ∧
        Sha256.digest (preimage seeds program) = address := by
  unfold create
  by_cases hpoint : Edwards25519.isPoint (Sha256.digest (preimage seeds program)) = true
  · simp [hpoint]
  · simp [hpoint]

/-- The bump that the search ends with derives the address that it returns. -/
theorem create_of_find (h : find seeds program = some (address, bump)) :
    create (seeds ++ [[bump]]) program = some address := by
  obtain ⟨tried, -, htried⟩ := List.exists_of_findSome?_eq_some h
  obtain ⟨found, hfound, hpair⟩ := Option.map_eq_some_iff.1 htried
  obtain ⟨rfl, rfl⟩ := Prod.mk.inj hpair
  exact hfound

/-- What follows the seeds is the same for all of them. -/
theorem flatten_eq_of_preimage_eq (h : preimage seeds program = preimage seeds' program) :
    seeds.flatten = seeds'.flatten := by
  unfold preimage at h
  exact List.append_cancel_right (List.append_cancel_right h)

end DerivedAddress

/-! ## Seeds -/

namespace Identity

variable {i j : Identity} {program address : Address} {bump bump' : UInt8}

/-- The first byte of all seeds of a kind. -/
def firstByte : Identity → UInt8
  | vault _ => 93
  | signer _ => 2
  | schedule _ => 244
  | marker .. => 114

theorem head?_flatten_seeds (i : Identity) : i.seeds.flatten.head? = some i.firstByte := by
  cases i with
  | vault path => rfl
  | signer account => rfl
  | schedule eventId => rfl
  | marker eventId index key =>
    have hseed : markerSeed.head? = some 114 := by decide
    simp only [seeds, List.flatten_cons, List.head?_append, hseed, firstByte, Option.some_or]

/-- Seeds that are one after another the same bytes are the same seeds. -/
theorem flatten_seeds_inj (h : i.seeds.flatten = j.seeds.flatten) : i = j := by
  have hkind : i.firstByte = j.firstByte := by
    have hhead := congrArg List.head? h
    rw [head?_flatten_seeds, head?_flatten_seeds] at hhead
    exact Option.some.inj hhead
  cases i with
  | vault path =>
    cases j with
    | vault path' =>
      have hfields := List.append_cancel_left h
      obtain ⟨rfl, -⟩ :=
        (Codec.readsBack_bytes32 path).append_inj (Codec.readsBack_bytes32 path') hfields
      rfl
    | signer | schedule | marker => exact absurd hkind (by simp [firstByte])
  | signer account =>
    cases j with
    | signer account' =>
      have hfields := List.append_cancel_left h
      obtain ⟨rfl, -⟩ :=
        (Codec.readsBack_bytes32 account).append_inj (Codec.readsBack_bytes32 account') hfields
      rfl
    | vault | schedule | marker => exact absurd hkind (by simp [firstByte])
  | schedule eventId =>
    cases j with
    | schedule eventId' =>
      have hfields := List.append_cancel_left h
      obtain ⟨rfl, -⟩ :=
        (Codec.readsBack_u64 eventId).append_inj (Codec.readsBack_u64 eventId') hfields
      rfl
    | vault | signer | marker => exact absurd hkind (by simp [firstByte])
  | marker eventId index key =>
    cases j with
    | marker eventId' index' key' =>
      -- one field after another is read off the front
      have hfields : Codec.u64.encode eventId ++
          (Codec.u16.encode index ++ (Codec.bytes32.encode key ++ [])) =
          Codec.u64.encode eventId' ++
            (Codec.u16.encode index' ++ (Codec.bytes32.encode key' ++ [])) :=
        List.append_cancel_left h
      obtain ⟨rfl, hindex⟩ :=
        (Codec.readsBack_u64 eventId).append_inj (Codec.readsBack_u64 eventId') hfields
      obtain ⟨rfl, hkey⟩ :=
        (Codec.readsBack_u16 index).append_inj (Codec.readsBack_u16 index') hindex
      obtain ⟨rfl, -⟩ :=
        (Codec.readsBack_bytes32 key).append_inj (Codec.readsBack_bytes32 key') hkey
      rfl
    | vault | signer | schedule => exact absurd hkind (by simp [firstByte])

theorem flatten_seedsWith (i : Identity) (bump : UInt8) :
    (i.seedsWith bump).flatten = i.seeds.flatten ++ [bump] := by
  simp [seedsWith]

/-- The seeds with which custody signs. -/
theorem seedsWith_signer (vault : Address) (bump : UInt8) :
    (signer vault).seedsWith bump = [signerSeed, vault.toList, [bump]] :=
  rfl

/-- What is hashed says the identity and the bump. -/
theorem preimage_inj (h : DerivedAddress.preimage (i.seedsWith bump) program =
    DerivedAddress.preimage (j.seedsWith bump') program) : i = j ∧ bump = bump' := by
  have hseeds := DerivedAddress.flatten_eq_of_preimage_eq h
  rw [flatten_seedsWith, flatten_seedsWith] at hseeds
  obtain ⟨hfields, hbump⟩ := List.append_inj' hseeds rfl
  exact ⟨flatten_seeds_inj hfields, List.singleton_inj.1 hbump⟩

theorem addressWith_of_find (h : i.find program = some (address, bump)) :
    i.addressWith bump program = some address :=
  DerivedAddress.create_of_find h

/-- The address of an identity is the digest of what was hashed with the bump that was found. -/
theorem digest_of_find (h : i.find program = some (address, bump)) :
    Sha256.digest (DerivedAddress.preimage (i.seedsWith bump) program) = address :=
  (DerivedAddress.create_eq_some_iff.1 (addressWith_of_find h)).2

/-! ## The results -/

/-- Derived identities cannot be confused. What is hashed for the address of an identity says which
one it is and with which bump. If the same address is found for two identities, then what was hashed
for the one and for the other differ and have one digest. And where the signer of a vault is found,
the seeds of custody with the bump that was found derive that account: it is the one that the check
of the seeds lets through, and the one that custody signs for besides what the call itself signs. -/
theorem identities_are_not_confused (program : Address) :
    (∀ (i j : Identity) (bump bump' : UInt8), (i, bump) ≠ (j, bump') →
      DerivedAddress.preimage (i.seedsWith bump) program ≠
        DerivedAddress.preimage (j.seedsWith bump') program) ∧
    (∀ (i j : Identity) address bump bump', i.find program = some (address, bump) →
      j.find program = some (address, bump') → i = j ∨
        DerivedAddress.preimage (i.seedsWith bump) program ≠
            DerivedAddress.preimage (j.seedsWith bump') program ∧
          Sha256.digest (DerivedAddress.preimage (i.seedsWith bump) program) =
            Sha256.digest (DerivedAddress.preimage (j.seedsWith bump') program)) ∧
    (∀ vault address bump, (signer vault).find program = some (address, bump) →
      DerivedAddress.create [signerSeed, vault.toList, [bump]] program = some address) ∧
    ∀ vault address bump, (signer vault).find Address.program = some (address, bump) →
      (∀ account, Program.requireSeeds (.signer vault) bump account = .ok () ↔ account = address) ∧
      ∀ call account,
        (Program.Custody.privileges ⟨vault, bump, address⟩ call).signs account = true ↔
          call.signs account = true ∨ account = address := by
  refine ⟨?_, ?_, ?_, ?_⟩
  · intro i j bump bump' hne hsame
    obtain ⟨rfl, rfl⟩ := preimage_inj hsame
    exact hne rfl
  · intro i j address bump bump' hi hj
    by_cases hij : i = j
    · exact .inl hij
    · refine .inr ⟨?_, ?_⟩
      · intro hsame
        exact hij (preimage_inj hsame).1
      · rw [digest_of_find hi, digest_of_find hj]
  · intro vault address bump hfind
    have hderived := addressWith_of_find hfind
    rw [addressWith, seedsWith_signer] at hderived
    exact hderived
  · intro vault address bump hfind
    have hderived := addressWith_of_find hfind
    refine ⟨?_, ?_⟩
    · intro account
      rw [Program.requireSeeds_eq_ok_iff, hderived, Option.some.injEq]
      exact eq_comm
    · intro call account
      simp only [Program.Custody.privileges, Call.privileges, hderived, Bool.or_eq_true, beq_iff_eq,
        Option.some.injEq]
      exact or_congr_right eq_comm

/-- The custody signer of the key 3, for which three bumps give points of the curve. -/
def thirdSigner : Address :=
  Bytes32.ofNatBE 0xed76412ec4400cc77513dad592c96d038732bec5fafc3cecb7e6b322fcc1e2ff

theorem identity_of_third_signer :
    DerivedAddress.preimage ((marker 0 256 thirdSigner).seedsWith 255) Address.program ≠
      DerivedAddress.preimage ((marker 0 1 thirdSigner).seedsWith 255) Address.program ∧
    (∀ i bump, i.find Address.program = some (thirdSigner, bump) →
      i = signer (Bytes32.ofNatBE 3) ∨ ∃ x y, x ≠ y ∧ Sha256.digest x = Sha256.digest y) ∧
    DerivedAddress.create [signerSeed, (Bytes32.ofNatBE 3).toList, [252]] Address.program =
      some thirdSigner ∧
    Program.requireSeeds (.signer (Bytes32.ofNatBE 3)) 252 thirdSigner = .ok () := by
  have hfind : (signer (Bytes32.ofNatBE 3)).find Address.program = some (thirdSigner, 252) := by
    decide +kernel
  obtain ⟨hdiffer, hcollide, hseeds, hcustody⟩ := identities_are_not_confused Address.program
  refine ⟨hdiffer _ _ _ _ (by decide), ?_, hseeds _ _ _ hfind, ?_⟩
  · intro i bump hi
    rcases hcollide _ _ _ _ _ hi hfind with hsame | ⟨hne, hdigest⟩
    · exact .inl hsame
    · exact .inr ⟨_, _, hne, hdigest⟩
  · exact ((hcustody _ _ _ hfind).1 _).2 rfl

end Identity

end Disbursement
