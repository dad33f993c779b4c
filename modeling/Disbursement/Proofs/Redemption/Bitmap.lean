import Disbursement.Redemption.Bitmap

/-!
# One bit per leaf

The bit of an index lies in the byte `byteIndex` and there under `mask`. Two indices that share a
byte have disjoint masks, so `RedemptionBitmap.mark` sets the bit of its own index and no other:

* `mark_eq_ok_iff` says exactly what a successful mark does.
* `isRedeemed_mark` and `isRedeemed_mark_of_ne` read the bits afterwards.
* `Extends` is what a bitmap may become: of the same size, with no bit cleared. It is a preorder,
  and every mark is a step of it.
-/

namespace Disbursement.RedemptionBitmap

variable {b marked : RedemptionBitmap} {i j : UInt16}

/-! ## Masks -/

theorem mask_ne_zero (i : UInt16) : mask i ≠ 0 := by
  have hall : ∀ k : Fin 8, (1 : UInt8) <<< UInt8.ofNat k ≠ 0 := by decide
  exact hall ⟨i.toNat % 8, Nat.mod_lt _ (by decide)⟩

/-- Two indices in one byte have different bits there. -/
theorem mask_and_mask (hbyte : byteIndex i = byteIndex j) (hne : i ≠ j) :
    mask i &&& mask j = 0 := by
  have hall : ∀ k l : Fin 8, k ≠ l →
      (1 : UInt8) <<< UInt8.ofNat k &&& (1 : UInt8) <<< UInt8.ofNat l = 0 := by decide
  refine hall ⟨i.toNat % 8, Nat.mod_lt _ (by decide)⟩ ⟨j.toNat % 8, Nat.mod_lt _ (by decide)⟩ ?_
  intro hbit
  have hbit : i.toNat % 8 = j.toNat % 8 := Fin.mk.inj hbit
  unfold byteIndex at hbyte
  exact hne (UInt16.toNat_inj.1 (by omega))

theorem or_and_distrib (x y z : UInt8) : (x ||| y) &&& z = x &&& z ||| y &&& z :=
  UInt8.toBitVec_inj.1 BitVec.and_or_distrib_right

/-! ## One mark -/

theorem isRedeemed_eq_ok_iff {redeemed : Bool} :
    b.isRedeemed i = .ok redeemed ↔
      ∃ byte, b.bytes[byteIndex i]? = some byte ∧ (byte &&& mask i != 0) = redeemed := by
  simp only [isRedeemed, byteAt, bind_eq_ok_iff, demand_eq_ok_iff, pure, Except.pure,
    Except.ok.injEq]

theorem mark_eq_ok_iff :
    b.mark i = .ok marked ↔
      ∃ byte, b.bytes[byteIndex i]? = some byte ∧ byte &&& mask i = 0 ∧
        (⟨b.bytes.set (byteIndex i) (byte ||| mask i)⟩ : RedemptionBitmap) = marked := by
  simp only [mark, byteAt, bind_eq_ok_iff, demand_eq_ok_iff, ensure_eq_ok_iff, exists_const, pure,
    Except.pure, Except.ok.injEq]

theorem size_mark (h : b.mark i = .ok marked) : marked.size = b.size := by
  obtain ⟨byte, -, -, rfl⟩ := mark_eq_ok_iff.1 h
  exact List.length_set

/-- What was marked was free before. -/
theorem isRedeemed_of_mark (h : b.mark i = .ok marked) : b.isRedeemed i = .ok false := by
  obtain ⟨byte, hget, hfree, -⟩ := mark_eq_ok_iff.1 h
  exact isRedeemed_eq_ok_iff.2 ⟨byte, hget, by rw [hfree]; rfl⟩

theorem isRedeemed_mark (h : b.mark i = .ok marked) : marked.isRedeemed i = .ok true := by
  obtain ⟨byte, hget, hfree, rfl⟩ := mark_eq_ok_iff.1 h
  obtain ⟨hlt, -⟩ := List.getElem?_eq_some_iff.1 hget
  refine isRedeemed_eq_ok_iff.2 ⟨byte ||| mask i, List.getElem?_set_self hlt, ?_⟩
  rw [or_and_distrib, hfree, UInt8.and_self, UInt8.zero_or]
  exact bne_iff_ne.2 (mask_ne_zero i)

/-- The other bits stay, also those in the same byte. -/
theorem isRedeemed_mark_of_ne (h : b.mark i = .ok marked) (hne : i ≠ j) :
    marked.isRedeemed j = b.isRedeemed j := by
  obtain ⟨byte, hget, -, rfl⟩ := mark_eq_ok_iff.1 h
  obtain ⟨hlt, -⟩ := List.getElem?_eq_some_iff.1 hget
  unfold isRedeemed byteAt
  by_cases hbyte : byteIndex i = byteIndex j
  · have hsame : (byte ||| mask i) &&& mask j = byte &&& mask j := by
      rw [or_and_distrib, mask_and_mask hbyte hne, UInt8.or_zero]
    rw [← hbyte, List.getElem?_set_self hlt, hget]
    show Except.ok ((byte ||| mask i) &&& mask j != 0) = Except.ok (byte &&& mask j != 0)
    rw [hsame]
  · rw [List.getElem?_set_ne hbyte]

-- the ninth leaf is the first bit of the second byte
example : (empty 9).mark 8 = .ok ⟨[0, 1]⟩ := rfl

/-! ## Many marks -/

/-- What a bitmap may become: no byte more or fewer, and no bit cleared. -/
structure Extends (earlier later : RedemptionBitmap) : Prop where
  size_eq : later.size = earlier.size
  redeemed : ∀ i, earlier.isRedeemed i = .ok true → later.isRedeemed i = .ok true

namespace Extends

theorem refl (b : RedemptionBitmap) : Extends b b where
  size_eq := rfl
  redeemed _ h := h

theorem trans {c : RedemptionBitmap} (h : Extends b marked) (h' : Extends marked c) :
    Extends b c where
  size_eq := h'.size_eq.trans h.size_eq
  redeemed i hi := h'.redeemed i (h.redeemed i hi)

theorem of_mark (h : b.mark i = .ok marked) : Extends b marked where
  size_eq := size_mark h
  redeemed j hj := by
    by_cases hij : i = j
    · exact hij ▸ isRedeemed_mark h
    · rw [isRedeemed_mark_of_ne h hij, hj]

/-- A bit that is set is not set again. -/
theorem not_mark {later : RedemptionBitmap} (h : Extends b later)
    (hset : b.isRedeemed i = .ok true) : later.mark i ≠ .ok marked := by
  intro hmark
  have hfree := isRedeemed_of_mark hmark
  rw [h.redeemed i hset] at hfree
  exact absurd (Except.ok.inj hfree) (by decide)

end Extends

end Disbursement.RedemptionBitmap
