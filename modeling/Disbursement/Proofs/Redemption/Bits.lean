import Disbursement.Proofs.Redemption.Bitmap
import Mathlib.Algebra.GroupWithZero.Nat
import Mathlib.Data.Nat.Bitwise

/-!
# Bits by position

A bitmap read as a set of positions. `RedemptionBitmap.bitAt` gives the bit at any position, and the
operations are said in terms of it:

* `isRedeemed_eq_ok_iff_bitAt` and `exists_mark_iff` are what is read and when a mark succeeds.
* `bitAt_mark`: a mark adds its own position and no other.
* `count_eq_countP`: the count is the number of positions with a set bit.
* `ListedBy`: a list has exactly the redeemed indices.

A bitmap is `Confined` to the first `n` positions if no bit behind them is set, which is what keeps
the spare bits of the last byte clear.
-/

namespace Disbursement.RedemptionBitmap

variable {b marked : RedemptionBitmap} {i : UInt16} {n position : Nat}

/-- The bit at a position; there is none set behind the last byte. -/
def bitAt (b : RedemptionBitmap) (position : Nat) : Bool :=
  match b.bytes[position / 8]? with
  | some byte => byte.toNat.testBit (position % 8)
  | none => false

theorem bitAt_eq_of_getElem? {byte : UInt8} (h : b.bytes[position / 8]? = some byte) :
    b.bitAt position = byte.toNat.testBit (position % 8) := by
  rw [bitAt, h]

/-! ## Masks -/

theorem toNat_mask (i : UInt16) : (mask i).toNat = 2 ^ (i.toNat % 8) := by
  have hall : ∀ k : Fin 8, ((1 : UInt8) <<< UInt8.ofNat k).toNat = 2 ^ k.val := by decide
  exact hall ⟨i.toNat % 8, Nat.mod_lt _ (by decide)⟩

theorem and_mask_eq_zero_iff (byte : UInt8) (i : UInt16) :
    byte &&& mask i = 0 ↔ byte.toNat.testBit (i.toNat % 8) = false := by
  rw [← UInt8.toNat_inj, UInt8.toNat_and, toNat_mask, Nat.and_two_pow]
  cases byte.toNat.testBit (i.toNat % 8) <;> simp

/-- Adding a bit to a byte. -/
theorem testBit_or_mask (byte : UInt8) (i : UInt16) (k : Nat) :
    (byte ||| mask i).toNat.testBit k = (byte.toNat.testBit k || decide (i.toNat % 8 = k)) := by
  rw [UInt8.toNat_or, Nat.testBit_or, toNat_mask, Nat.testBit_two_pow]

/-! ## Reading and marking -/

theorem exists_byte_iff : (∃ byte, b.bytes[byteIndex i]? = some byte) ↔ i.toNat < 8 * b.size := by
  unfold byteIndex size
  constructor
  · rintro ⟨byte, hget⟩
    obtain ⟨hlt, -⟩ := List.getElem?_eq_some_iff.1 hget
    omega
  · intro hlt
    exact ⟨_, List.getElem?_eq_getElem (by omega)⟩

theorem isRedeemed_eq_ok_iff_bitAt {redeemed : Bool} :
    b.isRedeemed i = .ok redeemed ↔ i.toNat < 8 * b.size ∧ b.bitAt i.toNat = redeemed := by
  have hbit (byte : UInt8) :
      (byte &&& mask i != 0) = byte.toNat.testBit (i.toNat % 8) := by
    cases htest : byte.toNat.testBit (i.toNat % 8) with
    | false => rw [(and_mask_eq_zero_iff byte i).2 htest, bne_self_eq_false]
    | true =>
      refine bne_iff_ne.2 fun hzero => ?_
      rw [(and_mask_eq_zero_iff byte i).1 hzero] at htest
      exact absurd htest (by decide)
  rw [isRedeemed_eq_ok_iff, ← exists_byte_iff]
  constructor
  · rintro ⟨byte, hget, rfl⟩
    exact ⟨⟨byte, hget⟩, by rw [bitAt_eq_of_getElem? hget, hbit]⟩
  · rintro ⟨⟨byte, hget⟩, rfl⟩
    exact ⟨byte, hget, by rw [bitAt_eq_of_getElem? hget, hbit]⟩

/-- A mark succeeds on a position that the bitmap has and whose bit is not set. -/
theorem exists_mark_iff :
    (∃ marked, b.mark i = .ok marked) ↔ i.toNat < 8 * b.size ∧ b.bitAt i.toNat = false := by
  rw [← isRedeemed_eq_ok_iff_bitAt]
  constructor
  · rintro ⟨marked, hmark⟩
    exact isRedeemed_of_mark hmark
  · intro hfree
    obtain ⟨byte, hget, hbyte⟩ := isRedeemed_eq_ok_iff.1 hfree
    exact ⟨_, mark_eq_ok_iff.2 ⟨byte, hget, by simpa using hbyte, rfl⟩⟩

/-- A position whose bit is set is refused as redeemed. -/
theorem mark_eq_alreadyRedeemed (h : b.isRedeemed i = .ok true) :
    b.mark i = .error .alreadyRedeemed := by
  obtain ⟨byte, hget, hset⟩ := isRedeemed_eq_ok_iff.1 h
  have hbyte : b.byteAt i = .ok byte := by rw [byteAt, hget]; rfl
  have hne : ¬byte &&& mask i = 0 := by simpa using hset
  simp [mark, hbyte, ensure, hne, bind, Except.bind]

theorem byteAt_eq_indexOutOfRange (h : ¬i.toNat < 8 * b.size) :
    b.byteAt i = .error .indexOutOfRange := by
  have hnone : b.bytes[byteIndex i]? = none := by
    rw [← exists_byte_iff] at h
    exact Option.eq_none_iff_forall_ne_some.2 fun byte hget => h ⟨byte, hget⟩
  rw [byteAt, hnone]
  rfl

/-- A position behind the last byte is not read. -/
theorem isRedeemed_eq_indexOutOfRange (h : ¬i.toNat < 8 * b.size) :
    b.isRedeemed i = .error .indexOutOfRange := by
  rw [isRedeemed, byteAt_eq_indexOutOfRange h]
  rfl

/-- A position behind the last byte is refused as out of range. -/
theorem mark_eq_indexOutOfRange (h : ¬i.toNat < 8 * b.size) :
    b.mark i = .error .indexOutOfRange := by
  rw [mark, byteAt_eq_indexOutOfRange h]
  rfl

/-- Whether a mark succeeds, and how it is refused, depends on the size and on the bit of the
index. -/
theorem map_mark_eq_map_mark {c : RedemptionBitmap} {α : Type} (value : α)
    (hsize : c.size = b.size) (hbit : c.bitAt i.toNat = b.bitAt i.toNat) :
    (c.mark i).map (fun _ => value) = (b.mark i).map fun _ => value := by
  by_cases hrange : i.toNat < 8 * b.size
  · have hrange' : i.toNat < 8 * c.size := by rw [hsize]; exact hrange
    cases hset : b.bitAt i.toNat with
    | true =>
      rw [mark_eq_alreadyRedeemed (isRedeemed_eq_ok_iff_bitAt.2 ⟨hrange, hset⟩),
        mark_eq_alreadyRedeemed (isRedeemed_eq_ok_iff_bitAt.2 ⟨hrange', hbit.trans hset⟩)]
    | false =>
      obtain ⟨marked, hmark⟩ := exists_mark_iff.2 ⟨hrange, hset⟩
      obtain ⟨marked', hmark'⟩ := exists_mark_iff.2 ⟨hrange', hbit.trans hset⟩
      rw [hmark, hmark']
      rfl
  · have hrange' : ¬i.toNat < 8 * c.size := by rw [hsize]; exact hrange
    rw [mark_eq_indexOutOfRange hrange, mark_eq_indexOutOfRange hrange']

/-- A mark sets the bit at its own position. -/
theorem bitAt_mark (h : b.mark i = .ok marked) (position : Nat) :
    marked.bitAt position = (b.bitAt position || decide (i.toNat = position)) := by
  obtain ⟨byte, hget, -, rfl⟩ := mark_eq_ok_iff.1 h
  obtain ⟨hlt, -⟩ := List.getElem?_eq_some_iff.1 hget
  by_cases hbyte : byteIndex i = position / 8
  · have hset : (b.bytes.set (byteIndex i) (byte ||| mask i))[position / 8]? =
        some (byte ||| mask i) := by
      rw [← hbyte, List.getElem?_set_self hlt]
    have hsame : decide (i.toNat % 8 = position % 8) = decide (i.toNat = position) := by
      unfold byteIndex at hbyte
      exact decide_eq_decide.2 (by omega)
    rw [hbyte] at hget
    rw [bitAt_eq_of_getElem? hset, bitAt_eq_of_getElem? hget, testBit_or_mask, hsame]
  · have hne : i.toNat ≠ position := by
      rintro rfl
      exact hbyte rfl
    unfold bitAt
    rw [List.getElem?_set_ne hbyte, decide_eq_false hne, Bool.or_false]

/-- Bitmaps of one size with the same bits are the same. -/
theorem eq_of_bitAt_eq {c : RedemptionBitmap} (hsize : b.size = c.size)
    (h : ∀ position, b.bitAt position = c.bitAt position) : b = c := by
  obtain ⟨bytes⟩ := b
  obtain ⟨others⟩ := c
  have hbytes : bytes = others := List.ext_getElem hsize fun k hk hk' => by
    refine UInt8.toNat_inj.1 (Nat.eq_of_testBit_eq fun j => ?_)
    by_cases hj : j < 8
    · have hdiv : (8 * k + j) / 8 = k := by omega
      have hmod : (8 * k + j) % 8 = j := by omega
      have hbit := h (8 * k + j)
      rw [bitAt_eq_of_getElem? (by rw [hdiv]; exact List.getElem?_eq_getElem hk),
        bitAt_eq_of_getElem? (by rw [hdiv]; exact List.getElem?_eq_getElem hk'), hmod] at hbit
      exact hbit
    · -- a byte has no bits from the eighth on
      have hpow : 2 ^ 8 ≤ 2 ^ j := Nat.pow_le_pow_right (by decide) (by omega)
      have hclear (byte : UInt8) : byte.toNat.testBit j = false :=
        Nat.testBit_lt_two_pow (Nat.lt_of_lt_of_le byte.toNat_lt hpow)
      rw [hclear, hclear]
  rw [hbytes]

/-! ## A new bitmap -/

@[simp] theorem size_empty (leafCount : UInt16) : (empty leafCount).size = byteLength leafCount :=
  List.length_replicate

@[simp] theorem bitAt_empty (leafCount : UInt16) (position : Nat) :
    (empty leafCount).bitAt position = false := by
  unfold bitAt empty
  rw [List.getElem?_replicate]
  by_cases h : position / 8 < byteLength leafCount
  · rw [if_pos h]
    exact Nat.zero_testBit _
  · rw [if_neg h]

/-- There is a bit for every leaf. -/
theorem toNat_le_byteLength (leafCount : UInt16) : leafCount.toNat ≤ 8 * byteLength leafCount := by
  unfold byteLength
  omega

/-! ## Counting -/

theorem bitAt_cons_of_lt (byte : UInt8) (bytes : Bytes) (h : position < 8) :
    bitAt ⟨byte :: bytes⟩ position = byte.toNat.testBit position := by
  have hget : (byte :: bytes)[position / 8]? = some byte := by
    rw [Nat.div_eq_of_lt h]
    rfl
  rw [bitAt, hget, Nat.mod_eq_of_lt h]

theorem bitAt_cons_add (byte : UInt8) (bytes : Bytes) (position : Nat) :
    bitAt ⟨byte :: bytes⟩ (8 + position) = bitAt ⟨bytes⟩ position := by
  have hdiv : (8 + position) / 8 = position / 8 + 1 := by omega
  have hmod : (8 + position) % 8 = position % 8 := by omega
  rw [bitAt, bitAt, hdiv, hmod, List.getElem?_cons_succ]

theorem count_eq_countP (b : RedemptionBitmap) :
    b.count = (List.range (8 * b.size)).countP b.bitAt := by
  obtain ⟨bytes⟩ := b
  induction bytes with
  | nil => rfl
  | cons byte bytes ih =>
    have hlength : 8 * size ⟨byte :: bytes⟩ = 8 + 8 * size ⟨bytes⟩ := by
      simp only [size, List.length_cons]
      omega
    have hfirst : (List.range 8).countP (bitAt ⟨byte :: bytes⟩) = bitCount byte :=
      List.countP_congr fun position hmem => by
        rw [bitAt_cons_of_lt byte bytes (List.mem_range.1 hmem)]
    have hrest : bitAt ⟨byte :: bytes⟩ ∘ (8 + ·) = bitAt ⟨bytes⟩ :=
      funext (bitAt_cons_add byte bytes)
    rw [hlength, List.range_add, List.countP_append, List.countP_map, hfirst, hrest, ← ih]
    rfl

/-- A mark adds one to the count. -/
theorem count_mark (h : b.mark i = .ok marked) : marked.count = b.count + 1 := by
  obtain ⟨hrange, hfree⟩ := exists_mark_iff.1 ⟨marked, h⟩
  obtain ⟨behind, hbehind⟩ := Nat.exists_eq_add_of_lt hrange
  have hother {position : Nat} (hne : i.toNat ≠ position) :
      marked.bitAt position = b.bitAt position := by
    rw [bitAt_mark h, decide_eq_false hne, Bool.or_false]
  have hself : marked.bitAt i.toNat = true := by
    rw [bitAt_mark h, decide_eq_true rfl, Bool.or_true]
  have hbefore : (List.range i.toNat).countP marked.bitAt = (List.range i.toNat).countP b.bitAt :=
    List.countP_congr fun position hmem => by
      have hlt := List.mem_range.1 hmem
      rw [hother (by omega)]
  have hafter : (List.range behind).countP (marked.bitAt ∘ (i.toNat + 1 + ·)) =
      (List.range behind).countP (b.bitAt ∘ (i.toNat + 1 + ·)) :=
    List.countP_congr fun position _ => by
      rw [Function.comp_apply, Function.comp_apply, hother (by omega)]
  -- the positions before the index, the index itself, and those behind it
  have hsplit (bitmap : RedemptionBitmap) (hsize : bitmap.size = b.size) :
      bitmap.count = (List.range i.toNat).countP bitmap.bitAt + [i.toNat].countP bitmap.bitAt +
        (List.range behind).countP (bitmap.bitAt ∘ (i.toNat + 1 + ·)) := by
    rw [count_eq_countP, hsize, hbehind, Nat.add_right_comm, List.range_add, List.countP_append,
      List.range_succ, List.countP_append, List.countP_map]
  rw [hsplit marked (size_mark h), hsplit b rfl, hbefore, hafter, List.countP_singleton,
    List.countP_singleton, if_pos hself, if_neg (by rw [hfree]; decide)]
  omega

/-- If the bits that are set are the first `n`, there are `n`. -/
theorem count_eq_of_bitAt (hsize : n ≤ 8 * b.size)
    (h : ∀ position, b.bitAt position = decide (position < n)) : b.count = n := by
  obtain ⟨spare, hspare⟩ := Nat.exists_eq_add_of_le hsize
  have hused : (List.range n).countP b.bitAt = (List.range n).length :=
    List.countP_eq_length.2 fun position hmem => by
      rw [h, decide_eq_true_iff]
      exact List.mem_range.1 hmem
  have hclear : (List.range spare).countP (b.bitAt ∘ (n + ·)) = 0 :=
    List.countP_eq_zero.2 fun position _ => by
      rw [Function.comp_apply, h, decide_eq_true_iff]
      omega
  rw [count_eq_countP, hspare, List.range_add, List.countP_append, List.countP_map, hused, hclear,
    List.length_range, Nat.add_zero]

/-! ## Confinement -/

/-- No bit is set at the position `n` or behind it. -/
def Confined (n : Nat) (b : RedemptionBitmap) : Prop :=
  ∀ position, n ≤ position → b.bitAt position = false

theorem confined_empty (n : Nat) (leafCount : UInt16) : (empty leafCount).Confined n :=
  fun _ _ => bitAt_empty leafCount _

theorem Confined.mark (h : b.Confined n) (hmark : b.mark i = .ok marked) (hi : i.toNat < n) :
    marked.Confined n := by
  intro position hle
  have hne : i.toNat ≠ position := by omega
  rw [bitAt_mark hmark, h position hle, decide_eq_false hne]
  rfl

/-! ## Lists of indices -/

/-- The list has exactly the redeemed indices, each of them once. -/
structure ListedBy (b : RedemptionBitmap) (indices : List UInt16) : Prop where
  nodup : indices.Nodup
  mem_iff : ∀ i, i ∈ indices ↔ b.isRedeemed i = .ok true

theorem listedBy_empty (leafCount : UInt16) : (empty leafCount).ListedBy [] where
  nodup := .nil
  mem_iff i := by
    rw [isRedeemed_eq_ok_iff_bitAt, bitAt_empty]
    exact iff_of_false List.not_mem_nil fun h => Bool.false_ne_true h.2

/-- What is marked comes behind what was. -/
theorem ListedBy.mark {indices : List UInt16} (h : b.ListedBy indices)
    (hmark : b.mark i = .ok marked) : marked.ListedBy (indices ++ [i]) where
  nodup := by
    have hfresh : i ∉ indices := by
      rw [h.mem_iff, isRedeemed_of_mark hmark]
      exact fun hset => Bool.false_ne_true (Except.ok.inj hset)
    have hapart : ∀ k ∈ indices, ∀ l ∈ [i], k ≠ l := fun k hk =>
      List.forall_mem_singleton.2 (ne_of_mem_of_not_mem hk hfresh)
    exact List.nodup_append.2 ⟨h.nodup, List.pairwise_singleton _ i, hapart⟩
  mem_iff j := by
    rw [List.mem_append, List.mem_singleton, h.mem_iff]
    by_cases hij : i = j
    · obtain rfl := hij
      exact iff_of_true (.inr rfl) (isRedeemed_mark hmark)
    · rw [isRedeemed_mark_of_ne hmark hij]
      exact or_iff_left (Ne.symm hij)

end Disbursement.RedemptionBitmap
