/-!
# Byte strings

Everything that leaves the library is a byte string: account data, hash inputs, address seeds.
This module holds the representation and the three views of it that the other modules share.

* `Bytes` is a list of bytes; `Bytes32` is one of length thirty-two, which is what an account
  address and a digest are.
* `Bytes.ofNatLE` and `Bytes.toNatLE` are fixed-width little-endian numbers;
  `Bytes.ofNatLE_toNatLE` says that writing undoes reading.
* `Bytes.writeOver` puts a byte string at the start of a buffer whose length does not change.
-/

namespace Disbursement

/-- A byte string. -/
abbrev Bytes := List UInt8

namespace Bytes

/-! ## Little-endian numbers -/

/-- The low `width` bytes of a number, least significant first. -/
def ofNatLE : Nat → Nat → Bytes
  | 0, _ => []
  | width + 1, n => UInt8.ofNat n :: ofNatLE width (n / 256)

/-- The number whose bytes, least significant first, are given. -/
def toNatLE : Bytes → Nat
  | [] => 0
  | b :: bs => b.toNat + 256 * toNatLE bs

@[simp] theorem length_ofNatLE (width n : Nat) : (ofNatLE width n).length = width := by
  induction width generalizing n with
  | zero => rfl
  | succ width ih => simp [ofNatLE, ih]

theorem ofNatLE_toNatLE (bs : Bytes) : ofNatLE bs.length (toNatLE bs) = bs := by
  induction bs with
  | nil => rfl
  | cons b bs ih =>
    have hb := b.toNat_lt
    have hdiv : (b.toNat + 256 * toNatLE bs) / 256 = toNatLE bs := by omega
    simp only [List.length_cons, ofNatLE, toNatLE, hdiv, ih]
    congr 1
    apply UInt8.toNat_inj.1
    rw [UInt8.toNat_ofNat']
    omega

/-! ## Big-endian numbers and blocks -/

/-- The low `width` bytes of a number, most significant first. -/
def ofNatBE (width n : Nat) : Bytes :=
  (ofNatLE width n).reverse

/-- The number whose bytes, most significant first, are given. -/
def toNatBE (bs : Bytes) : Nat :=
  toNatLE bs.reverse

@[simp] theorem length_ofNatBE (width n : Nat) : (ofNatBE width n).length = width := by
  simp [ofNatBE]

/-- The consecutive pieces of `size` bytes, without the remainder that does not fill one. -/
def blocks (size : Nat) (bs : Bytes) : List Bytes :=
  (List.range (bs.length / size)).map fun i => (bs.drop (size * i)).take size

/-- The UTF-8 bytes of a text. -/
def ofText (text : String) : Bytes :=
  text.toUTF8.data.toList

/-! ## Writing into a buffer -/

/-- The buffer after `source` is written at its start. Its length stays; what does not fit of
`source` is dropped and what lies behind it keeps its old bytes. -/
def writeOver (buffer source : Bytes) : Bytes :=
  source.take buffer.length ++ buffer.drop source.length

@[simp] theorem length_writeOver (buffer source : Bytes) :
    (writeOver buffer source).length = buffer.length := by
  simp only [writeOver, List.length_append, List.length_take, List.length_drop]
  omega

theorem writeOver_of_length_le {buffer source : Bytes} (h : source.length ≤ buffer.length) :
    writeOver buffer source = source ++ buffer.drop source.length := by
  rw [writeOver, List.take_of_length_le h]

end Bytes

/-! ## Thirty-two bytes -/

/-- A byte string of length thirty-two. -/
structure Bytes32 where
  /-- The bytes in order. -/
  toList : Bytes
  /-- There are thirty-two of them. -/
  length_toList : toList.length = 32
  deriving DecidableEq

/-- The key that names an account. -/
abbrev Address := Bytes32

/-- The result of a hash function. -/
abbrev Digest := Bytes32

namespace Bytes32

attribute [simp] length_toList

@[ext] theorem ext {a b : Bytes32} (h : a.toList = b.toList) : a = b := by
  cases a; cases b; cases h; rfl

/-- The value with these bytes, if there are thirty-two of them. -/
def ofList? (bs : Bytes) : Option Bytes32 :=
  if h : bs.length = 32 then some ⟨bs, h⟩ else none

/-- The number below `2 ^ 256`, written big-endian. -/
def ofNatBE (n : Nat) : Bytes32 :=
  ⟨Bytes.ofNatBE 32 n, Bytes.length_ofNatBE 32 n⟩

/-- Thirty-two zero bytes. -/
def zero : Bytes32 :=
  ⟨List.replicate 32 0, List.length_replicate⟩

@[simp] theorem ofList?_toList (a : Bytes32) : ofList? a.toList = some a := by
  simp [ofList?]

end Bytes32

end Disbursement
