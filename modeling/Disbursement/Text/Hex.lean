import Disbursement.Bytes

/-!
# Hexadecimal text

Two digits a byte, the high half first. `Hex.encode` writes lowercase digits, `Hex.decode?` reads
digits of either case; `Hex.decode?_encode` says that it reads back what was written.
-/

namespace Disbursement.Hex

/-- The two digits of a byte. -/
def digits (byte : UInt8) : List Char :=
  [Nat.digitChar (byte.toNat / 16), Nat.digitChar (byte.toNat % 16)]

/-- The text of a byte string. -/
def encode (bs : Bytes) : String :=
  String.ofList (bs.flatMap digits)

/-- The value of a digit. -/
def value? (digit : Char) : Option Nat :=
  if '0' ≤ digit ∧ digit ≤ '9' then some (digit.toNat - '0'.toNat)
  else if 'a' ≤ digit ∧ digit ≤ 'f' then some (digit.toNat - 'a'.toNat + 10)
  else if 'A' ≤ digit ∧ digit ≤ 'F' then some (digit.toNat - 'A'.toNat + 10)
  else none

/-- The bytes that pairs of digits stand for. -/
def decodeDigits : List Char → Option Bytes
  | [] => some []
  | [_] => none
  | high :: low :: rest => do
    let high ← value? high
    let low ← value? low
    let bytes ← decodeDigits rest
    return UInt8.ofNat (16 * high + low) :: bytes

/-- The byte string of a text. -/
def decode? (text : String) : Option Bytes :=
  decodeDigits text.toList

/-! ## Reading what was written -/

theorem value?_digitChar {n : Nat} (h : n < 16) : value? (Nat.digitChar n) = some n := by
  have all : ∀ n < 16, value? (Nat.digitChar n) = some n := by decide
  exact all n h

theorem decodeDigits_flatMap (bs : Bytes) : decodeDigits (bs.flatMap digits) = some bs := by
  induction bs with
  | nil => rfl
  | cons byte bs ih =>
    have hb := byte.toNat_lt
    have rebuilt : 16 * (byte.toNat / 16) + byte.toNat % 16 = byte.toNat := by omega
    simp only [List.flatMap_cons, digits, List.cons_append, List.nil_append, decodeDigits,
      value?_digitChar (show byte.toNat / 16 < 16 by omega),
      value?_digitChar (Nat.mod_lt byte.toNat (show 0 < 16 by decide)), ih, Option.bind_eq_bind,
      Option.bind_some, rebuilt, UInt8.ofNat_toNat, Option.pure_def]

theorem decode?_encode (bs : Bytes) : decode? (encode bs) = some bs := by
  rw [decode?, encode, String.toList_ofList, decodeDigits_flatMap]

end Disbursement.Hex
