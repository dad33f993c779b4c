import Disbursement.Bytes

/-!
# Base58 text

The printed form of an address. The bytes are one big-endian number whose digits come from an
alphabet without the look-alikes `0`, `O`, `I` and `l`; each leading zero byte is written as a `1`.
-/

namespace Disbursement.Base58

/-- The fifty-eight digits in order of value. -/
def alphabet : List Char :=
  "123456789ABCDEFGHJKLMNPQRSTUVWXYZabcdefghijkmnopqrstuvwxyz".toList

/-- The digit of a value below fifty-eight. -/
def digit (value : Nat) : Char :=
  alphabet.getD value '1'

/-- The digits of a number, most significant first; zero has none. -/
def digits (n : Nat) : List Char :=
  if n = 0 then [] else digits (n / 58) ++ [digit (n % 58)]
termination_by n

/-- The text of a byte string. -/
def encode (bs : Bytes) : String :=
  String.ofList ((bs.takeWhile (· == 0)).map (fun _ => '1') ++ digits (Bytes.toNatBE bs))

end Disbursement.Base58
