import Disbursement.Check
import Disbursement.Codec
import Disbursement.Refusal

/-!
# Redemption bitmaps

One bit per leaf, least significant bit first within a byte. `RedemptionBitmap.isRedeemed` reads a
bit and `RedemptionBitmap.mark` sets one that is not set; both refuse an index behind the last byte.
-/

namespace Disbursement

/-- The redeemed leaves of a schedule as bits. -/
structure RedemptionBitmap where
  /-- The bits, eight to a byte. -/
  bytes : Bytes
  deriving DecidableEq

namespace RedemptionBitmap

/-- The number of bytes for so many bits. -/
def byteLength (leafCount : UInt16) : Nat :=
  (leafCount.toNat + 7) / 8

/-- No leaf redeemed. -/
def empty (leafCount : UInt16) : RedemptionBitmap :=
  ⟨List.replicate (byteLength leafCount) 0⟩

/-- The place of the byte that holds the bit of an index. -/
def byteIndex (index : UInt16) : Nat :=
  index.toNat / 8

/-- The bit of an index within its byte. -/
def mask (index : UInt16) : UInt8 :=
  1 <<< UInt8.ofNat (index.toNat % 8)

/-- The byte that holds the bit of an index. -/
def byteAt (b : RedemptionBitmap) (index : UInt16) : Except Refusal UInt8 :=
  demand b.bytes[byteIndex index]? .indexOutOfRange

/-- Whether the leaf is redeemed. -/
def isRedeemed (b : RedemptionBitmap) (index : UInt16) : Except Refusal Bool := do
  let byte ← b.byteAt index
  return byte &&& mask index != 0

/-- Redeem a leaf that is not redeemed. -/
def mark (b : RedemptionBitmap) (index : UInt16) : Except Refusal RedemptionBitmap := do
  let byte ← b.byteAt index
  ensure (byte &&& mask index = 0) .alreadyRedeemed
  return ⟨b.bytes.set (byteIndex index) (byte ||| mask index)⟩

/-- The number of bits set in a byte. -/
def bitCount (byte : UInt8) : Nat :=
  (List.range 8).countP byte.toNat.testBit

/-- The number of redeemed leaves. -/
def count (b : RedemptionBitmap) : Nat :=
  b.bytes.foldr (fun byte marked => bitCount byte + marked) 0

/-- The number of bytes. -/
def size (b : RedemptionBitmap) : Nat :=
  b.bytes.length

/-- The wire format: the bytes behind their number. -/
def codec : Codec RedemptionBitmap :=
  (Codec.list .u8).imap RedemptionBitmap.mk bytes

end RedemptionBitmap

end Disbursement
