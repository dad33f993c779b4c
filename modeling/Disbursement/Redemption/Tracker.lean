import Disbursement.Redemption.Bitmap
import Disbursement.Redemption.Marker

/-!
# Trackers

What remembers that a leaf is redeemed. A claim sees only this type: a bitmap and a marker answer
the same two questions.
-/

namespace Disbursement

/-- The store that a claim uses up a slot of. -/
inductive Tracker where
  | bitmap (bitmap : RedemptionBitmap)
  | marker (marker : Marker)
  deriving DecidableEq

namespace Tracker

/-- Whether the leaf is redeemed. -/
def isRedeemed : Tracker → UInt16 → Except Refusal Bool
  | bitmap b, index => b.isRedeemed index
  | marker m, index => m.redeemed? index

/-- Redeem a leaf that is not redeemed. -/
def mark : Tracker → UInt16 → Except Refusal Tracker
  | bitmap b, index => (b.mark index).map bitmap
  | marker m, index => (m.mark index).map marker

end Tracker

end Disbursement
