import Disbursement.Bytes

/-!
# Points of edwards25519

An address that is a point of the curve has a private key; a derived address must not be one. Only
the decompression test is needed: `Edwards25519.isPoint` says whether thirty-two bytes name a point.

The curve is `-x² + y² = 1 + d x² y²` over the field of `2 ^ 255 - 19` elements. The low 255 bits
are `y`, taken modulo the field size, and the top bit chooses the sign of `x`, so the bytes name a
point exactly when `x² = (y² - 1) / (d y² + 1)` has a solution. The denominator is never zero, and
the quotient is a square exactly when the product is, which Euler's criterion decides.
-/

namespace Disbursement.Edwards25519

/-- The number of field elements. -/
def fieldSize : Nat :=
  Nat.pow 2 255 - 19

/-- The curve parameter `d`. -/
def curveD : Nat :=
  37095705934669439343138083508754565189542113879843219016388785533085940283555

/-- The low `width` bits of the exponent, most significant first, drive square-and-multiply. -/
def powMod (modulus base exponent width : Nat) : Nat :=
  (List.range width).foldr
    (fun i power =>
      let square := power * power % modulus
      if exponent.testBit i then square * base % modulus else square)
    1

/-- Whether a field element is a square, zero included. -/
def isSquare (n : Nat) : Bool :=
  powMod fieldSize n ((fieldSize - 1) / 2) 254 ≠ fieldSize - 1

/-- Whether the bytes are the compressed form of a curve point. -/
def isPoint (bytes : Bytes32) : Bool :=
  let y := Bytes.toNatLE bytes.toList % Nat.pow 2 255 % fieldSize
  let ySquare := y * y % fieldSize
  let numerator := (ySquare + fieldSize - 1) % fieldSize
  let denominator := (curveD * ySquare + 1) % fieldSize
  isSquare (numerator * denominator % fieldSize)

end Disbursement.Edwards25519
