import Disbursement.Bytes

/-!
# Keccak-256

The hash of the commitment tree: the Keccak sponge with a rate of 136 bytes, a padding that starts
with the byte `0x01` and a digest of 32 bytes.

* `Keccak256.State` is the five-by-five array of lanes as five rows, so that column parities and the
  nonlinear step work on whole rows (`Row.xor`, `Row.chi`).
* `Keccak256.digest` absorbs the padded message and reads the first four lanes.
-/

namespace Disbursement.Keccak256

/-! ## Lanes and rows -/

/-- Rotation of a lane to the left. -/
def rotl (x n : UInt64) : UInt64 :=
  x <<< n ||| x >>> (64 - n)

/-- Five lanes. -/
structure Row where
  a : UInt64
  b : UInt64
  c : UInt64
  d : UInt64
  e : UInt64

namespace Row

/-- Lane-by-lane exclusive or. -/
def xor (r s : Row) : Row :=
  ⟨r.a ^^^ s.a, r.b ^^^ s.b, r.c ^^^ s.c, r.d ^^^ s.d, r.e ^^^ s.e⟩

/-- Lane-by-lane rotation to the left. -/
def rotl (r offsets : Row) : Row :=
  ⟨Keccak256.rotl r.a offsets.a, Keccak256.rotl r.b offsets.b, Keccak256.rotl r.c offsets.c,
    Keccak256.rotl r.d offsets.d, Keccak256.rotl r.e offsets.e⟩

/-- What the column parities add to each column: the parity to the left and the rotated parity to
the right. -/
def theta (parity : Row) : Row :=
  ⟨parity.e ^^^ Keccak256.rotl parity.b 1, parity.a ^^^ Keccak256.rotl parity.c 1,
    parity.b ^^^ Keccak256.rotl parity.d 1, parity.c ^^^ Keccak256.rotl parity.e 1,
    parity.d ^^^ Keccak256.rotl parity.a 1⟩

/-- The nonlinear step: each lane takes the two to its right into account. -/
def chi (r : Row) : Row :=
  ⟨r.a ^^^ (~~~r.b &&& r.c), r.b ^^^ (~~~r.c &&& r.d), r.c ^^^ (~~~r.d &&& r.e),
    r.d ^^^ (~~~r.e &&& r.a), r.e ^^^ (~~~r.a &&& r.b)⟩

end Row

/-! ## The permutation -/

/-- Twenty-five lanes as five rows. -/
structure State where
  row0 : Row
  row1 : Row
  row2 : Row
  row3 : Row
  row4 : Row

namespace State

/-- All lanes zero. -/
def zero : State :=
  ⟨⟨0, 0, 0, 0, 0⟩, ⟨0, 0, 0, 0, 0⟩, ⟨0, 0, 0, 0, 0⟩, ⟨0, 0, 0, 0, 0⟩, ⟨0, 0, 0, 0, 0⟩⟩

/-- Add the column parities. -/
def theta (s : State) : State :=
  let t := ((((s.row0.xor s.row1).xor s.row2).xor s.row3).xor s.row4).theta
  ⟨s.row0.xor t, s.row1.xor t, s.row2.xor t, s.row3.xor t, s.row4.xor t⟩

/-- Rotate every lane by its own offset. -/
def rho (s : State) : State :=
  ⟨s.row0.rotl ⟨0, 1, 62, 28, 27⟩, s.row1.rotl ⟨36, 44, 6, 55, 20⟩,
    s.row2.rotl ⟨3, 10, 43, 25, 39⟩, s.row3.rotl ⟨41, 45, 15, 21, 8⟩,
    s.row4.rotl ⟨18, 2, 61, 56, 14⟩⟩

/-- Move the lanes to their new places. -/
def pi (s : State) : State :=
  ⟨⟨s.row0.a, s.row1.b, s.row2.c, s.row3.d, s.row4.e⟩,
    ⟨s.row0.d, s.row1.e, s.row2.a, s.row3.b, s.row4.c⟩,
    ⟨s.row0.b, s.row1.c, s.row2.d, s.row3.e, s.row4.a⟩,
    ⟨s.row0.e, s.row1.a, s.row2.b, s.row3.c, s.row4.d⟩,
    ⟨s.row0.c, s.row1.d, s.row2.e, s.row3.a, s.row4.b⟩⟩

/-- The nonlinear step on every row. -/
def chi (s : State) : State :=
  ⟨s.row0.chi, s.row1.chi, s.row2.chi, s.row3.chi, s.row4.chi⟩

/-- Add the round constant to the first lane. -/
def iota (s : State) (constant : UInt64) : State :=
  { s with row0 := { s.row0 with a := s.row0.a ^^^ constant } }

/-- One round. -/
def round (s : State) (constant : UInt64) : State :=
  s.theta.rho.pi.chi.iota constant

/-- The round constants, one per round. -/
def roundConstants : List UInt64 := [
  0x0000000000000001, 0x0000000000008082, 0x800000000000808a, 0x8000000080008000,
  0x000000000000808b, 0x0000000080000001, 0x8000000080008081, 0x8000000000008009,
  0x000000000000008a, 0x0000000000000088, 0x0000000080008009, 0x000000008000000a,
  0x000000008000808b, 0x800000000000008b, 0x8000000000008089, 0x8000000000008003,
  0x8000000000008002, 0x8000000000000080, 0x000000000000800a, 0x800000008000000a,
  0x8000000080008081, 0x8000000000008080, 0x0000000080000001, 0x8000000080008008]

/-- The twenty-four rounds. -/
def permute (s : State) : State :=
  roundConstants.foldl round s

/-! ## The sponge -/

/-- Add a block of seventeen lanes to the state and permute it. -/
def absorb (s : State) (block : List UInt64) : State :=
  match block with
  | [l0, l1, l2, l3, l4, l5, l6, l7, l8, l9, l10, l11, l12, l13, l14, l15, l16] =>
    permute {
      row0 := s.row0.xor ⟨l0, l1, l2, l3, l4⟩
      row1 := s.row1.xor ⟨l5, l6, l7, l8, l9⟩
      row2 := s.row2.xor ⟨l10, l11, l12, l13, l14⟩
      row3 := s.row3.xor ⟨l15, l16, 0, 0, 0⟩
      row4 := s.row4 }
  | _ => s

end State

/-- The message, the padding bits and zeros between them up to a whole block of 136 bytes. -/
def pad (message : Bytes) : Bytes :=
  let free := 136 - message.length % 136
  if free = 1 then message ++ [0x81]
  else message ++ 0x01 :: List.replicate (free - 2) 0 ++ [0x80]

/-- The little-endian lanes of a block. -/
def blockLanes (block : Bytes) : List UInt64 :=
  (Bytes.blocks 8 block).map fun bytes => UInt64.ofNat (Bytes.toNatLE bytes)

/-- The Keccak-256 digest of a message. -/
def digest (message : Bytes) : Digest :=
  let final :=
    (Bytes.blocks 136 (pad message)).foldl (fun s block => s.absorb (blockLanes block)) State.zero
  let lanes := [final.row0.a, final.row0.b, final.row0.c, final.row0.d]
  ⟨lanes.flatMap fun lane => Bytes.ofNatLE 8 lane.toNat, by simp [lanes]⟩

end Disbursement.Keccak256
