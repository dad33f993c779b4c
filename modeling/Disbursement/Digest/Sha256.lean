import Disbursement.Bytes

/-!
# SHA-256

The hash behind derived addresses, vault names and the eight-byte discriminators of accounts,
instructions and events.

* `Sha256.digest` hashes a byte string. The padded message is cut into blocks of sixteen words and
  folded through `Sha256.State.compress`.
* The message schedule is not stored: `Sha256.slide` keeps the sixteen most recent words, of which
  the first is the one the current round takes.
-/

namespace Disbursement.Sha256

/-! ## Words -/

/-- Rotation to the right. -/
def rotr (x n : UInt32) : UInt32 :=
  x >>> n ||| x <<< (32 - n)

/-- The round constants, one per round. -/
def roundConstants : List UInt32 := [
  0x428a2f98, 0x71374491, 0xb5c0fbcf, 0xe9b5dba5, 0x3956c25b, 0x59f111f1, 0x923f82a4, 0xab1c5ed5,
  0xd807aa98, 0x12835b01, 0x243185be, 0x550c7dc3, 0x72be5d74, 0x80deb1fe, 0x9bdc06a7, 0xc19bf174,
  0xe49b69c1, 0xefbe4786, 0x0fc19dc6, 0x240ca1cc, 0x2de92c6f, 0x4a7484aa, 0x5cb0a9dc, 0x76f988da,
  0x983e5152, 0xa831c66d, 0xb00327c8, 0xbf597fc7, 0xc6e00bf3, 0xd5a79147, 0x06ca6351, 0x14292967,
  0x27b70a85, 0x2e1b2138, 0x4d2c6dfc, 0x53380d13, 0x650a7354, 0x766a0abb, 0x81c2c92e, 0x92722c85,
  0xa2bfe8a1, 0xa81a664b, 0xc24b8b70, 0xc76c51a3, 0xd192e819, 0xd6990624, 0xf40e3585, 0x106aa070,
  0x19a4c116, 0x1e376c08, 0x2748774c, 0x34b0bcb5, 0x391c0cb3, 0x4ed8aa4a, 0x5b9cca4f, 0x682e6ff3,
  0x748f82ee, 0x78a5636f, 0x84c87814, 0x8cc70208, 0x90befffa, 0xa4506ceb, 0xbef9a3f7, 0xc67178f2]

/-! ## Compression -/

/-- The eight chaining words. -/
structure State where
  a : UInt32
  b : UInt32
  c : UInt32
  d : UInt32
  e : UInt32
  f : UInt32
  g : UInt32
  h : UInt32

namespace State

/-- The chaining words before the first block. -/
def start : State where
  a := 0x6a09e667
  b := 0xbb67ae85
  c := 0x3c6ef372
  d := 0xa54ff53a
  e := 0x510e527f
  f := 0x9b05688c
  g := 0x1f83d9ab
  h := 0x5be0cd19

/-- One round with its constant and schedule word. -/
def round (s : State) (constant word : UInt32) : State :=
  let choice := (s.e &&& s.f) ^^^ (~~~s.e &&& s.g)
  let majority := (s.a &&& s.b) ^^^ (s.a &&& s.c) ^^^ (s.b &&& s.c)
  let mixE := rotr s.e 6 ^^^ rotr s.e 11 ^^^ rotr s.e 25
  let mixA := rotr s.a 2 ^^^ rotr s.a 13 ^^^ rotr s.a 22
  let t := s.h + mixE + choice + constant + word
  { a := t + (mixA + majority), b := s.a, c := s.b, d := s.c,
    e := s.d + t, f := s.e, g := s.f, h := s.g }

/-- Word-by-word sum, which feeds the old chaining words forward. -/
def add (s t : State) : State where
  a := s.a + t.a
  b := s.b + t.b
  c := s.c + t.c
  d := s.d + t.d
  e := s.e + t.e
  f := s.f + t.f
  g := s.g + t.g
  h := s.h + t.h

/-- The chaining words in order. -/
def words (s : State) : List UInt32 :=
  [s.a, s.b, s.c, s.d, s.e, s.f, s.g, s.h]

end State

/-- Drop the oldest of sixteen schedule words and append the next one. -/
def slide : List UInt32 → List UInt32
  | [w0, w1, w2, w3, w4, w5, w6, w7, w8, w9, w10, w11, w12, w13, w14, w15] =>
    let mix1 := rotr w1 7 ^^^ rotr w1 18 ^^^ w1 >>> 3
    let mix14 := rotr w14 17 ^^^ rotr w14 19 ^^^ w14 >>> 10
    [w1, w2, w3, w4, w5, w6, w7, w8, w9, w10, w11, w12, w13, w14, w15, w0 + mix1 + w9 + mix14]
  | window => window

/-- The sixty-four rounds over one block of sixteen words, added to the state they started from. -/
def State.compress (s : State) (block : List UInt32) : State :=
  let final := roundConstants.foldl
    (fun (t, window) constant => (t.round constant (window.headD 0), slide window)) (s, block)
  s.add final.1

/-! ## Messages -/

/-- The message, a one bit, zeros up to eight bytes short of a block, and the length in bits. -/
def pad (message : Bytes) : Bytes :=
  message ++ 0x80 :: List.replicate ((119 - message.length % 64) % 64) 0
    ++ Bytes.ofNatBE 8 (8 * message.length)

/-- The big-endian words of a block. -/
def blockWords (block : Bytes) : List UInt32 :=
  (Bytes.blocks 4 block).map fun bytes => UInt32.ofNat (Bytes.toNatBE bytes)

/-- The SHA-256 digest of a message. -/
def digest (message : Bytes) : Digest :=
  let final :=
    (Bytes.blocks 64 (pad message)).foldl (fun s block => s.compress (blockWords block)) State.start
  ⟨final.words.flatMap fun w => Bytes.ofNatBE 4 w.toNat, by simp [State.words]⟩

/-- The digest of a text, which is hashed as UTF-8. -/
def digestText (text : String) : Digest :=
  digest (Bytes.ofText text)

end Disbursement.Sha256
