import Disbursement.Bytes

/-!
# Binary codecs

The wire format of every value the library stores, receives or emits: integers little-endian, flags
and enumerations one byte, sequences behind a four-byte length, optional values behind a presence
byte, records field after field.

* `Codec` pairs a writer with a reader that returns what it did not read, so that records compose
  from their fields (`Codec.pair`, `Codec.imap`).
* `DecodeError` is why a reader refuses; `DecodeError.message` words it.
-/

namespace Disbursement

/-! ## Refused input -/

/-- Why a byte string does not start with a value. -/
inductive DecodeError where
  /-- The input ends inside the value. -/
  | unexpectedEnd
  /-- No case of an enumeration has this tag. -/
  | unknownVariant (tag : UInt8)
  /-- The presence byte of an optional value is neither zero nor one. -/
  | invalidOption (tag : UInt8)
  /-- A flag is neither zero nor one. -/
  | invalidFlag (byte : UInt8)
  /-- The bytes of a text are not valid UTF-8. -/
  | invalidText
  deriving DecidableEq

/-- The wording of a decode error. -/
def DecodeError.message : DecodeError → String
  | .unexpectedEnd => "Unexpected length of input"
  | .unknownVariant tag => "Unexpected variant index: " ++ toString tag.toNat
  | .invalidOption tag =>
    "Invalid Option representation: " ++ toString tag.toNat ++ ". The first byte must be 0 or 1"
  | .invalidFlag byte => "Invalid bool representation: " ++ toString byte.toNat
  | .invalidText => "invalid utf-8 sequence"

/-! ## Codecs -/

/-- A writer and the reader of what it writes. -/
structure Codec (α : Type) where
  /-- The bytes of a value. -/
  encode : α → Bytes
  /-- The value at the start of a byte string, and the rest. -/
  decode : Bytes → Except DecodeError (α × Bytes)

namespace Codec

variable {α β : Type}

/-- The same bytes under another type. -/
def imap (codec : Codec α) (build : α → β) (view : β → α) : Codec β where
  encode value := codec.encode (view value)
  decode input := (codec.decode input).map fun (value, rest) => (build value, rest)

/-- No bytes at all. -/
def unit : Codec Unit where
  encode _ := []
  decode input := .ok ((), input)

/-- One value after another. -/
def pair (first : Codec α) (second : Codec β) : Codec (α × β) where
  encode value := first.encode value.1 ++ second.encode value.2
  decode input := do
    let (a, rest) ← first.decode input
    let (b, rest) ← second.decode rest
    return ((a, b), rest)

/-! ## Fixed widths -/

/-- One byte. -/
def u8 : Codec UInt8 where
  encode value := [value]
  decode
    | [] => .error .unexpectedEnd
    | byte :: rest => .ok (byte, rest)

/-- A number of `width` bytes. -/
def number (width : Nat) : Codec Nat where
  encode value := Bytes.ofNatLE width value
  decode input :=
    if width ≤ input.length then .ok (Bytes.toNatLE (input.take width), input.drop width)
    else .error .unexpectedEnd

/-- Two bytes, unsigned. -/
def u16 : Codec UInt16 :=
  (number 2).imap UInt16.ofNat UInt16.toNat

/-- Four bytes, unsigned. -/
def u32 : Codec UInt32 :=
  (number 4).imap UInt32.ofNat UInt32.toNat

/-- Eight bytes, unsigned. -/
def u64 : Codec UInt64 :=
  (number 8).imap UInt64.ofNat UInt64.toNat

/-- Eight bytes, two's complement. -/
def i64 : Codec Int64 :=
  u64.imap UInt64.toInt64 Int64.toUInt64

/-- Thirty-two bytes. -/
def bytes32 : Codec Bytes32 where
  encode value := value.toList
  decode input :=
    if h : 32 ≤ input.length then .ok (⟨input.take 32, by simp [h]⟩, input.drop 32)
    else .error .unexpectedEnd

/-- A flag in one byte. -/
def bool : Codec Bool where
  encode value := [if value then 1 else 0]
  decode
    | [] => .error .unexpectedEnd
    | 0 :: rest => .ok (false, rest)
    | 1 :: rest => .ok (true, rest)
    | byte :: _ => .error (.invalidFlag byte)

/-- A case of an enumeration as its place in the list of all cases. -/
def enumeration [BEq α] (cases : List α) : Codec α where
  encode value := [UInt8.ofNat (cases.idxOf value)]
  decode
    | [] => .error .unexpectedEnd
    | tag :: rest =>
      match cases[tag.toNat]? with
      | some value => .ok (value, rest)
      | none => .error (.unknownVariant tag)

/-! ## Optional values and sequences -/

/-- An optional value behind a presence byte. -/
def option (codec : Codec α) : Codec (Option α) where
  encode
    | none => [0]
    | some value => 1 :: codec.encode value
  decode
    | [] => .error .unexpectedEnd
    | 0 :: rest => .ok (none, rest)
    | 1 :: rest => (codec.decode rest).map fun (value, rest) => (some value, rest)
    | tag :: _ => .error (.invalidOption tag)

/-- Read `count` values one after another. -/
def decodeMany (codec : Codec α) : Nat → Bytes → Except DecodeError (List α × Bytes)
  | 0, input => .ok ([], input)
  | count + 1, input => do
    let (value, rest) ← codec.decode input
    let (values, rest) ← decodeMany codec count rest
    return (value :: values, rest)

/-- A sequence behind its length. -/
def list (codec : Codec α) : Codec (List α) where
  encode values := u32.encode (UInt32.ofNat values.length) ++ values.flatMap codec.encode
  decode input := do
    let (count, rest) ← u32.decode input
    decodeMany codec count.toNat rest

/-- A text as the sequence of its UTF-8 bytes. -/
def text : Codec String where
  encode value := (list u8).encode (Bytes.ofText value)
  decode input := do
    let (bytes, rest) ← (list u8).decode input
    match String.fromUTF8? ⟨bytes.toArray⟩ with
    | some value => return (value, rest)
    | none => throw .invalidText

end Codec

end Disbursement
