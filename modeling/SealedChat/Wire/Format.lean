import SealedChat.Bytes.LittleEndian
import SealedChat.Bytes.Utf8
import SealedChat.Decimal.Natural

/-!
# Binary formats

A format lays the values of a type out in bytes and reads them back from the front of a byte string.
Numbers have a fixed width and come least significant byte first. Texts and byte strings follow their
length in bytes; an optional value follows a flag; a value of several kinds follows the number of its
kind. Readers take fields in order, so the first faulty one is reported, and leave what follows.
-/

namespace SealedChat.Wire

/-! ### Faults -/

/-- Why bytes cannot be read. -/
inductive DecodeFault where
  /-- The bytes end inside a number, a flag or a byte string. -/
  | endOfInput
  /-- A text is announced that is longer than what is left. -/
  | textTooLong
  /-- The bytes of a text are not a text. -/
  | notText (flaw : Utf8.Flaw)
  /-- There are `count` kinds, numbered from zero, and this is none of them. -/
  | unknownKind (number : UInt32) (count : Nat)
  /-- A flag is neither zero nor one. -/
  | badFlag (flag : UInt8)
  deriving DecidableEq, Repr

/-- The wording of a fault. -/
def DecodeFault.message : DecodeFault → String
  | .endOfInput => "io error: unexpected end of file"
  | .textTooLong => "io error: "
  | .notText flaw => "string is not valid utf8: " ++ flaw.message
  | .unknownKind number count =>
    "invalid value: integer `" ++ Decimal.ofNat number.toNat ++
      "`, expected variant index 0 <= i < " ++ Decimal.ofNat count
  | .badFlag flag => "tag for enum is not valid, found " ++ Decimal.ofNat flag.toNat

/-! ### Readers -/

/-- Takes a value from the front of a byte string. -/
abbrev Reader := StateT Bytes (Except DecodeFault)

namespace Reader

/-- The next `n` bytes, or a fault if there are fewer. -/
def takeOr (fault : DecodeFault) (n : Nat) : Reader Bytes := fun bytes =>
  let taken := bytes.take n
  if taken.length = n then .ok (taken, bytes.drop n) else .error fault

/-- The next `n` bytes. -/
def take (n : Nat) : Reader Bytes := takeOr .endOfInput n

/-- The value that a reader finds at the front of a byte string. -/
def decode {α : Type} (reader : Reader α) (bytes : Bytes) : Except DecodeFault α :=
  (reader bytes).map Prod.fst

end Reader

/-- How the values of a type are written and read. -/
structure Format (α : Type) where
  write : α → Bytes
  read : Reader α

namespace Format

/-! ### Numbers -/

/-- A 32-bit number in four bytes. -/
def uint32 : Format UInt32 where
  write := LittleEndian.ofUInt32
  read := return LittleEndian.toUInt32 (← Reader.take 4)

/-- A 64-bit number in eight bytes. -/
def uint64 : Format UInt64 where
  write := LittleEndian.ofUInt64
  read := return LittleEndian.toUInt64 (← Reader.take 8)

/-- A signed 64-bit number in eight bytes. -/
def int64 : Format Int64 where
  write := LittleEndian.ofInt64
  read := return LittleEndian.toInt64 (← Reader.take 8)

/-! ### Byte strings and texts -/

/-- The length of a byte string in eight bytes. -/
def writeLength (bytes : Bytes) : Bytes := uint64.write (UInt64.ofNat bytes.length)

/-- A byte string behind its length. -/
def bytes : Format Bytes where
  write b := writeLength b ++ b
  read := do
    let length ← uint64.read
    Reader.take length.toNat

/-- A text behind its length in bytes. -/
def text : Format String where
  write s := writeLength (Utf8.encode s) ++ Utf8.encode s
  read := do
    let length ← uint64.read
    let bytes ← Reader.takeOr .textTooLong length.toNat
    match Utf8.decode bytes with
    | .ok s => return s
    | .error flaw => throw (.notText flaw)

/-! ### Optional values -/

/-- A value behind a one, or a zero for none. -/
def optional {α : Type} (format : Format α) : Format (Option α) where
  write
    | none => [0]
    | some v => 1 :: format.write v
  read := do
    match ← Reader.take 1 with
    | [0] => return none
    | [1] => return some (← format.read)
    | flag => throw (.badFlag (flag.headD 0))

end Format

end SealedChat.Wire
