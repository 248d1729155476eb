import SealedChat.Bytes.Basic

/-!
# Texts as bytes

Texts are written in UTF-8. Reading stops at the first place where no text can go on, and the flaw
it reports says where the faulty sequence starts and how many of its bytes could still begin a
character.
-/

namespace SealedChat.Utf8

/-- The bytes of a text. -/
def encode (text : String) : Bytes := text.toList.flatMap String.utf8EncodeChar

/-- What keeps a byte string from being a text. -/
inductive Flaw where
  /-- From `index`, `length` bytes that no character starts with. -/
  | invalid (length index : Nat)
  /-- The byte string ends inside the character that starts at `index`. -/
  | incomplete (index : Nat)
  deriving DecidableEq, Repr

/-- The wording of a flaw. -/
def Flaw.message : Flaw → String
  | .invalid length index => s!"invalid utf-8 sequence of {length} bytes from index {index}"
  | .incomplete index => s!"incomplete utf-8 byte sequence from index {index}"

/-! ### Characters of several bytes -/

/-- Bytes that go on with a character. -/
def isTail (b : UInt8) : Bool := 0x80 ≤ b && b ≤ 0xBF

/-- Whether the byte `b` may follow the first byte `a` of a character: the shorter spelling is the
only one, halves of pairs are no characters, and the last character is `10FFFF`. -/
def isSecond (a b : UInt8) : Bool :=
  if a = 0xE0 then 0xA0 ≤ b && b ≤ 0xBF
  else if a = 0xED then 0x80 ≤ b && b ≤ 0x9F
  else if a = 0xF0 then 0x90 ≤ b && b ≤ 0xBF
  else if a = 0xF4 then 0x80 ≤ b && b ≤ 0x8F
  else isTail b

/-- The character of two bytes. -/
def char2 (a b : UInt8) : Char := Char.ofNat (a.toNat % 32 * 64 + b.toNat % 64)

/-- The character of three bytes. -/
def char3 (a b c : UInt8) : Char :=
  Char.ofNat (a.toNat % 16 * 4096 + b.toNat % 64 * 64 + c.toNat % 64)

/-- The character of four bytes. -/
def char4 (a b c d : UInt8) : Char :=
  Char.ofNat (a.toNat % 8 * 262144 + b.toNat % 64 * 4096 + c.toNat % 64 * 64 + d.toNat % 64)

/-! ### Reading -/

/-- Reads the rest of a text of which `index` bytes, the characters `read` in reverse order, have
been read. -/
def decodeFrom (index : Nat) (read : List Char) : Bytes → Except Flaw (List Char)
  | [] => .ok read.reverse
  | a :: rest =>
    if a < 0x80 then decodeFrom (index + 1) (Char.ofNat a.toNat :: read) rest
    else if a < 0xC2 || 0xF4 < a then .error (.invalid 1 index)
    else match rest with
    | [] => .error (.incomplete index)
    | b :: rest =>
      if !isSecond a b then .error (.invalid 1 index)
      else if a < 0xE0 then decodeFrom (index + 2) (char2 a b :: read) rest
      else match rest with
      | [] => .error (.incomplete index)
      | c :: rest =>
        if !isTail c then .error (.invalid 2 index)
        else if a < 0xF0 then decodeFrom (index + 3) (char3 a b c :: read) rest
        else match rest with
        | [] => .error (.incomplete index)
        | d :: rest =>
          if !isTail d then .error (.invalid 3 index)
          else decodeFrom (index + 4) (char4 a b c d :: read) rest

/-- Reads a byte string as a text. -/
def decode (bytes : Bytes) : Except Flaw String :=
  (decodeFrom 0 [] bytes).map String.ofList

end SealedChat.Utf8
