import SealedChat.Bytes.Hex
import SealedChat.Bytes.Utf8
import SealedChat.Json.Fault

/-!
# Quoted texts in JSON

Between its quotes a text is written character by character; quotes, backslashes and control
characters are escaped. Any character may be escaped by its code in four hexadecimal figures, those
beyond `FFFF` by a pair of codes. Reading a text accepts whole pairs only; skipping one does not look
at what the codes stand for.
-/

namespace SealedChat.Json

/-! ### Writing -/

/-- What stands for a character in a quoted text. -/
def escape (c : Char) : List Char :=
  if c = '"' then ['\\', '"']
  else if c = '\\' then ['\\', '\\']
  else if c = '\x08' then ['\\', 'b']
  else if c = '\x0c' then ['\\', 'f']
  else if c = '\n' then ['\\', 'n']
  else if c = '\r' then ['\\', 'r']
  else if c = '\t' then ['\\', 't']
  else if c.toNat < 0x20 then '\\' :: 'u' :: '0' :: '0' :: Hex.ofByte (UInt8.ofNat c.toNat)
  else [c]

/-- A quoted text. -/
def writeText (text : String) : List Char := '"' :: text.toList.flatMap escape ++ ['"']

/-! ### Escapes -/

/-- The character that a letter behind a backslash stands for. -/
def escaped? (c : Char) : Option Char :=
  if c = '"' then some '"'
  else if c = '\\' then some '\\'
  else if c = '/' then some '/'
  else if c = 'b' then some '\x08'
  else if c = 'f' then some '\x0c'
  else if c = 'n' then some '\n'
  else if c = 'r' then some '\r'
  else if c = 't' then some '\t'
  else none

/-- Whether at least four bytes of a text are left. -/
def fourBytesLeft (text : List Char) : Bool :=
  4 ≤ ((text.take 4).flatMap String.utf8EncodeChar).length

/-- The code at the front of a text: four hexadecimal figures, which take four bytes. -/
def code (text : List Char) : Except Fault (Nat × List Char) :=
  if fourBytesLeft text then
    match text with
    | a :: b :: c :: d :: rest =>
      match Hex.value? a, Hex.value? b, Hex.value? c, Hex.value? d with
      | some a, some b, some c, some d => .ok (4096 * a + 256 * b + 16 * c + d, rest)
      | _, _, _, _ => .error .invalidEscape
    | _ => .error .invalidEscape
  else .error .endInText

/-- Whether a code is the first half of a pair. -/
def isHighHalf (n : Nat) : Bool := 0xD800 ≤ n && n ≤ 0xDBFF

/-- Whether a code is the second half of a pair. -/
def isLowHalf (n : Nat) : Bool := 0xDC00 ≤ n && n ≤ 0xDFFF

/-- The character of the code at the front of a text, or of the pair of codes. -/
def codedChar (text : List Char) : Except Fault (Char × List Char) := do
  let (high, rest) ← code text
  if isLowHalf high then throw .loneSurrogate
  if !isHighHalf high then return (Char.ofNat high, rest)
  match rest with
  | '\\' :: 'u' :: rest =>
    let (low, rest) ← code rest
    if isLowHalf low then
      return (Char.ofNat (0x10000 + (high - 0xD800) * 0x400 + (low - 0xDC00)), rest)
    else throw .loneSurrogate
  | [] => throw .endInText
  | ['\\'] => throw .endInText
  | _ => throw .missingSurrogate

/-! ### Reading and skipping -/

/-- Reads the rest of a quoted text, whose characters so far are `read` in reverse order, as far as
`fuel` steps. The length of the text is fuel enough. -/
def readTextFrom : (fuel : Nat) → (read : List Char) → List Char → Except Fault (String × List Char)
  | 0, _, _ => .error .endInText
  | _ + 1, _, [] => .error .endInText
  | _ + 1, read, '"' :: rest => .ok (String.ofList read.reverse, rest)
  | _ + 1, _, ['\\'] => .error .endInText
  | fuel + 1, read, '\\' :: 'u' :: rest =>
    match codedChar rest with
    | .ok (c, rest) => readTextFrom fuel (c :: read) rest
    | .error fault => .error fault
  | fuel + 1, read, '\\' :: c :: rest =>
    match escaped? c with
    | some c => readTextFrom fuel (c :: read) rest
    | none => .error .invalidEscape
  | fuel + 1, read, c :: rest =>
    if c.toNat < 0x20 then .error .controlCharacter else readTextFrom fuel (c :: read) rest

/-- Reads the rest of a text whose first quote has been read. -/
def readText (text : List Char) : Except Fault (String × List Char) :=
  readTextFrom (text.length + 1) [] text

/-- Skips the rest of a quoted text, as far as `fuel` steps. -/
def skipTextFrom : (fuel : Nat) → List Char → Except Fault (List Char)
  | 0, _ => .error .endInText
  | _ + 1, [] => .error .endInText
  | _ + 1, '"' :: rest => .ok rest
  | _ + 1, ['\\'] => .error .endInText
  | fuel + 1, '\\' :: 'u' :: rest =>
    match code rest with
    | .ok (_, rest) => skipTextFrom fuel rest
    | .error fault => .error fault
  | fuel + 1, '\\' :: c :: rest => if (escaped? c).isSome then skipTextFrom fuel rest else .error .invalidEscape
  | fuel + 1, c :: rest => if c.toNat < 0x20 then .error .controlCharacter else skipTextFrom fuel rest

/-- Skips the rest of a text whose first quote has been read. -/
def skipText (text : List Char) : Except Fault (List Char) := skipTextFrom (text.length + 1) text

end SealedChat.Json
