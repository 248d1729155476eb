import SealedChat.Decimal.Shortest
import SealedChat.Text.Quoted

/-!
# Faults of JSON texts

Why a text cannot be read as a record: it is not JSON, or a value is not of the kind that its place
asks for.
-/

namespace SealedChat.Json

/-- A value that stands where another kind is asked for. -/
inductive Found where
  | null
  | boolean (value : Bool)
  | integer (value : Int)
  | real (value : Float)
  | text (value : String)
  | sequence
  | map

/-- How real numbers are shown: written out if their first figure stands at most five places behind the
point and at most sixteen before it, with an exponent otherwise. -/
def realLayout : Decimal.Layout := ⟨-5, 15⟩

/-- What is shown of a value. -/
def Found.shown : Found → String
  | .null => "null"
  | .boolean true => "boolean `true`"
  | .boolean false => "boolean `false`"
  | .integer value => "integer `" ++ Decimal.ofInt value ++ "`"
  | .real value => "floating point `" ++ realLayout.double value ++ "`"
  | .text value => "string " ++ Text.quote value
  | .sequence => "sequence"
  | .map => "map"

/-- Why a text cannot be read. -/
inductive Fault where
  /-- The text ends where a value or the rest of one is due. -/
  | endInValue
  /-- The text ends inside a map. -/
  | endInMap
  /-- The text ends inside a sequence. -/
  | endInSequence
  /-- The text ends inside a quoted text. -/
  | endInText
  | expectedValue
  /-- A word that starts like `null`, `true` or `false` is another one. -/
  | expectedWord
  | expectedColon
  /-- An entry of a map is followed by neither a comma nor the end. -/
  | expectedMapEnd
  /-- An element of a sequence is followed by neither a comma nor the end. -/
  | expectedSequenceEnd
  | keyNotText
  | trailingComma
  | trailingCharacters
  | invalidNumber
  | numberOutOfRange
  | invalidEscape
  /-- The second half of a pair without its first, or the first half without its second. -/
  | loneSurrogate
  /-- The first half of a pair that no escape follows. -/
  | missingSurrogate
  | controlCharacter
  /-- A value of a wrong kind. -/
  | wrongKind (found : Found) (expected : String)
  /-- An integer that does not fit. -/
  | outOfRange (value : Int) (expected : String)
  /-- A field that is given twice. -/
  | duplicateField (name : String)

/-- The wording of a fault. -/
def Fault.message : Fault → String
  | .endInValue => "EOF while parsing a value"
  | .endInMap => "EOF while parsing an object"
  | .endInSequence => "EOF while parsing a list"
  | .endInText => "EOF while parsing a string"
  | .expectedValue => "expected value"
  | .expectedWord => "expected ident"
  | .expectedColon => "expected `:`"
  | .expectedMapEnd => "expected `,` or `\x7d`"
  | .expectedSequenceEnd => "expected `,` or `]`"
  | .keyNotText => "key must be a string"
  | .trailingComma => "trailing comma"
  | .trailingCharacters => "trailing characters"
  | .invalidNumber => "invalid number"
  | .numberOutOfRange => "number out of range"
  | .invalidEscape => "invalid escape"
  | .loneSurrogate => "lone leading surrogate in hex escape"
  | .missingSurrogate => "unexpected end of hex escape"
  | .controlCharacter => "control character (\\u0000-\\u001F) found while parsing a string"
  | .wrongKind found expected => "invalid type: " ++ found.shown ++ ", expected " ++ expected
  | .outOfRange value expected =>
    "invalid value: " ++ (Found.integer value).shown ++ ", expected " ++ expected
  | .duplicateField name => "duplicate field `" ++ name ++ "`"

/-! ### Readers -/

/-- A reader takes a value from the front of a text and gives what follows it. -/
abbrev Reader (α : Type) := List Char → Except Fault (α × List Char)

/-- A text without the white space at its front. -/
def skipBlanks : List Char → List Char
  | c :: rest => if c = ' ' ∨ c = '\n' ∨ c = '\t' ∨ c = '\r' then skipBlanks rest else c :: rest
  | [] => []

/-- What follows the given letters, which are the rest of a word. -/
def word : (letters : List Char) → List Char → Except Fault (List Char)
  | [], rest => .ok rest
  | _ :: _, [] => .error .endInValue
  | letter :: letters, c :: rest => if c = letter then word letters rest else .error .expectedWord

end SealedChat.Json
