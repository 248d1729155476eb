import SealedChat.Json.Number
import SealedChat.Json.Text

/-!
# Skipping values in JSON

A value that nobody asks for only has to be well formed. The brackets that are open around the place
reached are kept on a stack, so that values may be nested to any depth.
-/

namespace SealedChat.Json

/-- A bracket that is open: what it holds. -/
inductive Bracket where
  | sequence
  | map
  deriving DecidableEq, Repr

namespace Bracket

/-- The character that closes the bracket. -/
def closing : Bracket → Char
  | .sequence => ']'
  | .map => '\x7d'

/-- The fault of a text that ends inside the bracket. -/
def endFault : Bracket → Fault
  | .sequence => .endInSequence
  | .map => .endInMap

/-- The fault of a value in the bracket that something else follows than a comma or the end. -/
def followFault : Bracket → Fault
  | .sequence => .expectedSequenceEnd
  | .map => .expectedMapEnd

end Bracket

/-- Skips a value that holds no others, or the opening bracket of one that does. -/
def skipStart : List Char → Except Fault (Option Bracket × List Char)
  | [] => .error .endInValue
  | 'n' :: rest => (word ['u', 'l', 'l'] rest).map (none, ·)
  | 't' :: rest => (word ['r', 'u', 'e'] rest).map (none, ·)
  | 'f' :: rest => (word ['a', 'l', 's', 'e'] rest).map (none, ·)
  | '-' :: rest => (skipNumber rest).map (none, ·)
  | '"' :: rest => (skipText rest).map (none, ·)
  | '[' :: rest => .ok (some .sequence, rest)
  | '\x7b' :: rest => .ok (some .map, rest)
  | c :: rest =>
    if Decimal.isFigure c then (skipNumber (c :: rest)).map (none, ·) else .error .expectedValue

/-- Skips closing brackets and the comma behind them: gives the brackets that are still open, none if
the whole value has ended, and the text from the next entry on. Behind an opening bracket, which is
`fresh`, no comma is due. -/
def skipEnds (fresh : Bool) : List Bracket → List Char → Except Fault (List Bracket × List Char)
  | [], text => .ok ([], text)
  | inner :: outer, text =>
    match skipBlanks text with
    | [] => .error inner.endFault
    | c :: rest =>
      if c = inner.closing then skipEnds false outer rest
      else if fresh then .ok (inner :: outer, c :: rest)
      else if c = ',' then .ok (inner :: outer, rest)
      else .error inner.followFault

/-- What follows the colon behind a key. -/
def skipColon (text : List Char) : Except Fault (List Char) :=
  match skipBlanks text with
  | ':' :: rest => .ok rest
  | [] => .error .endInMap
  | _ => .error .expectedColon

/-- Skips what stands before the value of an entry: in a map its key and a colon. -/
def skipKey : Bracket → List Char → Except Fault (List Char)
  | .sequence, text => .ok text
  | .map, text =>
    match skipBlanks text with
    | '"' :: rest => skipText rest >>= skipColon
    | [] => .error .endInMap
    | _ => .error .keyNotText

/-- Skips a value inside the given brackets and all that follows it there, as far as `fuel` values. -/
def skipFrom : (fuel : Nat) → List Bracket → List Char → Except Fault (List Char)
  | 0, _, _ => .error .endInValue
  | fuel + 1, brackets, text => do
    let (bracket, rest) ← skipStart (skipBlanks text)
    match ← skipEnds bracket.isSome (bracket.toList ++ brackets) rest with
    | ([], rest) => return rest
    | (inner :: outer, rest) => skipFrom fuel (inner :: outer) (← skipKey inner rest)

/-- Skips a value. A text holds fewer values than characters. -/
def skipValue (text : List Char) : Except Fault (List Char) := skipFrom (text.length + 1) [] text

end SealedChat.Json
