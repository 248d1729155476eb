import SealedChat.Json.Skip

/-!
# Records in JSON

A record is written as a map from the names of its fields, in any order, or as the sequence of its
fields. Fields that are left out, in a sequence those at its end, keep their defaults. A map may hold
other names; their values are skipped. The first fault from left to right is reported.
-/

namespace SealedChat.Json

/-! ### Values of one kind -/

/-- The fault of a value of a wrong kind, whose text must be well formed as far as it is shown. -/
def wrongKind (expected : String) (text : List Char) : Fault :=
  let of := fun {α : Type} (found : α → Found) (value : Except Fault α) =>
    match value with
    | .ok v => Fault.wrongKind (found v) expected
    | .error fault => fault
  match text with
  | 'n' :: rest => of (fun _ => .null) (word ['u', 'l', 'l'] rest)
  | 't' :: rest => of (fun _ => .boolean true) (word ['r', 'u', 'e'] rest)
  | 'f' :: rest => of (fun _ => .boolean false) (word ['a', 'l', 's', 'e'] rest)
  | '-' :: rest => of (fun (n, _) => n.found) (readNumber false rest)
  | '"' :: rest => of (fun (s, _) => .text s) (readText rest)
  | '[' :: _ => .wrongKind .sequence expected
  | '\x7b' :: _ => .wrongKind .map expected
  | c :: rest =>
    if Decimal.isFigure c then of (fun (n, _) => n.found) (readNumber true (c :: rest))
    else .expectedValue
  | [] => .expectedValue

/-- Reads a text. -/
def readString : Reader String := fun text =>
  match skipBlanks text with
  | [] => .error .endInValue
  | '"' :: rest => readText rest
  | text => .error (wrongKind "a string" text)

/-- Reads a truth value. -/
def readBool : Reader Bool := fun text =>
  match skipBlanks text with
  | [] => .error .endInValue
  | 't' :: rest => (word ['r', 'u', 'e'] rest).map (true, ·)
  | 'f' :: rest => (word ['a', 'l', 's', 'e'] rest).map (false, ·)
  | text => .error (wrongKind "a boolean" text)

/-- A number as a natural number up to a limit. -/
def Number.toNatural (limit : Nat) (expected : String) : Number → Except Fault Nat
  | .natural n => if n.toNat ≤ limit then .ok n.toNat else .error (.outOfRange n.toNat expected)
  | .negative n => .error (.outOfRange n.toInt expected)
  | .real x => .error (.wrongKind (.real x) expected)

/-- Reads a natural number up to a limit. -/
def readNatural (limit : Nat) (expected : String) : Reader Nat := fun text => do
  let (number, rest) ← match skipBlanks text with
    | [] => throw .endInValue
    | '-' :: rest => readNumber false rest
    | c :: rest =>
      if Decimal.isFigure c then readNumber true (c :: rest)
      else throw (wrongKind expected (c :: rest))
  return (← number.toNatural limit expected, rest)

/-! ### Records -/

/-- A field of a record: its name, and how its value is read into the record. -/
structure Field (α : Type) where
  name : String
  read : α → Reader α

/-- The field of a given name whose value is read by a reader of its own. -/
def Field.of {α β : Type} (name : String) (reader : Reader β) (put : α → β → α) : Field α where
  name := name
  read record text := (reader text).map fun (value, rest) => (put record value, rest)

/-- A kind of record: what it is called in faults, its fields in order, and the record in which every
field has its default. -/
structure Schema (α : Type) where
  title : String
  fields : List (Field α)
  default : α

namespace Schema

variable {α : Type} (schema : Schema α)

/-- Reads the entry of a map behind the first quote of its key. `seen` are the names of fields that
have been read. -/
def readEntry (seen : List String) (record : α) (text : List Char) :
    Except Fault (List String × α × List Char) := do
  let (key, rest) ← readText text
  match schema.fields.find? (·.name == key) with
  | some field =>
    if seen.contains key then throw (.duplicateField key)
    let (record, rest) ← field.read record (← skipColon rest)
    return (key :: seen, record, rest)
  | none => return (seen, record, ← skipValue (← skipColon rest))

/-- Reads the entries of a map up to its end, as far as `fuel` entries. -/
def readEntries : (fuel : Nat) → (first : Bool) → List String → α → Reader α
  | 0, _, _, _, _ => .error .endInMap
  | fuel + 1, first, seen, record, text => do
    let entry := fun text => do
      let (seen, record, rest) ← schema.readEntry seen record text
      readEntries fuel false seen record rest
    match skipBlanks text with
    | [] => throw .endInMap
    | '\x7d' :: rest => return (record, rest)
    | c :: rest =>
      if first then if c = '"' then entry rest else throw .keyNotText
      else if c = ',' then
        match skipBlanks rest with
        | [] => throw .endInValue
        | '"' :: rest => entry rest
        | '\x7d' :: _ => throw .trailingComma
        | _ => throw .keyNotText
      else throw .expectedMapEnd

/-- Reads the end of a sequence behind its last field. -/
def readSequenceEnd (record : α) : Reader α := fun text =>
  match skipBlanks text with
  | [] => .error .endInSequence
  | ']' :: rest => .ok (record, rest)
  | ',' :: rest =>
    match skipBlanks rest with
    | ']' :: _ => .error .trailingComma
    | _ => .error .trailingCharacters
  | _ => .error .trailingCharacters

/-- Reads the given fields as the elements of a sequence, up to its end. -/
def readElements : (first : Bool) → List (Field α) → α → Reader α
  | _, [], record, text => readSequenceEnd record text
  | first, field :: fields, record, text => do
    let element := fun text => do
      let (record, rest) ← field.read record text
      readElements false fields record rest
    match skipBlanks text with
    | [] => throw .endInSequence
    | ']' :: rest => return (record, rest)
    | c :: rest =>
      if first then element (c :: rest)
      else if c = ',' then
        match skipBlanks rest with
        | [] => throw .endInValue
        | ']' :: _ => throw .trailingComma
        | rest => element rest
      else throw .expectedSequenceEnd

/-- Reads a record. -/
def read : Reader α := fun text =>
  match skipBlanks text with
  | [] => .error .endInValue
  | '\x7b' :: rest => schema.readEntries (rest.length + 1) true [] schema.default rest
  | '[' :: rest => readElements true schema.fields schema.default rest
  | text => .error (wrongKind schema.title text)

/-- Reads a text that holds a record and nothing else. -/
def parse (text : String) : Except Fault α := do
  let (record, rest) ← schema.read text.toList
  if (skipBlanks rest).isEmpty then return record else throw .trailingCharacters

/-- A field that holds a record. -/
def field {β : Type} (name : String) (put : β → α → β) : Field β := .of name schema.read put

end Schema

end SealedChat.Json
