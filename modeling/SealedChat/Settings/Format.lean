import SealedChat.Json.Record
import SealedChat.Settings.Basic

/-!
# Settings as JSON

Settings are a record of two records, one for the participant and one for the session. They are
written as maps without white space, with their fields in order.
-/

namespace SealedChat

open Json

/-! ### Reading -/

/-- A field with a number of 64 bits. -/
def wordField {α : Type} (name kind : String) (put : α → UInt64 → α) : Json.Field α :=
  .of name (readNatural (2 ^ 64 - 1) kind) fun record n => put record (UInt64.ofNat n)

/-- A field with a number of 32 bits. -/
def halfWordField {α : Type} (name : String) (put : α → UInt32 → α) : Json.Field α :=
  .of name (readNatural (2 ^ 32 - 1) "u32") fun record n => put record (UInt32.ofNat n)

/-- How settings of a participant are read. -/
def ClientSettings.schema : Schema ClientSettings where
  title := "struct ClientConfig"
  fields :=
    [.of "username" readString fun s v => { s with username := v },
     .of "log_level" readString fun s v => { s with logLevel := v },
     .of "log_json" readBool fun s v => { s with logJson := v },
     .of "numeric_codes" readBool fun s v => { s with numericCodes := v }]
  default := {}

/-- How settings of a session are read. -/
def SessionSettings.schema : Schema SessionSettings where
  title := "struct SessionConfig"
  fields :=
    [wordField "retry_timeout_secs" "u64" fun s v => { s with retryTimeout := v },
     halfWordField "max_retries" fun s v => { s with maxRetries := v },
     wordField "search_behind" "u64" fun s v => { s with searchBehind := v },
     wordField "search_ahead" "u64" fun s v => { s with searchAhead := v },
     wordField "max_inbound_bytes" "usize" fun s v => { s with maxInbound := v }]
  default := {}

/-- How settings are read. -/
def Settings.schema : Schema Settings where
  title := "struct Config"
  fields :=
    [ClientSettings.schema.field "client" fun s v => { s with client := v },
     SessionSettings.schema.field "session" fun s v => { s with session := v }]
  default := {}

/-- Reads settings from a JSON text. -/
def Settings.parse (text : String) : Except Fault Settings := Settings.schema.parse text

/-! ### Writing -/

namespace Json

/-- A truth value. -/
def writeBool (b : Bool) : List Char := if b then ['t', 'r', 'u', 'e'] else ['f', 'a', 'l', 's', 'e']

/-- A map of written values under their names. -/
def writeMap (entries : List (String × List Char)) : List Char :=
  let written := entries.map fun (name, value) => writeText name ++ ':' :: value
  '\x7b' :: [','].intercalate written ++ ['\x7d']

end Json

/-- Settings of a participant, written. -/
def ClientSettings.write (s : ClientSettings) : List Char :=
  writeMap
    [("username", writeText s.username), ("log_level", writeText s.logLevel),
     ("log_json", writeBool s.logJson), ("numeric_codes", writeBool s.numericCodes)]

/-- Settings of a session, written. -/
def SessionSettings.write (s : SessionSettings) : List Char :=
  writeMap
    [("retry_timeout_secs", Decimal.figures s.retryTimeout.toNat),
     ("max_retries", Decimal.figures s.maxRetries.toNat),
     ("search_behind", Decimal.figures s.searchBehind.toNat),
     ("search_ahead", Decimal.figures s.searchAhead.toNat),
     ("max_inbound_bytes", Decimal.figures s.maxInbound.toNat)]

/-- Settings as a JSON text. -/
def Settings.write (s : Settings) : String :=
  String.ofList (writeMap [("client", s.client.write), ("session", s.session.write)])

end SealedChat
