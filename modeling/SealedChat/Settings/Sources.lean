import SealedChat.Bytes.Utf8
import SealedChat.Settings.Format

/-!
# Where settings come from

Settings are read from a file of the user, or from a file that is named explicitly and then replaces
the user's file as a whole. Variables of the environment override single settings. What comes out is
checked.
-/

namespace SealedChat

/-- The values of the environment's variables that are set. -/
abbrev Environment := String → Option String

/-- What a path leads to. -/
inductive FileState where
  | missing
  | directory
  | file (bytes : Bytes)
  deriving DecidableEq

/-- Why a file cannot be read as a text. -/
inductive ReadFault where
  | missing
  | directory
  | notText
  deriving DecidableEq, Repr

/-- The wording of a fault in reading. -/
def ReadFault.message : ReadFault → String
  | .missing => "No such file or directory (os error 2)"
  | .directory => "Is a directory (os error 21)"
  | .notText => "stream did not contain valid UTF-8"

/-- Why no settings can be had. -/
inductive SettingsFault where
  | unreadable (path : String) (fault : ReadFault)
  | malformed (path : String) (fault : Json.Fault)
  | refused (flaw : SettingsFlaw)

/-- The wording of a fault. -/
def SettingsFault.message (fault : SettingsFault) : String :=
  "Configuration error: " ++ match fault with
    | .unreadable path fault => "Failed to read config file " ++ path ++ ": " ++ fault.message
    | .malformed path fault => "Failed to parse config file " ++ path ++ ": " ++ fault.message
    | .refused flaw => flaw.message

namespace Settings

/-! ### Files -/

/-- The text that a path leads to. -/
def textOf : FileState → Except ReadFault String
  | .missing => .error .missing
  | .directory => .error .directory
  | .file bytes => (Utf8.decode bytes).mapError fun _ => .notText

/-- The settings in the file at a path. -/
def ofFile (path : String) (state : FileState) : Except SettingsFault Settings := do
  let text ← (textOf state).mapError (.unreadable path)
  (Settings.parse text).mapError (.malformed path)

/-- A path and a relative one behind it. -/
def joinPath (path relative : String) : String :=
  if path.isEmpty || path.toList.getLast? == some '/' then path ++ relative
  else path ++ "/" ++ relative

/-- Where the user's settings are kept. -/
def userPath? (env : Environment) : Option String :=
  let folder := (env "XDG_CONFIG_HOME").or ((env "HOME").map (joinPath · ".config"))
  folder.map fun folder => joinPath (joinPath folder "rchat") "settings.json"

/-! ### Overrides -/

/-- Reads a number up to a limit, with or without a plus sign. -/
def parseNumber? (limit : Nat) (text : String) : Option Nat :=
  let figures := match text.toList with
    | '+' :: rest => rest
    | figures => figures
  (Decimal.parse? figures).filter (· ≤ limit)

/-- A setting after an override; one that cannot be read is ignored. -/
def override {α : Type} (env : Environment) (name : String) (parse : String → Option α) (old : α) : α :=
  ((env name).bind parse).getD old

/-- The settings with the overrides of the environment. -/
def overridden (settings : Settings) (env : Environment) : Settings :=
  let word := fun text => (parseNumber? (2 ^ 64 - 1) text).map UInt64.ofNat
  let halfWord := fun text => (parseNumber? (2 ^ 32 - 1) text).map UInt32.ofNat
  let client := settings.client
  let session := settings.session
  { client := { client with
      username := override env "RCHAT_USERNAME" some client.username
      logLevel := override env "RCHAT_LOG_LEVEL" some client.logLevel }
    session := { session with
      retryTimeout := override env "RCHAT_RETRY_TIMEOUT_SECS" word session.retryTimeout
      maxRetries := override env "RCHAT_MAX_RETRIES" halfWord session.maxRetries
      searchAhead := override env "RCHAT_SEARCH_AHEAD" word session.searchAhead } }

/-! ### All sources together -/

/-- The settings of the user's file, or the defaults if there is no such file. -/
def ofUser (files : String → FileState) (env : Environment) : Except SettingsFault Settings :=
  match userPath? env with
  | none => .ok {}
  | some path => if files path = .missing then .ok {} else ofFile path (files path)

/-- The settings with all sources taken together. The user's file must be readable even where an
explicit file replaces it. -/
def load (files : String → FileState) (env : Environment) (explicit : Option String) :
    Except SettingsFault Settings := do
  let user ← ofUser files env
  let settings ← match explicit with
    | some path => ofFile path (files path)
    | none => pure user
  let settings := settings.overridden env
  match settings.flaw? with
  | some flaw => throw (.refused flaw)
  | none => return settings

end Settings

end SealedChat
