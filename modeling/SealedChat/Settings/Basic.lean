import SealedChat.Text.Blank

/-!
# Settings

What a participant may choose: a name, how much is logged, how codes are made, when unacknowledged
messages are sent again, how far key chains are searched and how large a frame may be. Every setting
has a default.
-/

namespace SealedChat

/-- Settings of a participant. -/
structure ClientSettings where
  /-- The name that every sent message carries. -/
  username : String := "anonymous"
  logLevel : String := "info"
  logJson : Bool := false
  /-- Whether new chat codes are numeric. -/
  numericCodes : Bool := false
  deriving DecidableEq, Repr

/-- Settings of delivery and of the search for keys. -/
structure SessionSettings where
  /-- Seconds without an acknowledgement before a message is sent again. -/
  retryTimeout : UInt64 := 2
  /-- How often a message is sent again before it is given up. -/
  maxRetries : UInt32 := 3
  /-- How many indices behind the own one are searched. -/
  searchBehind : UInt64 := 5
  /-- How many indices from the own one on are searched. -/
  searchAhead : UInt64 := 20
  /-- The size in bytes beyond which a frame is not looked at. -/
  maxInbound : UInt64 := 1048576
  deriving DecidableEq, Repr

/-- All settings. -/
structure Settings where
  client : ClientSettings := {}
  session : SessionSettings := {}
  deriving DecidableEq, Repr

/-- What the settings are refused for. -/
inductive SettingsFlaw where
  /-- A name must not be blank. -/
  | blankUsername
  /-- At least the own index must be searched. -/
  | emptyWindow
  deriving DecidableEq, Repr

/-- The wording of a refusal. -/
def SettingsFlaw.message : SettingsFlaw → String
  | .blankUsername => "username must not be empty"
  | .emptyWindow => "search_ahead must be at least 1, the search window would be empty"

/-- The first reason to refuse the settings, if there is one. -/
def Settings.flaw? (settings : Settings) : Option SettingsFlaw :=
  if Text.isBlank settings.client.username then some .blankUsername
  else if settings.session.searchAhead = 0 then some .emptyWindow
  else none

/-- What is logged by default at a level. -/
def logFilter (level : String) : String :=
  "rchat_core=" ++ level ++ ",rchat_crypto=" ++ level ++ ",rchat_proto=" ++ level

end SealedChat
