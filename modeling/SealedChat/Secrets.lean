import SealedChat.Chain
import SealedChat.Code
import SealedChat.Hash.Argon2.Basic
import SealedChat.Hash.Sha3
import SealedChat.Identity
import SealedChat.Text.Quoted
import SealedChat.Wire.Frame

/-!
# Secrets of a chat

All secrets of a chat come from its code. The room's name is a hash of the code's text and may be
known to the server. The session key and the base of the key chain are made costly to guess. Every
number here is fixed by agreement with other clients.
-/

namespace SealedChat

/-- The symmetric key that belongs to a chat. -/
structure SessionKey where
  key : Key
  deriving DecidableEq

/-- What is shown of a session key. -/
def SessionKey.shown : String := "SessionKey([REDACTED])"

/-- What is shown of a room's name. -/
def RoomId.shown (room : RoomId) : String := "RoomId(" ++ Text.quote room.text ++ ")"

/-- All that a chat needs from its code. -/
structure Secrets where
  room : RoomId
  sessionKey : SessionKey
  base : ChainBase
  deriving DecidableEq

namespace Secrets

/-! ### Costs -/

/-- What it costs to expand a numeric code. -/
def numericCost : Argon2.Cost := ⟨3, 64 * 1024, 4, 64⟩

/-- What it costs to make the session key. -/
def sessionCost : Argon2.Cost := ⟨4, 128 * 1024, 8, 32⟩

/-- What it costs to make the base of the key chain. -/
def chainCost : Argon2.Cost := ⟨4, 128 * 1024, 8, 32⟩

/-! ### The three secrets -/

/-- The room of a code: two hashes of its text, the second written in digits for addresses. -/
def roomOf (code : String) : RoomId :=
  let first := Blake3.hash (Utf8.encode "rchat-v3-room-id-domain-sep:" ++ Utf8.encode code)
  ⟨Base64Url.encode (Sha3.hash (Utf8.encode "rchat-v3-double-hash-domain:" ++ first.bytes))⟩

/-- The 64 bytes behind a code: a numeric code is expanded, any other spells them. -/
def codeSecret (code : String) : Except KeyFault Bytes :=
  if Code.isNumeric code then
    .ok (Argon2.hash numericCost (Utf8.encode code) (Utf8.encode "rchat-v3-numeric-extreme-salt"))
  else
    match Base64Url.decode? code.toList with
    | some bytes => if bytes.length = Code.secretSize then .ok bytes else .error .invalidChatCode
    | none => .error .invalidChatCode

/-- The session key of a code. -/
def sessionKeyOf (code : String) : Except KeyFault SessionKey := do
  let secret ← codeSecret code
  let salt := Blake3.hash (Utf8.encode "rchat-v3-e2ee-salt-domain:" ++ secret)
  return ⟨⟨Argon2.hash sessionCost secret salt.bytes, Argon2.length_hash (by decide) _ _⟩⟩

/-- The base of a code's key chain. Any text has one. -/
def baseOf (code : String) : ChainBase :=
  ⟨⟨Argon2.hash chainCost (Utf8.encode code) (Utf8.encode "rchat-v3-chain-key-init"),
    Argon2.length_hash (by decide) _ _⟩⟩

/-- All secrets of a code. A code that is refused is refused before the base of the chain is made. -/
def derive (code : String) : Except KeyFault Secrets := do
  let sessionKey ← sessionKeyOf code
  return ⟨roomOf code, sessionKey, baseOf code⟩

/-- What is shown of a chat's secrets: the room's name only. -/
def shown (secrets : Secrets) : String :=
  "ChatSecrets \x7b room_id: " ++ secrets.room.shown ++
    ", session_key: \"[REDACTED]\", ratchet_base: \"[REDACTED]\" \x7d"

end Secrets

end SealedChat
