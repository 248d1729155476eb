import SealedChat.MessageId
import SealedChat.Pending
import SealedChat.Secrets
import SealedChat.Session.Event
import SealedChat.Window

/-!
# Sessions

A session is one participant's side of at most one chat. Frames of the server go in; frames for the
server and events come out. A message that is opened moves the chain behind the key that opened it.
-/

namespace SealedChat

/-! ### State -/

/-- The chat that a session takes part in. -/
structure Chat where
  room : RoomId
  /-- The kind of chat; who joins does not know it until the server says it. -/
  kind : Option ChatKind
  sessionKey : SessionKey
  base : ChainBase
  /-- The place on the key chain: its index is that of the next message. -/
  chain : Chain
  /-- How many messages were sent. -/
  sequence : UInt64
  pending : PendingQueue
  deriving DecidableEq

namespace Chat

/-- A chat at its start. -/
def start (secrets : Secrets) (kind : Option ChatKind) : Chat where
  room := secrets.room
  kind := kind
  sessionKey := secrets.sessionKey
  base := secrets.base
  chain := Chain.ofBase secrets.base
  sequence := 0
  pending := {}

/-- Whether a room is the chat's; the comparison takes as long for every room of the same length. -/
def isRoom (chat : Chat) (room : RoomId) : Bool :=
  Bytes.constantTimeEq (Utf8.encode room.text) (Utf8.encode chat.room.text)

/-- The frame that carries a sealed message. -/
def messageFrame (chat : Chat) (messageId : String) (ciphertext : Bytes) : Bytes :=
  (ClientFrame.sendMessage chat.room ciphertext messageId).encode

end Chat

/-- A participant and the chat that the participant is in. -/
structure Session where
  username : String
  numericCodes : Bool
  window : Window
  retry : RetryPolicy
  maxInbound : UInt64
  identity : Identity
  chat : Option Chat
  deriving DecidableEq

/-- Why a session refuses to act. -/
inductive SessionFault where
  | key (fault : KeyFault)
  | notInChat
  | alreadyInChat
  deriving DecidableEq, Repr

/-- The wording of a refusal. -/
def SessionFault.message : SessionFault → String
  | .key fault => fault.message
  | .notInChat => "Not in a chat"
  | .alreadyInChat => "Already in a chat; leave it first"

/-- A frame with a message, and the message's id. -/
structure Outbound where
  messageId : String
  frame : Bytes
  deriving DecidableEq

/-- What a session does about messages that are not acknowledged. -/
structure RetrySweep where
  /-- Frames to send again. -/
  resend : List Outbound := []
  /-- Ids of messages that were given up. -/
  abandoned : List String := []
  deriving DecidableEq

namespace Session

/-- A session outside of any chat. -/
def new (settings : Settings) (identity : Identity) : Session where
  username := settings.client.username
  numericCodes := settings.client.numericCodes
  window := Window.ofSettings settings.session
  retry := RetryPolicy.ofSettings settings.session
  maxInbound := settings.session.maxInbound
  identity := identity
  chat := none

/-- Whether the session is in a chat. -/
def isActive (session : Session) : Bool := session.chat.isSome

/-- Whether a message waits for its acknowledgement. -/
def isPending (session : Session) (messageId : String) : Bool :=
  session.chat.any fun chat => (chat.pending.find? messageId).isSome

/-- What is shown of a session: neither keys nor what was said. -/
def shown (session : Session) : String :=
  let optional := fun value : Option String =>
    match value with
    | none => "None"
    | some text => "Some(" ++ text ++ ")"
  "SessionController \x7b username: " ++ Text.quote session.username ++
    ", identity: " ++ session.identity.shown ++
    ", room_id: " ++ optional (session.chat.map fun chat => chat.room.shown) ++
    ", chain_index: " ++ optional (session.chat.map fun chat => Decimal.ofNat chat.chain.index.toNat) ++
    ", .. \x7d"

/-! ### Codes -/

/-- A new chat code of the kind that the settings ask for; `tries` bounds the words that are drawn for
a numeric code. -/
def generateCode (session : Session) (tries : Nat) (entropy : Entropy) : Option (String × Entropy) :=
  if session.numericCodes then Code.generateNumeric tries entropy else some (Code.generateFull entropy)

/-! ### What a session may refuse -/

/-- The chat that the session is in. -/
def currentChat (session : Session) : Except SessionFault Chat :=
  match session.chat with
  | some chat => .ok chat
  | none => .error .notInChat

/-- Whether the session may enter a chat. -/
def ensureIdle (session : Session) : Except SessionFault Unit :=
  if session.isActive then .error .alreadyInChat else .ok ()

/-- The secrets of a code for a session that may enter a chat. -/
def secretsFor (session : Session) (code : String) : Except SessionFault Secrets :=
  if session.isActive then .error .alreadyInChat else (Secrets.derive code).mapError .key

/-- The participant's signature of a message. -/
def sign (session : Session) (message : Bytes) : Except SessionFault Bytes :=
  (session.identity.sign message).mapError .key

/-! ### Receiving -/

/-- The session after the server has named the kind of a chat. -/
def recordKind (session : Session) (room : RoomId) (kind : ChatKind) : Session :=
  { session with chat := session.chat.map fun chat =>
      if chat.isRoom room then { chat with kind := some kind } else chat }

/-- Opens a message of the session's room, if a key in the window does. -/
def openMessage (session : Session) (room : RoomId) (ciphertext : Bytes) (timestamp : Int64)
    (messageId : String) : Option (OpenedMessage × Session) := do
  let chat ← session.chat
  guard (chat.isRoom room)
  let hit ← search? chat.base chat.chain session.window ciphertext
  let payload := hit.payload
  let signed := signingMessage payload.content payload.sequence hit.index
  let chain := if chat.chain.index ≤ hit.index then chat.chain.advanceTo (hit.index + 1) else chat.chain
  let message : OpenedMessage :=
    { username := payload.username
      content := payload.content
      timestamp := payload.timestamp
      serverTimestamp := timestamp
      messageId := messageId
      sequence := payload.sequence
      chainIndex := hit.index
      verified := verifySignature payload.publicKey signed payload.signature
      isOwn := payload.username == session.username
      senderFingerprint := (Key.ofBytes? payload.publicKey).map fingerprint }
  return (message, { session with chat := some { chat with chain } })

/-- Takes the acknowledged message off the queue, if it waits there. -/
def acknowledge (session : Session) (messageId : String) : Option Session := do
  let chat ← session.chat
  let (found, pending) := chat.pending.acknowledge messageId
  guard found.isSome
  return { session with chat := some { chat with pending } }

/-- Acts on a frame of the server. -/
def receiveFrame (session : Session) : ServerFrame → Option Event × Session
  | .chatCreated room kind => (some (.chatCreated room kind), session.recordKind room kind)
  | .joinedChat room kind participants =>
    (some (.joinedChat room kind participants), session.recordKind room kind)
  | .error message => (some (.error message), session)
  | .messageReceived room ciphertext timestamp messageId =>
    match session.openMessage room ciphertext timestamp messageId with
    | some (message, session) => (some (.messageOpened message), session)
    | none => (none, session)
  | .messageAck messageId =>
    match session.acknowledge messageId with
    | some session => (some (.messageAck messageId), session)
    | none => (none, session)
  | .userJoined room username => (some (.userJoined room username), session)
  | .userLeft room username => (some (.userLeft room username), session)

/-- The wording for a frame that is too large. -/
def oversized (length : Nat) (limit : UInt64) : String :=
  "Malformed wire message: frame of " ++ Decimal.ofNat length ++ " bytes exceeds the " ++
    Decimal.ofNat limit.toNat ++ " byte limit"

/-- Acts on the bytes of a frame. Frames that are too large are not looked at; those that cannot be read
are reported. -/
def receive (session : Session) (bytes : Bytes) : Option Event × Session :=
  if session.maxInbound.toNat < bytes.length then
    (some (.error (oversized bytes.length session.maxInbound)), session)
  else
    match ServerFrame.decode bytes with
    | .ok frame => session.receiveFrame frame
    | .error fault => (some (.error (Wire.malformedFrame fault)), session)

/-! ### Sending again -/

/-- Sends messages again or gives them up, as they are at a time. -/
def retryAt (session : Session) (now : Int64) : RetrySweep × Session :=
  match session.chat with
  | none => ({}, session)
  | some chat =>
    let (sweep, pending) := chat.pending.sweep now session.retry
    ({ resend := sweep.resend.map fun m => ⟨m.messageId, chat.messageFrame m.messageId m.ciphertext⟩
       abandoned := sweep.abandoned.map (·.messageId) },
     { session with chat := some { chat with pending } })

end Session

end SealedChat
