import SealedChat.Session.Basic

/-!
# Entering a chat, sending and leaving

A participant enters a chat, sends and leaves in steps, any of which may be refused (`Seat.Action`). A step asks
the session something, draws random bytes, or changes the session. Nothing is taken back when a later step is
refused: that a refusal leaves the session and the random bytes as they were is a matter of the order of the steps.
-/

namespace SealedChat

/-- A session and the random bytes that it draws from. -/
structure Seat where
  session : Session
  entropy : Entropy

namespace Seat

/-- Steps that are taken one after the other until one is refused. What was done until then stays done. -/
abbrev Action := EStateM SessionFault Seat

/-! ### Steps -/

/-- Looks at the session. -/
def look : Action Session := do
  return (← get).session

/-- Asks the session something that it may refuse. -/
def ask {α : Type} (question : Session → Except SessionFault α) : Action α := do
  match question (← look) with
  | .ok answer => return answer
  | .error fault => throw fault

/-- Draws random bytes. -/
def draw {α : Type} (take : Entropy → α × Entropy) : Action α :=
  modifyGet fun seat => ((take seat.entropy).1, { seat with entropy := (take seat.entropy).2 })

/-- Changes the session. -/
def change (f : Session → Session) : Action Unit := modify fun seat => { seat with session := f seat.session }

/-- Changes the chat that the session is in. -/
def changeChat (f : Chat → Chat) : Action Unit := change fun session => { session with chat := session.chat.map f }

/-- Takes the chat out of the session. -/
def takeChat : Action Chat := do
  let found := (← look).currentChat
  change ({ · with chat := none })
  ask fun _ => found

/-! ### Entering and leaving a chat -/

/-- Enters a chat with given secrets and gives the frame that asks the server for it in the participant's name. -/
def enter (secrets : Secrets) (kind : Option ChatKind) (request : String → ClientFrame) : Action Bytes := do
  ask Session.ensureIdle
  let frame := (request (← look).username).encode
  change ({ · with chat := some (Chat.start secrets kind) })
  return frame

/-- Starts a chat with given secrets. -/
def createWith (secrets : Secrets) (kind : ChatKind) : Action Bytes :=
  enter secrets (some kind) (.createChat secrets.room kind)

/-- Joins a chat with given secrets. -/
def joinWith (secrets : Secrets) : Action Bytes := enter secrets none (.joinChat secrets.room)

/-- Goes on with the secrets of a code. -/
def withCode (code : String) (next : Secrets → Action Bytes) : Action Bytes := do
  next (← ask (·.secretsFor code))

/-- Starts a chat with the secrets of a code. -/
def create (code : String) (kind : ChatKind) : Action Bytes := withCode code (createWith · kind)

/-- Joins the chat of a code. -/
def join (code : String) : Action Bytes := withCode code joinWith

/-- Leaves the chat, and with it its secrets and the messages that wait. -/
def leave : Action Bytes := do
  let chat ← ask Session.currentChat
  let frame := (ClientFrame.leaveChat chat.room).encode
  let _ ← takeChat
  return frame

/-! ### Sending -/

/-- Seals a signed message under the next key of the chain. It waits for its acknowledgement from now on. The key is
taken from the chain aside; the chain moves only when the frame is there. -/
def sealSigned (now : Int64) (content : String) (chat : Chat) (signature : Bytes) : Action Outbound := do
  let next := chat.chain.next
  let session ← look
  let payload : Payload :=
    { username := session.username
      content := content
      timestamp := now
      sequence := chat.sequence
      publicKey := session.identity.publicKey.bytes
      signature := signature
      chainIndex := chat.chain.index }
  let ciphertext ← draw (next.1.encrypt payload.encode)
  let messageId ← draw MessageId.generate
  let frame := chat.messageFrame messageId ciphertext
  changeChat ({ · with chain := next.2 })
  let message := PendingMessage.new messageId content chat.sequence ciphertext now
  changeChat fun chat => { chat with pending := chat.pending.push message }
  changeChat fun chat => { chat with sequence := chat.sequence + 1 }
  return ⟨messageId, frame⟩

/-- Signs a message and seals it. -/
def send (now : Int64) (content : String) : Action Outbound := do
  let chat ← ask Session.currentChat
  let signature ← ask (·.sign (signingMessage content chat.sequence chat.chain.index))
  sealSigned now content chat signature

end Seat

end SealedChat
