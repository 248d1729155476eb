import SealedChat.Proofs.Search
import SealedChat.Proofs.Session.Actions
import SealedChat.Proofs.Wire.Messages

/-!
# What operations do to a session

One statement for each operation says all that it does. A message that is sent takes one step of the chain
(`send_eq_ok_iff`), a message that is opened moves the chain behind its key (`openMessage_eq`), and whatever
else is received changes the chat as `Chat.Change` says. `Seat.Step` puts them together.
-/

namespace SealedChat

lemma Chat.isRoom_iff {chat : Chat} {room : RoomId} : chat.isRoom room = true ↔ room = chat.room := by
  unfold Chat.isRoom
  rw [Bytes.constantTimeEq_iff]
  constructor
  · intro h
    obtain ⟨text⟩ := room
    obtain rfl : text = chat.room.text := Utf8.encode_inj h
    rfl
  · rintro rfl
    rfl

/-! ### Sending -/

/-- The payload of a message that is sent. -/
def Session.payload (session : Session) (chat : Chat) (now : Int64) (content : String) (signature : Bytes) :
    Payload where
  username := session.username
  content := content
  timestamp := now
  sequence := chat.sequence
  publicKey := session.identity.publicKey.bytes
  signature := signature
  chainIndex := chat.chain.index

/-- The chat after a message was sent. -/
def Chat.sent (chat : Chat) (message : PendingMessage) : Chat :=
  { chat with chain := chat.chain.next.2, sequence := chat.sequence + 1, pending := chat.pending.push message }

namespace Seat

variable {seat next : Seat} {chat : Chat} {now : Int64} {content : String} {outbound : Outbound}

/-- Sealing takes the first random bytes for the nonce and those behind them for the id. -/
lemma run_sealSigned (hchat : seat.session.chat = some chat) (now : Int64) (content : String) (signature : Bytes) :
    let payload := seat.session.payload chat now content signature
    let ciphertext := chat.chain.next.1.sealWith (seat.entropy.peek MessageKey.nonceSize) payload.encode
    let messageId := (MessageId.generate (seat.entropy.skip MessageKey.nonceSize)).1
    let message := PendingMessage.new messageId content chat.sequence ciphertext now
    (sealSigned now content chat signature).run seat =
      .ok ⟨messageId, chat.messageFrame messageId ciphertext⟩
        ⟨{ seat.session with chat := some (chat.sent message) },
          (seat.entropy.skip MessageKey.nonceSize).skip MessageId.size⟩ := by
  obtain ⟨⟨username, numericCodes, window, retry, maxInbound, identity, found⟩, entropy⟩ := seat
  obtain rfl : found = some chat := hchat
  rfl

/-- **What sending does.** The content is signed and sealed under the next key of the chain, with the first
random bytes as the nonce; the bytes behind them give the id. -/
theorem send_eq_ok_iff : (send now content).run seat = .ok outbound next ↔
    ∃ chat signature, seat.session.chat = some chat ∧
      seat.session.identity.sign (signingMessage content chat.sequence chat.chain.index) = .ok signature ∧
      let payload := seat.session.payload chat now content signature
      let ciphertext := chat.chain.next.1.sealWith (seat.entropy.peek MessageKey.nonceSize) payload.encode
      let messageId := (MessageId.generate (seat.entropy.skip MessageKey.nonceSize)).1
      let message := PendingMessage.new messageId content chat.sequence ciphertext now
      outbound = ⟨messageId, chat.messageFrame messageId ciphertext⟩ ∧
        next = ⟨{ seat.session with chat := some (chat.sent message) },
          (seat.entropy.skip MessageKey.nonceSize).skip MessageId.size⟩ := by
  rw [Action.send_eq_ok_iff_sealSigned]
  refine exists_congr fun chat => exists_congr fun signature => ?_
  rw [and_congr_right_iff]
  intro hchat
  rw [run_sealSigned hchat, EStateM.Result.ok.injEq]
  exact and_congr_right fun _ => and_congr eq_comm eq_comm

/-- What was sent, with its parts named. -/
theorem exists_sealed_of_send (hchat : seat.session.chat = some chat)
    (hsend : (send now content).run seat = .ok outbound next) :
    ∃ signature ciphertext message,
      seat.session.identity.sign (signingMessage content chat.sequence chat.chain.index) = .ok signature ∧
      ciphertext = chat.chain.next.1.sealWith (seat.entropy.peek MessageKey.nonceSize)
        (seat.session.payload chat now content signature).encode ∧
      outbound.frame = (ClientFrame.sendMessage chat.room ciphertext outbound.messageId).encode ∧
      next.session = { seat.session with chat := some (chat.sent message) } := by
  obtain ⟨chat', signature, hchat', hsign, rfl, rfl⟩ := send_eq_ok_iff.1 hsend
  obtain rfl : chat = chat' := Option.some.inj (hchat.symm.trans hchat')
  exact ⟨signature, _, _, hsign, rfl, rfl, rfl⟩

/-- A session that is in a chat and can sign sends any content. -/
lemma exists_send (hchat : seat.session.chat = some chat) (signer : seat.session.identity.canSign = true) (now : Int64)
    (content : String) : ∃ outbound next, (send now content).run seat = .ok outbound next := by
  obtain ⟨seed, hseed⟩ := Option.isSome_iff_exists.1 signer
  have hsign : seat.session.identity.sign (signingMessage content chat.sequence chat.chain.index) =
      .ok (Ed25519.sign seed (signingMessage content chat.sequence chat.chain.index)) := by
    rw [Identity.sign, hseed]
  exact ⟨_, _, send_eq_ok_iff.2 ⟨chat, _, hchat, hsign, rfl, rfl⟩⟩

end Seat

/-! ### Opening a message -/

/-- The chat after a message was opened by the key at an index. A key behind the chain moves nothing. -/
def Chat.moved (chat : Chat) (index : UInt64) : Chat := { chat with chain := chat.chain.advanceTo (index + 1) }

/-- What is told of a message that was found. -/
def Session.opened (session : Session) (hit : Hit) (timestamp : Int64) (messageId : String) : OpenedMessage where
  username := hit.payload.username
  content := hit.payload.content
  timestamp := hit.payload.timestamp
  serverTimestamp := timestamp
  messageId := messageId
  sequence := hit.payload.sequence
  chainIndex := hit.index
  verified := verifySignature hit.payload.publicKey
    (signingMessage hit.payload.content hit.payload.sequence hit.index) hit.payload.signature
  isOwn := hit.payload.username == session.username
  senderFingerprint := (Key.ofBytes? hit.payload.publicKey).map fingerprint

namespace Session

variable {session : Session} {chat : Chat} {room : RoomId} {ciphertext : Bytes} {timestamp : Int64}
  {messageId : String}

lemma advanceTo_succ (chain : Chain) (index : UInt64) :
    (if chain.index ≤ index then chain.advanceTo (index + 1) else chain) = chain.advanceTo (index + 1) := by
  by_cases h : chain.index ≤ index
  · rw [if_pos h]
  · rw [if_neg h]
    have h := UInt64.lt_iff_toNat_lt.1 (UInt64.not_le.1 h)
    have := toNat_le_greatestIndex chain.index
    refine (Chain.advanceTo_of_le (UInt64.le_iff_toNat_le.2 ?_)).symm
    rw [toNat_add_one (by omega)]
    omega

/-- **What opening does.** A message of the session's room is searched for in the window; the chain then
stands behind the key that opened the message. -/
theorem openMessage_eq (hchat : session.chat = some chat) (ciphertext : Bytes) (timestamp : Int64)
    (messageId : String) :
    session.openMessage chat.room ciphertext timestamp messageId =
      (search? chat.base chat.chain session.window ciphertext).map fun hit =>
        (session.opened hit timestamp messageId, { session with chat := some (chat.moved hit.index) }) := by
  have hroom : chat.isRoom chat.room = true := Chat.isRoom_iff.2 rfl
  unfold openMessage
  rw [hchat, Option.bind_eq_bind, Option.bind_some, Option.bind_eq_bind, hroom]
  rw [show (guard (true = true) : Option Unit) = some () from rfl, Option.bind_some]
  cases search? chat.base chat.chain session.window ciphertext with
  | none => rfl
  | some hit =>
    exact congrArg
      (fun chain => some (session.opened hit timestamp messageId, { session with chat := some { chat with chain } }))
      (advanceTo_succ chat.chain hit.index)

/-- A message of another room is not opened, and none is outside of a chat. -/
lemma openMessage_eq_some {found : OpenedMessage × Session}
    (h : session.openMessage room ciphertext timestamp messageId = some found) :
    ∃ chat, session.chat = some chat ∧ room = chat.room := by
  unfold openMessage at h
  obtain ⟨chat, hchat, h⟩ := Option.bind_eq_some_iff.1 h
  obtain ⟨_, hguard, -⟩ := Option.bind_eq_some_iff.1 h
  by_cases hroom : chat.isRoom room = true
  · exact ⟨chat, hchat, Chat.isRoom_iff.1 hroom⟩
  · unfold guard at hguard
    rw [if_neg hroom] at hguard
    cases hguard

end Session

/-! ### Changes of a chat -/

/-- What a session does to its chat without sending. -/
inductive Chat.Change (policy : RetryPolicy) (chat : Chat) : Chat → Prop
  | named (kind : ChatKind) : Change policy chat { chat with kind := some kind }
  | moved (index : UInt64) : Change policy chat (chat.moved index)
  | acknowledged (messageId : String) :
    Change policy chat { chat with pending := (chat.pending.acknowledge messageId).2 }
  | swept (now : Int64) : Change policy chat { chat with pending := (chat.pending.sweep now policy).2 }

namespace Session

/-- A session that stays as it is, or in which only the chat changes. -/
inductive Adjusts (session : Session) : Session → Prop
  | same : Adjusts session session
  | change {chat chat' : Chat} (hchat : session.chat = some chat) (change : chat.Change session.retry chat') :
    Adjusts session { session with chat := some chat' }

variable {session : Session}

lemma recordKind_adjusts (session : Session) (room : RoomId) (kind : ChatKind) :
    session.Adjusts (session.recordKind room kind) := by
  unfold recordKind
  cases hchat : session.chat with
  | none =>
    rw [Option.map_none, ← hchat]
    exact .same
  | some chat =>
    rw [Option.map_some]
    by_cases hroom : chat.isRoom room = true
    · rw [if_pos hroom]
      exact .change hchat (.named kind)
    · rw [if_neg hroom, ← hchat]
      exact .same

lemma openMessage_adjusts {room : RoomId} {ciphertext : Bytes} {timestamp : Int64} {messageId : String}
    {message : OpenedMessage} {session' : Session}
    (h : session.openMessage room ciphertext timestamp messageId = some (message, session')) :
    session.Adjusts session' := by
  obtain ⟨chat, hchat, rfl⟩ := openMessage_eq_some h
  rw [openMessage_eq hchat] at h
  obtain ⟨hit, -, heq⟩ := Option.map_eq_some_iff.1 h
  obtain ⟨-, rfl⟩ := Prod.mk.inj heq
  exact .change hchat (.moved hit.index)

lemma acknowledge_eq_some {messageId : String} {session' : Session} (h : session.acknowledge messageId = some session') :
    ∃ chat, session.chat = some chat ∧ (chat.pending.find? messageId).isSome = true ∧
      session' = { session with chat := some { chat with pending := (chat.pending.acknowledge messageId).2 } } := by
  unfold acknowledge at h
  obtain ⟨chat, hchat, h⟩ := Option.bind_eq_some_iff.1 h
  obtain ⟨_, hfound, h⟩ := Option.bind_eq_some_iff.1 h
  refine ⟨chat, hchat, ?_, (Option.some.inj h).symm⟩
  unfold guard at hfound
  split at hfound
  · rename_i found
    exact found
  · cases hfound

lemma acknowledge_adjusts {messageId : String} {session' : Session}
    (h : session.acknowledge messageId = some session') : session.Adjusts session' := by
  obtain ⟨chat, hchat, -, rfl⟩ := acknowledge_eq_some h
  exact .change hchat (.acknowledged messageId)

/-- **Receiving changes nothing but the chat**, and this in three ways only. -/
theorem receive_adjusts (session : Session) (bytes : Bytes) : session.Adjusts (session.receive bytes).2 := by
  unfold receive
  split
  · exact .same
  · split
    · rename_i frame _
      cases frame with
      | chatCreated room kind => exact recordKind_adjusts session room kind
      | joinedChat room kind => exact recordKind_adjusts session room kind
      | messageReceived room ciphertext timestamp messageId =>
        rw [receiveFrame]
        cases h : session.openMessage room ciphertext timestamp messageId with
        | none => exact .same
        | some found => exact openMessage_adjusts h
      | messageAck messageId =>
        rw [receiveFrame]
        cases h : session.acknowledge messageId with
        | none => exact .same
        | some session' => exact acknowledge_adjusts h
      | error => exact .same
      | userJoined => exact .same
      | userLeft => exact .same
    · exact .same

lemma retryAt_adjusts (session : Session) (now : Int64) : session.Adjusts (session.retryAt now).2 := by
  unfold retryAt
  cases hchat : session.chat with
  | none => exact .same
  | some chat => exact .change hchat (.swept now)

/-- A session at the start of a chat. -/
def Enters (session session' : Session) : Prop :=
  ∃ secrets kind, session' = { session with chat := some (Chat.start secrets kind) }

end Session

/-! ### Steps -/

/-- An operation that would enter a chat. -/
def Operation.Enters : Operation → Prop
  | .create _ _ | .createWith _ _ | .join _ | .joinWith _ => True
  | _ => False

namespace Seat

/-- What an operation can do to a seat, and what it gives back when it does. -/
inductive Step (seat : Seat) (now : Int64) : Operation → Reply → Seat → Prop
  | refused {operation : Operation} (fault : SessionFault) : Step seat now operation (.refused fault) seat
  | received {frame : Bytes} {event : Option Event} {session : Session} (h : seat.session.Adjusts session) :
    Step seat now (.receive frame) (.event event) { seat with session }
  | swept {sweep : RetrySweep} {session : Session} (h : seat.session.Adjusts session) :
    Step seat now .retry (.swept sweep) { seat with session }
  | entered {operation : Operation} {bytes : Bytes} {session : Session} (h : seat.session.Enters session)
    (enters : operation.Enters) : Step seat now operation (.frame bytes) { seat with session }
  | left {bytes : Bytes} :
    Step seat now .leave (.frame bytes) { seat with session := { seat.session with chat := none } }
  | sent {content : String} {outbound : Outbound} {next : Seat}
    (h : (send now content).run seat = .ok outbound next) : Step seat now (.send content) (.sent outbound) next

variable {seat : Seat} {now : Int64}

/-- An operation that is an action is a step if it is one whenever it is not refused. -/
lemma step_outcome {α : Type} {give : α → Reply} {action : Action α} {operation : Operation} (atomic : action.Atomic)
    (h : ∀ a next, action.run seat = .ok a next → seat.Step now operation (give a) next) :
    seat.Step now operation (outcome give (action.run seat)).1 (outcome give (action.run seat)).2 := by
  cases hrun : action.run seat with
  | ok a next => exact h a next hrun
  | error fault next =>
    obtain rfl := atomic seat fault next hrun
    exact .refused fault

lemma step_enter {operation : Operation} (enters : operation.Enters) {secrets : Secrets} {kind : Option ChatKind}
    {request : String → ClientFrame} {bytes : Bytes} {next : Seat}
    (h : (enter secrets kind request).run seat = .ok bytes next) :
    seat.Step now operation (.frame bytes) next := by
  obtain ⟨-, -, rfl⟩ := Action.enter_eq_ok_iff.1 h
  exact .entered ⟨secrets, kind, rfl⟩ enters

/-- **Every operation is a step.** -/
theorem step_perform (seat : Seat) (now : Int64) (operation : Operation) :
    seat.Step now operation (seat.perform now operation).1 (seat.perform now operation).2 := by
  cases operation with
  | create code kind =>
    refine step_outcome (Action.atomic_withCode code fun _ => Action.atomic_enter _ _ _) fun bytes next h => ?_
    obtain ⟨secrets, -, h⟩ := Action.withCode_eq_ok_iff.1 h
    exact step_enter (by trivial) h
  | createWith secrets kind =>
    exact step_outcome (Action.atomic_enter _ _ _) fun bytes next h => step_enter (by trivial) h
  | join code =>
    refine step_outcome (Action.atomic_withCode code fun _ => Action.atomic_enter _ _ _) fun bytes next h => ?_
    obtain ⟨secrets, -, h⟩ := Action.withCode_eq_ok_iff.1 h
    exact step_enter (by trivial) h
  | joinWith secrets =>
    exact step_outcome (Action.atomic_enter _ _ _) fun bytes next h => step_enter (by trivial) h
  | send content => exact step_outcome (Action.atomic_send now content) fun outbound next h => .sent h
  | receive frame => exact .received (seat.session.receive_adjusts frame)
  | retry => exact .swept (seat.session.retryAt_adjusts now)
  | leave =>
    refine step_outcome Action.atomic_leave fun bytes next h => ?_
    obtain ⟨chat, -, -, rfl⟩ := Action.leave_eq_ok_iff.1 h
    exact .left

end Seat

end SealedChat
