import SealedChat.Proofs.Session.Delivery

/-!
# What a received frame does

`Session.ActsOn` says all that a frame can come to when it was read, and `Session.Receives` all that bytes can come
to. From the event that a session gives one can tell what has changed: the kind of the chat, one message that
waited, the chain, or nothing (`receive_framed`). A message is reported as opened only if a key of the window opens
it, and what is reported of it is what its payload says (`opened_justified`).
-/

namespace SealedChat

namespace Session

/-! ### What a frame comes to -/

/-- What comes of a frame that was read: the event that it gives, and the session behind it. -/
inductive ActsOn (session : Session) : ServerFrame → Option Event → Session → Prop
  | chatCreated {room : RoomId} {kind : ChatKind} :
    ActsOn session (.chatCreated room kind) (some (.chatCreated room kind)) (session.recordKind room kind)
  | joinedChat {room : RoomId} {kind : ChatKind} {participants : UInt64} :
    ActsOn session (.joinedChat room kind participants) (some (.joinedChat room kind participants))
      (session.recordKind room kind)
  | error {message : String} : ActsOn session (.error message) (some (.error message)) session
  | opened {chat : Chat} {ciphertext : Bytes} {timestamp : Int64} {messageId : String} {hit : Hit}
    (hchat : session.chat = some chat)
    (found : search? chat.base chat.chain session.window ciphertext = some hit) :
    ActsOn session (.messageReceived chat.room ciphertext timestamp messageId)
      (some (.messageOpened (session.opened hit timestamp messageId)))
      { session with chat := some (chat.moved hit.index) }
  | dropped {room : RoomId} {ciphertext : Bytes} {timestamp : Int64} {messageId : String}
    (closed : ∀ chat, session.chat = some chat → room = chat.room →
      search? chat.base chat.chain session.window ciphertext = none) :
    ActsOn session (.messageReceived room ciphertext timestamp messageId) none session
  | acknowledged {chat : Chat} {messageId : String} (hchat : session.chat = some chat)
    (found : (chat.pending.find? messageId).isSome = true) :
    ActsOn session (.messageAck messageId) (some (.messageAck messageId))
      { session with chat := some { chat with pending := (chat.pending.acknowledge messageId).2 } }
  | unknown {messageId : String}
    (absent : ∀ chat, session.chat = some chat → chat.pending.find? messageId = none) :
    ActsOn session (.messageAck messageId) none session
  | userJoined {room : RoomId} {username : String} :
    ActsOn session (.userJoined room username) (some (.userJoined room username)) session
  | userLeft {room : RoomId} {username : String} :
    ActsOn session (.userLeft room username) (some (.userLeft room username)) session

/-- What comes of bytes that are received. -/
inductive Receives (session : Session) (bytes : Bytes) : Option Event → Session → Prop
  | oversized (long : session.maxInbound.toNat < bytes.length) :
    Receives session bytes (some (.error (oversized bytes.length session.maxInbound))) session
  | malformed {fault : Wire.DecodeFault} (short : bytes.length ≤ session.maxInbound.toNat)
    (decoded : ServerFrame.decode bytes = .error fault) :
    Receives session bytes (some (.error (Wire.malformedFrame fault))) session
  | read {frame : ServerFrame} {event : Option Event} {after : Session}
    (short : bytes.length ≤ session.maxInbound.toNat) (decoded : ServerFrame.decode bytes = .ok frame)
    (acts : session.ActsOn frame event after) :
    Receives session bytes event after

section Inversion

variable {session : Session} {chat : Chat} {room : RoomId} {ciphertext : Bytes} {timestamp : Int64}
  {messageId : String}

lemma search?_of_unopened (h : session.openMessage room ciphertext timestamp messageId = none)
    (hchat : session.chat = some chat) (hroom : room = chat.room) :
    search? chat.base chat.chain session.window ciphertext = none := by
  subst hroom
  rw [openMessage_eq hchat] at h
  exact Option.map_eq_none_iff.1 h

lemma find?_of_unacknowledged (h : session.acknowledge messageId = none) (hchat : session.chat = some chat) :
    chat.pending.find? messageId = none := by
  cases hfound : chat.pending.find? messageId with
  | none => rfl
  | some message =>
    have : (chat.pending.acknowledge messageId).1.isSome = true := by
      rw [PendingQueue.acknowledge, hfound]
      rfl
    simp [acknowledge, hchat, this, guard] at h

lemma actsOn_receiveFrame (session : Session) (frame : ServerFrame) :
    session.ActsOn frame (session.receiveFrame frame).1 (session.receiveFrame frame).2 := by
  cases frame with
  | chatCreated => exact .chatCreated
  | joinedChat => exact .joinedChat
  | error => exact .error
  | messageReceived room ciphertext timestamp messageId =>
    rw [receiveFrame]
    cases hopen : session.openMessage room ciphertext timestamp messageId with
    | none => exact .dropped fun chat hchat hroom => search?_of_unopened hopen hchat hroom
    | some opened =>
      obtain ⟨chat, hchat, rfl⟩ := openMessage_eq_some hopen
      rw [openMessage_eq hchat] at hopen
      obtain ⟨hit, found, rfl⟩ := Option.map_eq_some_iff.1 hopen
      exact .opened hchat found
  | messageAck messageId =>
    rw [receiveFrame]
    cases hack : session.acknowledge messageId with
    | none => exact .unknown fun chat hchat => find?_of_unacknowledged hack hchat
    | some after =>
      obtain ⟨chat, hchat, found, rfl⟩ := acknowledge_eq_some hack
      exact .acknowledged hchat found
  | userJoined => exact .userJoined
  | userLeft => exact .userLeft

/-- **Every byte string that is received comes to one of these things.** -/
theorem receives (session : Session) (bytes : Bytes) :
    session.Receives bytes (session.receive bytes).1 (session.receive bytes).2 := by
  unfold receive
  split
  · rename_i long
    exact .oversized long
  · rename_i short
    split
    · rename_i frame decoded
      exact .read (Nat.le_of_not_lt short) decoded (session.actsOn_receiveFrame frame)
    · rename_i fault decoded
      exact .malformed (Nat.le_of_not_lt short) decoded

end Inversion

/-! ### What an event tells about the session -/

/-- The server's word on the kind of a chat changes that kind or nothing, and nothing in another room or outside of
any chat. -/
def Named (session : Session) (room : RoomId) (kind : ChatKind) (after : Session) : Prop :=
  after = session ∨ ∃ chat, session.chat = some chat ∧ room = chat.room ∧
    after = { session with chat := some { chat with kind := some kind } }

/-- **What received bytes may change**, by the event that they give. -/
def Framed (session : Session) (bytes : Bytes) : Option Event → Session → Prop
  | some (.chatCreated room kind), after =>
    ServerFrame.decode bytes = .ok (.chatCreated room kind) ∧ session.Named room kind after
  | some (.joinedChat room kind participants), after =>
    ServerFrame.decode bytes = .ok (.joinedChat room kind participants) ∧ session.Named room kind after
  | some (.messageAck messageId), after =>
    ∃ chat before message behind, session.chat = some chat ∧
      chat.pending.messages = before ++ message :: behind ∧ message.messageId = messageId ∧
      (∀ earlier ∈ before, earlier.messageId ≠ messageId) ∧
      after = { session with chat := some { chat with pending := ⟨before ++ behind⟩ } }
  | some (.messageOpened _), after =>
    ∃ chat chain, session.chat = some chat ∧ after = { session with chat := some { chat with chain } }
  | none, after | some (.error _), after | some (.userJoined _ _), after | some (.userLeft _ _), after =>
    after = session

section Framed

variable {session after : Session} {bytes : Bytes} {event : Option Event} {messageId : String}

lemma named_recordKind (session : Session) (room : RoomId) (kind : ChatKind) :
    session.Named room kind (session.recordKind room kind) := by
  unfold recordKind
  cases hchat : session.chat with
  | none =>
    rw [Option.map_none, ← hchat]
    exact .inl rfl
  | some chat =>
    rw [Option.map_some]
    by_cases hroom : chat.isRoom room = true
    · rw [if_pos hroom]
      exact .inr ⟨chat, hchat, Chat.isRoom_iff.1 hroom, rfl⟩
    · rw [if_neg hroom, ← hchat]
      exact .inl rfl

lemma ActsOn.framed {frame : ServerFrame} (acts : session.ActsOn frame event after)
    (decoded : ServerFrame.decode bytes = .ok frame) : session.Framed bytes event after := by
  cases acts with
  | chatCreated => exact ⟨decoded, session.named_recordKind _ _⟩
  | joinedChat => exact ⟨decoded, session.named_recordKind _ _⟩
  | opened hchat => exact ⟨_, _, hchat, rfl⟩
  | acknowledged hchat found =>
    rcases PendingQueue.acknowledge_cases _ _ with
      ⟨before, message, behind, hsplit, hid, hbefore, -, hafter⟩ | ⟨-, hnone, -⟩
    · exact ⟨_, before, message, behind, hchat, hsplit, hid, hbefore, by rw [hafter]⟩
    · rw [hnone] at found
      cases found
  | error | dropped | unknown | userJoined | userLeft => exact rfl

lemma Receives.framed (h : session.Receives bytes event after) : session.Framed bytes event after := by
  cases h with
  | oversized | malformed => exact rfl
  | read _ decoded acts => exact acts.framed decoded

/-- Outside of a chat no message is opened and none is acknowledged. -/
lemma Receives.of_idle (h : session.Receives bytes event after) (idle : session.chat = none) :
    after = session ∧ (∀ message, event ≠ some (.messageOpened message)) ∧
      ∀ messageId, event ≠ some (.messageAck messageId) := by
  have hframed := h.framed
  have hnone (chat : Chat) : session.chat ≠ some chat := by
    rw [idle]
    exact (Option.some_ne_none chat).symm
  have unnamed {room : RoomId} {kind : ChatKind} (named : session.Named room kind after) : after = session := by
    rcases named with rfl | ⟨chat, hchat, -⟩
    · rfl
    · exact absurd hchat (hnone chat)
  have unopened (message : OpenedMessage) : event ≠ some (.messageOpened message) := by
    rintro rfl
    obtain ⟨chat, -, hchat, -⟩ := hframed
    exact hnone chat hchat
  have unacknowledged (messageId : String) : event ≠ some (.messageAck messageId) := by
    rintro rfl
    obtain ⟨chat, -, -, -, hchat, -⟩ := hframed
    exact hnone chat hchat
  refine ⟨?_, unopened, unacknowledged⟩
  cases event with
  | none => exact hframed
  | some event =>
    cases event with
    | chatCreated | joinedChat => exact unnamed hframed.2
    | messageOpened message => exact absurd rfl (unopened message)
    | messageAck messageId => exact absurd rfl (unacknowledged messageId)
    | error | userJoined | userLeft => exact hframed

end Framed

/-- **What a received frame changes shows in the event that it gives.** Outside of a chat it changes nothing, and no
message is opened or acknowledged there. A frame that is too large changes nothing, and what is told of it depends
on its length and on the limit. -/
theorem receive_framed (session : Session) (bytes : Bytes) :
    session.Framed bytes (session.receive bytes).1 (session.receive bytes).2 ∧
    (session.isActive = false → (session.receive bytes).2 = session ∧
      (∀ message, (session.receive bytes).1 ≠ some (.messageOpened message)) ∧
      ∀ messageId, (session.receive bytes).1 ≠ some (.messageAck messageId)) ∧
    (session.maxInbound.toNat < bytes.length →
      session.receive bytes = (some (.error (oversized bytes.length session.maxInbound)), session)) := by
  have h := session.receives bytes
  refine ⟨h.framed, ?_, ?_⟩
  · intro idle
    refine h.of_idle ?_
    unfold isActive at idle
    rwa [Option.isSome_eq_false_iff, Option.isNone_iff_eq_none] at idle
  · intro long
    exact if_pos long

end Session

/-- Receiving as an operation: the seat has the session that comes of the frame, and draws nothing. -/
lemma Seat.receives_of_perform {seat next : Seat} {now : Int64} {bytes : Bytes} {event : Option Event}
    (h : seat.perform now (.receive bytes) = (.event event, next)) :
    seat.session.Receives bytes event next.session ∧ next.entropy = seat.entropy := by
  have hperform : seat.perform now (.receive bytes) =
      (.event (seat.session.receive bytes).1, { seat with session := (seat.session.receive bytes).2 }) := rfl
  rw [hperform] at h
  obtain ⟨hevent, rfl⟩ := Prod.mk.inj h
  obtain rfl := Reply.event.inj hevent
  exact ⟨seat.session.receives bytes, rfl⟩

/-- Of two messages that wait under one id, the earlier one is acknowledged. -/
theorem receive_framed_acknowledged :
    let key : Key := ⟨List.replicate 32 0, rfl⟩
    let message (content : String) : PendingMessage := .new "id" content 0 [] 0
    let chat := { Chat.start ⟨⟨"room"⟩, ⟨key⟩, ⟨key⟩⟩ none with pending := ⟨[message "one", message "two"]⟩ }
    let session := { Session.new {} ⟨none, key⟩ with chat := some chat }
    let result := session.receive (ServerFrame.messageAck "id").encode
    result.1 = some (.messageAck "id") ∧
      ∃ after, result.2 = { session with chat := some { chat with pending := ⟨[after]⟩ } } ∧ after.content = "two" := by
  intro key message chat session result
  have hevent : result.1 = some (.messageAck "id") := by
    show (session.receive _).1 = _
    rw [Session.receive_encode (by decide)]
    rfl
  have hframed := (session.receive_framed (ServerFrame.messageAck "id").encode).1
  rw [hevent] at hframed
  obtain ⟨chat', before, first, behind, hchat, hsplit, hid, hbefore, hafter⟩ := hframed
  obtain rfl : chat = chat' := Option.some.inj hchat
  cases before with
  | nil =>
    obtain ⟨-, rfl⟩ := List.cons.inj hsplit
    exact ⟨hevent, message "two", hafter, rfl⟩
  | cons earlier before =>
    obtain ⟨rfl, -⟩ := List.cons.inj hsplit
    exact absurd rfl (hbefore _ List.mem_cons_self)

/-! ### What is reported of an opened message -/

/-- **What the report of an opened message rests on**: a payload to which the key at the reported index opens the
ciphertext, and which names this index. The message counts as verified if the signature is one of the content and
the two positions under the payload's public key, whose fingerprint is then reported. -/
structure OpenedMessage.RestsOn (message : OpenedMessage) (base : ChainBase) (ciphertext : Bytes)
    (payload : Payload) : Prop where
  opens : Opens base ciphertext message.chainIndex payload
  username : message.username = payload.username
  content : message.content = payload.content
  timestamp : message.timestamp = payload.timestamp
  sequence : message.sequence = payload.sequence
  verified : message.verified = true ↔ ∃ key : Key, key.bytes = payload.publicKey ∧
    Ed25519.verify key (Utf8.encode message.content ++ LittleEndian.ofUInt64 message.sequence ++
      LittleEndian.ofUInt64 message.chainIndex) payload.signature = true
  fingerprint : message.verified = true → ∃ key : Key, key.bytes = payload.publicKey ∧
    message.senderFingerprint = some (SealedChat.fingerprint key)

/-- **How far a frame moves the chain** of a chat: never back, no farther than the window reaches ahead, and only
behind the key of a message that is reported as opened. -/
structure Chat.Advances (window : Window) (event : Option Event) (chat after : Chat) : Prop where
  forward : chat.chain.index ≤ after.chain.index
  bounded : after.chain.index.toNat ≤ chat.chain.index.toNat + window.ahead.toNat
  opened : after.chain.index ≠ chat.chain.index → ∃ message, event = some (.messageOpened message) ∧
    after.chain.index.toNat = message.chainIndex.toNat + 1

lemma verifySignature_iff {publicKey message signature : Bytes} : verifySignature publicKey message signature = true ↔
    ∃ key : Key, key.bytes = publicKey ∧ Ed25519.verify key message signature = true := by
  cases hkey : Key.ofBytes? publicKey with
  | none =>
    have hfalse : verifySignature publicKey message signature = false := by
      simp [verifySignature, Identity.ofPublicBytes, hkey]
    rw [hfalse]
    refine iff_of_false Bool.false_ne_true ?_
    rintro ⟨key, rfl, -⟩
    rw [Key.ofBytes?_bytes] at hkey
    cases hkey
  | some key =>
    obtain rfl := Key.ofBytes?_eq_some_iff.1 hkey
    rw [verifySignature_bytes]
    constructor
    · intro h
      exact ⟨key, rfl, h⟩
    · rintro ⟨other, hbytes, h⟩
      obtain rfl : other = key := Option.some.inj ((Key.ofBytes?_bytes other).symm.trans (hbytes ▸ hkey))
      exact h

namespace Session

variable {session after : Session} {chat : Chat} {bytes : Bytes} {event : Option Event} {hit : Hit}

lemma opened_restsOn (session : Session) {base : ChainBase} {ciphertext : Bytes} (timestamp : Int64)
    (messageId : String)
    (hopens : Opens base ciphertext hit.index hit.payload) :
    (session.opened hit timestamp messageId).RestsOn base ciphertext hit.payload where
  opens := hopens
  username := rfl
  content := rfl
  timestamp := rfl
  sequence := rfl
  verified := verifySignature_iff
  fingerprint h := by
    obtain ⟨key, hbytes, -⟩ := verifySignature_iff.1 h
    refine ⟨key, hbytes, ?_⟩
    rw [opened, ← hbytes, Key.ofBytes?_bytes, Option.map_some]

lemma Receives.restsOn {message : OpenedMessage} (h : session.Receives bytes (some (.messageOpened message)) after)
    (follows : ∀ chat, session.chat = some chat → chat.chain.Follows chat.base) :
    ∃ chat ciphertext payload, session.chat = some chat ∧ bytes.length ≤ session.maxInbound.toNat ∧
      ServerFrame.decode bytes =
        .ok (.messageReceived chat.room ciphertext message.serverTimestamp message.messageId) ∧
      message.RestsOn chat.base ciphertext payload := by
  cases h with
  | read short decoded acts =>
    cases acts with
    | opened hchat found =>
      obtain ⟨⟨-, hopens⟩, -⟩ := (search?_eq_some_iff (follows _ hchat)).1 found
      exact ⟨_, _, _, hchat, short, decoded, session.opened_restsOn _ _ hopens⟩

/-- What is reported as opened was found by a search in the chat, and the chain then stands behind it. -/
lemma Receives.exists_hit {message : OpenedMessage} (h : session.Receives bytes (some (.messageOpened message)) after) :
    ∃ chat ciphertext hit, session.chat = some chat ∧
      ServerFrame.decode bytes =
        .ok (.messageReceived chat.room ciphertext message.serverTimestamp message.messageId) ∧
      search? chat.base chat.chain session.window ciphertext = some hit ∧
      message = session.opened hit message.serverTimestamp message.messageId ∧
      after = { session with chat := some (chat.moved hit.index) } := by
  cases h with
  | read short decoded acts =>
    cases acts with
    | opened hchat found => exact ⟨_, _, _, hchat, decoded, found, rfl, rfl⟩

lemma advances_of_eq {chat' : Chat} (window : Window) (event : Option Event) (h : chat'.chain = chat.chain) :
    chat.Advances window event chat' := by
  refine ⟨?_, ?_, ?_⟩ <;> rw [h]
  · exact UInt64.le_refl _
  · exact Nat.le_add_right _ _
  · intro hne
    exact absurd rfl hne

lemma Named.exists_chat {room : RoomId} {kind : ChatKind} (h : session.Named room kind after)
    (hchat : session.chat = some chat) : ∃ chat', after.chat = some chat' ∧ chat'.chain = chat.chain := by
  rcases h with rfl | ⟨other, hother, -, rfl⟩
  · exact ⟨chat, hchat, rfl⟩
  · obtain rfl := Option.some.inj (hchat.symm.trans hother)
    exact ⟨_, rfl, rfl⟩

lemma advances_moved {window : Window} {message : OpenedMessage} (hindex : message.chainIndex = hit.index)
    (hcovers : window.Covers chat.chain.index hit.index) :
    chat.Advances window (some (.messageOpened message)) (chat.moved hit.index) := by
  have hlt := hcovers.2
  have hmoved : (chat.moved hit.index).chain.index.toNat = max chat.chain.index.toNat (hit.index.toNat + 1) := by
    rw [Chat.moved, Chain.toNat_index_advanceTo, toNat_add_one (by omega)]
  refine ⟨?_, ?_, ?_⟩
  · rw [UInt64.le_iff_toNat_le, hmoved]
    exact Nat.le_max_left _ _
  · rw [hmoved]
    omega
  · intro hne
    refine ⟨message, rfl, ?_⟩
    have hne : (chat.moved hit.index).chain.index.toNat ≠ chat.chain.index.toNat := fun h => hne (UInt64.toNat_inj.1 h)
    rw [hindex]
    omega

lemma ActsOn.advances {frame : ServerFrame} (acts : session.ActsOn frame event after) (hchat : session.chat = some chat)
    (follows : chat.chain.Follows chat.base) :
    ∃ chat', after.chat = some chat' ∧ chat.Advances session.window event chat' := by
  cases acts with
  | chatCreated | joinedChat =>
    obtain ⟨chat', hchat', hchain⟩ := (session.named_recordKind _ _).exists_chat hchat
    exact ⟨chat', hchat', advances_of_eq _ _ hchain⟩
  | opened hother found =>
    obtain rfl := Option.some.inj (hchat.symm.trans hother)
    obtain ⟨⟨hcovers, -⟩, -⟩ := (search?_eq_some_iff follows).1 found
    exact ⟨_, rfl, advances_moved rfl hcovers⟩
  | acknowledged hother =>
    obtain rfl := Option.some.inj (hchat.symm.trans hother)
    exact ⟨_, rfl, advances_of_eq _ _ rfl⟩
  | error | dropped | unknown | userJoined | userLeft => exact ⟨chat, hchat, advances_of_eq _ _ rfl⟩

lemma Receives.advances (h : session.Receives bytes event after) (hchat : session.chat = some chat)
    (follows : chat.chain.Follows chat.base) :
    ∃ chat', after.chat = some chat' ∧ chat.Advances session.window event chat' := by
  cases h with
  | oversized | malformed => exact ⟨chat, hchat, advances_of_eq _ _ rfl⟩
  | read _ _ acts => exact acts.advances hchat follows

/-- The stamps of the server do not matter for what is opened. -/
lemma openMessage_restamped (session : Session) (room : RoomId) (ciphertext : Bytes) (time time' : Int64)
    (messageId messageId' : String) :
    (session.openMessage room ciphertext time messageId = none ∧
      session.openMessage room ciphertext time' messageId' = none) ∨
    ∃ message after, session.openMessage room ciphertext time messageId = some (message, after) ∧
      session.openMessage room ciphertext time' messageId' =
        some ({ message with serverTimestamp := time', messageId := messageId' }, after) := by
  cases hopen : session.openMessage room ciphertext time messageId with
  | some found =>
    obtain ⟨chat, hchat, rfl⟩ := openMessage_eq_some hopen
    rw [openMessage_eq hchat] at hopen
    obtain ⟨hit, hfound, rfl⟩ := Option.map_eq_some_iff.1 hopen
    refine .inr ⟨_, _, rfl, ?_⟩
    rw [openMessage_eq hchat, hfound]
    rfl
  | none =>
    refine .inl ⟨rfl, ?_⟩
    cases hopen' : session.openMessage room ciphertext time' messageId' with
    | none => rfl
    | some found =>
      obtain ⟨chat, hchat, rfl⟩ := openMessage_eq_some hopen'
      rw [openMessage_eq hchat, search?_of_unopened hopen hchat rfl] at hopen'
      cases hopen'

lemma receive_of_decode {frame : ServerFrame} (short : bytes.length ≤ session.maxInbound.toNat)
    (decoded : ServerFrame.decode bytes = .ok frame) : session.receive bytes = session.receiveFrame frame := by
  rw [receive, if_neg (Nat.not_lt.2 short), decoded]

end Session

/-- **Every report of an opened message is justified, and its effect is bounded.** In every state that a session can
come to, a message is reported as opened only if the bytes are no longer than the limit and carry a message of the
session's room, and the report rests on a payload that the key at its index opens. A frame moves the chain as
`Chat.Advances` says. What the server adds to a message, its id and its own time, has no part in this: two frames
that differ in nothing else give reports that differ in nothing else, and lead to the same session. -/
theorem opened_justified {seat : Seat} (reachable : seat.Reachable) :
    (∀ bytes message after, seat.session.receive bytes = (some (.messageOpened message), after) →
      ∃ chat ciphertext payload, seat.session.chat = some chat ∧ bytes.length ≤ seat.session.maxInbound.toNat ∧
        ServerFrame.decode bytes =
          .ok (.messageReceived chat.room ciphertext message.serverTimestamp message.messageId) ∧
        message.RestsOn chat.base ciphertext payload) ∧
    (∀ bytes chat, seat.session.chat = some chat → ∃ after, (seat.session.receive bytes).2.chat = some after ∧
      chat.Advances seat.session.window (seat.session.receive bytes).1 after) ∧
    ∀ first second room ciphertext time time' messageId messageId',
      first.length ≤ seat.session.maxInbound.toNat → second.length ≤ seat.session.maxInbound.toNat →
      ServerFrame.decode first = .ok (.messageReceived room ciphertext time messageId) →
      ServerFrame.decode second = .ok (.messageReceived room ciphertext time' messageId') →
        (seat.session.receive first = (none, seat.session) ∧ seat.session.receive second = (none, seat.session)) ∨
        ∃ message after, seat.session.receive first = (some (.messageOpened message), after) ∧
          seat.session.receive second =
            (some (.messageOpened { message with serverTimestamp := time', messageId := messageId' }), after) := by
  refine ⟨?_, ?_, ?_⟩
  · intro bytes message after hreceive
    have h := seat.session.receives bytes
    rw [hreceive] at h
    exact h.restsOn fun chat hchat => reachable.follows hchat
  · intro bytes chat hchat
    exact (seat.session.receives bytes).advances hchat (reachable.follows hchat)
  · intro first second room ciphertext time time' messageId messageId' hfirst hsecond decoded decoded'
    rw [Session.receive_of_decode hfirst decoded, Session.receive_of_decode hsecond decoded', Session.receiveFrame,
      Session.receiveFrame]
    rcases seat.session.openMessage_restamped room ciphertext time time' messageId messageId' with
      ⟨hopen, hopen'⟩ | ⟨message, after, hopen, hopen'⟩
    · rw [hopen, hopen']
      exact .inl ⟨rfl, rfl⟩
    · rw [hopen, hopen']
      exact .inr ⟨message, after, rfl, rfl⟩

/-- A message that nobody signed is opened, but does not count as verified. -/
theorem opened_justified_unsigned :
    let key : Key := ⟨List.replicate 32 0, rfl⟩
    let payload : Payload := ⟨"eve", "hello", 7, 0, [], [], 0⟩
    let ciphertext := (ChainBase.keyAt ⟨key⟩ payload.chainIndex.toNat).sealWith (List.replicate 24 0) payload.encode
    let start : Seat := ⟨Session.new ⟨{}, { searchAhead := 1 }⟩ ⟨none, key⟩, ⟨fun _ => 0, 0⟩⟩
    let seat := (start.perform 0 (.joinWith ⟨⟨"room"⟩, ⟨key⟩, ⟨key⟩⟩)).2
    seat.Reachable ∧ ∃ message after,
      seat.session.receive (ServerFrame.messageReceived ⟨"room"⟩ ciphertext 9 "id").encode =
        (some (.messageOpened message), after) ∧
      message.content = "hello" ∧ message.verified = false := by
  intro key payload ciphertext start seat
  have reachable : seat.Reachable := ⟨_, _, _, _, .step .start 0 (.joinWith ⟨⟨"room"⟩, ⟨key⟩, ⟨key⟩⟩) trivial⟩
  have hopens : Opens ⟨key⟩ ciphertext 0 payload := opens_sealWith rfl (by constructor <;> decide)
  have hlimit : (ServerFrame.messageReceived ⟨"room"⟩ ciphertext 9 "id").encode.length ≤
      seat.session.maxInbound.toNat := by decide +kernel
  have hchat : seat.session.chat = some _ := rfl
  have hreceive := Session.receive_opens hchat rfl hopens
    (fun j hj hne => absurd (UInt64.toNat_inj.1 (Nat.lt_one_iff.1 hj.2)) hne) hlimit
  rw [if_pos (by decide)] at hreceive
  obtain ⟨chat, ciphertext', payload', hchat', -, hdecode, h⟩ := (opened_justified reachable).1 _ _ _ hreceive
  refine ⟨reachable, _, _, hreceive, rfl, ?_⟩
  have hfits := ServerFrame.fits_of_encode (Nat.lt_of_le_of_lt hlimit seat.session.maxInbound.toNat_lt)
  have hframe := Except.ok.inj ((ServerFrame.decode_encode hfits).symm.trans hdecode)
  obtain ⟨-, rfl, -, -⟩ := ServerFrame.messageReceived.inj hframe
  obtain rfl := Option.some.inj hchat'
  obtain rfl := h.opens.unique hopens
  rw [← Bool.not_eq_true, h.verified]
  rintro ⟨other, hbytes, -⟩
  have hlength := other.length_eq
  rw [hbytes] at hlength
  cases hlength

end SealedChat
