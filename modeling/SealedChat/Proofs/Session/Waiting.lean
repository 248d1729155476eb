import SealedChat.Proofs.Pending
import SealedChat.Proofs.Session.Deeds

/-!
# What deeds do to the messages that wait

The messages that wait are looked at together with what each of them is sent as (`Session.waiting`). A deed adds
the message that it sends, takes out the one that is acknowledged, sweeps all of them, or drops all of them with
the chat; no other deed touches them (`handles_of_perform`).
-/

namespace SealedChat

/-! ### The messages that wait -/

/-- A message that waits, and what it is sent as. -/
structure Waiting where
  message : PendingMessage
  outbound : Outbound

/-- The message behind a sweep that does not give it up. -/
def Waiting.swept (now : Int64) (policy : RetryPolicy) (w : Waiting) : Waiting :=
  { w with message := if w.message.isRetried now policy then w.message.retried now else w.message }

/-- What a message of a chat is sent as. -/
def Chat.outbound (chat : Chat) (message : PendingMessage) : Outbound :=
  ⟨message.messageId, chat.messageFrame message.messageId message.ciphertext⟩

/-- The messages of a chat that wait. -/
def Chat.waiting (chat : Chat) : List Waiting :=
  chat.pending.messages.map fun message => ⟨message, chat.outbound message⟩

/-- The messages of a session that wait; there are none outside of a chat. -/
def Session.waiting (session : Session) : List Waiting :=
  match session.chat with
  | none => []
  | some chat => chat.waiting

namespace Chat

variable (chat : Chat)

lemma waiting_sent (message : PendingMessage) :
    (chat.sent message).waiting = chat.waiting ++ [⟨message, chat.outbound message⟩] := by
  simp [waiting, sent, PendingQueue.push, outbound, messageFrame]

lemma waiting_acknowledge (messageId : String) :
    waiting { chat with pending := (chat.pending.acknowledge messageId).2 } =
      chat.waiting.eraseP (·.outbound.messageId == messageId) := by
  unfold waiting PendingQueue.acknowledge
  rw [List.eraseP_map]
  rfl

lemma exists_waiting_of_find? {messageId : String} (h : (chat.pending.find? messageId).isSome = true) :
    ∃ w ∈ chat.waiting, w.outbound.messageId = messageId := by
  obtain ⟨message, hmessage⟩ := Option.isSome_iff_exists.1 h
  unfold PendingQueue.find? at hmessage
  have hid := List.find?_some hmessage
  exact ⟨_, List.mem_map_of_mem (List.mem_of_find?_eq_some hmessage), eq_of_beq hid⟩

section Sweep

variable (now : Int64) (policy : RetryPolicy)

lemma outbound_retried (message : PendingMessage) :
    chat.outbound (if message.isRetried now policy then message.retried now else message) = chat.outbound message := by
  split <;> rfl

lemma waiting_sweep : waiting { chat with pending := (chat.pending.sweep now policy).2 } =
    (chat.waiting.filter fun w => !w.message.isAbandoned now policy).map (Waiting.swept now policy) := by
  unfold waiting
  rw [PendingQueue.sweep_eq]
  simp only [List.filter_map, List.map_map]
  refine List.map_congr_left ?_
  intro message _
  exact congrArg (Waiting.mk _) (chat.outbound_retried now policy message)

lemma resend_sweep : (chat.pending.sweep now policy).1.resend.map chat.outbound =
    (chat.waiting.filter fun w => w.message.isRetried now policy).map (·.outbound) := by
  unfold waiting
  rw [PendingQueue.sweep_eq]
  simp only [List.filter_map, List.map_map]
  rfl

lemma abandoned_sweep : (chat.pending.sweep now policy).1.abandoned.map (·.messageId) =
    (chat.waiting.filter fun w => w.message.isAbandoned now policy).map (·.outbound.messageId) := by
  unfold waiting
  rw [PendingQueue.sweep_eq]
  simp only [List.filter_map, List.map_map]
  rfl

end Sweep

end Chat

/-! ### What one deed does -/

/-- The id of the message that was sent, if one was. -/
def Deed.sentId? (deed : Deed) : Option String :=
  match deed.reply with
  | .sent outbound => some outbound.messageId
  | _ => none

/-- What was sent again. -/
def Deed.resent (deed : Deed) : List Outbound :=
  match deed.reply with
  | .swept sweep => sweep.resend
  | _ => []

/-- The ids of the messages that were given up. -/
def Deed.abandoned (deed : Deed) : List String :=
  match deed.reply with
  | .swept sweep => sweep.abandoned
  | _ => []

/-- The deed tells that a message was acknowledged. -/
def Deed.Acknowledges (deed : Deed) (messageId : String) : Prop := deed.reply = .event (some (.messageAck messageId))

/-- A frame that can be looked at and acknowledges a message gives the event of that, or none. -/
def Deed.Answers (limit : Nat) (messageId : String) (deed : Deed) : Prop :=
  ∀ frame, deed.operation = .receive frame → frame.length ≤ limit →
    ServerFrame.decode frame = .ok (.messageAck messageId) →
      deed.reply = .event none ∨ deed.Acknowledges messageId

/-- **What a deed does to the messages that wait.** -/
inductive Handles (policy : RetryPolicy) (deed : Deed) (waiting : List Waiting) : List Waiting → Prop
  | sent {outbound : Outbound} {message : PendingMessage} (reply : deed.reply = .sent outbound)
    (lastAttempt : message.lastAttempt = deed.now) (retries : message.retries = 0) :
    Handles policy deed waiting (waiting ++ [⟨message, outbound⟩])
  | acknowledged {messageId : String} (reply : deed.Acknowledges messageId)
    (found : ∃ w ∈ waiting, w.outbound.messageId = messageId) :
    Handles policy deed waiting (waiting.eraseP (·.outbound.messageId == messageId))
  | swept {sweep : RetrySweep} (reply : deed.reply = .swept sweep)
    (resend : sweep.resend = (waiting.filter fun w => w.message.isRetried deed.now policy).map (·.outbound))
    (abandoned : sweep.abandoned =
      (waiting.filter fun w => w.message.isAbandoned deed.now policy).map (·.outbound.messageId)) :
    Handles policy deed waiting
      ((waiting.filter fun w => !w.message.isAbandoned deed.now policy).map (Waiting.swept deed.now policy))
  | left (left : deed.Left) : Handles policy deed waiting []
  | kept (unsent : deed.sentId? = none) (unresent : deed.resent = []) (unabandoned : deed.abandoned = [])
    (unacknowledged : ∀ messageId, ¬ deed.Acknowledges messageId) (stays : ¬ deed.Left) :
    Handles policy deed waiting waiting

section Handles

variable {seat next : Seat} {now : Int64} {operation : Operation} {policy : RetryPolicy}

lemma Handles.refused {waiting : List Waiting} {fault : SessionFault} :
    Handles policy ⟨now, operation, .refused fault⟩ waiting waiting := by
  refine .kept rfl rfl rfl ?_ ?_
  · intro messageId h
    cases h
  · rintro ⟨-, _, h⟩
    cases h

lemma Session.waiting_of_chat {session : Session} {chat : Chat} (h : session.chat = some chat) :
    session.waiting = chat.waiting := by
  unfold waiting
  rw [h]

lemma Session.waiting_of_none {session : Session} (h : session.chat = none) : session.waiting = [] := by
  unfold waiting
  rw [h]

lemma handles_of_enters {reply : Reply} (hperform : seat.perform now operation = (reply, next)) (h : operation.Enters) :
    Handles policy ⟨now, operation, reply⟩ seat.session.waiting next.session.waiting := by
  have hreply : (∃ fault, reply = .refused fault ∧ next = seat) ∨
      ∃ bytes, reply = .frame bytes ∧ ∃ secrets kind, next.session.chat = some (Chat.start secrets kind) := by
    have step := seat.step_perform now operation
    rw [hperform] at step
    cases step with
    | refused fault => exact .inl ⟨fault, rfl, rfl⟩
    | entered hsession =>
      obtain ⟨secrets, kind, rfl⟩ := hsession
      exact .inr ⟨_, rfl, secrets, kind, rfl⟩
    | received | swept | left | sent => exact h.elim
  rcases hreply with ⟨fault, rfl, rfl⟩ | ⟨bytes, rfl, secrets, kind, hchat⟩
  · exact .refused
  · rw [Session.waiting_of_none (Seat.chat_of_entered h hperform), Session.waiting_of_chat hchat]
    refine .kept rfl rfl rfl ?_ ?_
    · intro messageId h
      cases h
    · rintro ⟨rfl, -⟩
      exact h

lemma handles_of_send {content : String} {reply : Reply}
    (hperform : seat.perform now (.send content) = (reply, next)) :
    Handles policy ⟨now, .send content, reply⟩ seat.session.waiting next.session.waiting := by
  have step := seat.step_perform now (.send content)
  rw [hperform] at step
  cases step with
  | refused => exact .refused
  | entered _ enters => exact enters.elim
  | sent hsend =>
    obtain ⟨chat, signature, hchat, -, rfl, rfl⟩ := Seat.send_eq_ok_iff.1 hsend
    rw [Session.waiting_of_chat hchat]
    show Handles _ _ chat.waiting (chat.sent _).waiting
    rw [chat.waiting_sent]
    exact .sent rfl rfl rfl

lemma Session.waiting_recordKind (session : Session) (room : RoomId) (kind : ChatKind) :
    (session.recordKind room kind).waiting = session.waiting := by
  unfold recordKind waiting
  cases session.chat with
  | none => rfl
  | some chat =>
    simp only [Option.map_some]
    split <;> rfl

lemma Handles.kept_event {waiting waiting' : List Waiting} {event : Option Event}
    (hevent : ∀ messageId, event ≠ some (.messageAck messageId)) (hsame : waiting' = waiting) :
    Handles policy ⟨now, operation, .event event⟩ waiting waiting' := by
  subst hsame
  refine .kept rfl rfl rfl ?_ ?_
  · intro messageId h
    exact hevent messageId (Reply.event.inj h)
  · rintro ⟨-, _, h⟩
    cases h

lemma handles_of_receive (session : Session) (frame : Bytes) :
    Handles policy ⟨now, .receive frame, .event (session.receive frame).1⟩ session.waiting
      (session.receive frame).2.waiting := by
  unfold Session.receive
  split
  · exact .kept_event (by intro _ h; cases h) rfl
  split
  · rename_i found _
    cases found with
    | chatCreated room kind | joinedChat room kind =>
      exact .kept_event (by intro _ h; cases h) (session.waiting_recordKind room kind)
    | error | userJoined | userLeft => exact .kept_event (by intro _ h; cases h) rfl
    | messageReceived room ciphertext timestamp messageId =>
      rw [Session.receiveFrame]
      cases hopen : session.openMessage room ciphertext timestamp messageId with
      | none => exact .kept_event (by intro _ h; cases h) rfl
      | some opened =>
        obtain ⟨chat, hchat, rfl⟩ := Session.openMessage_eq_some hopen
        rw [Session.openMessage_eq hchat] at hopen
        obtain ⟨hit, -, rfl⟩ := Option.map_eq_some_iff.1 hopen
        refine .kept_event (by intro _ h; cases h) ?_
        rw [Session.waiting_of_chat hchat]
        rfl
    | messageAck messageId =>
      rw [Session.receiveFrame]
      cases hack : session.acknowledge messageId with
      | none => exact .kept_event (by intro _ h; cases h) rfl
      | some session' =>
        obtain ⟨chat, hchat, hfound, rfl⟩ := Session.acknowledge_eq_some hack
        rw [Session.waiting_of_chat hchat]
        show Handles _ _ chat.waiting (Chat.waiting { chat with pending := (chat.pending.acknowledge messageId).2 })
        rw [chat.waiting_acknowledge]
        exact .acknowledged rfl (chat.exists_waiting_of_find? hfound)
  · exact .kept_event (by intro _ h; cases h) rfl

lemma Session.retryAt_swept (session : Session) (now : Int64) :
    (session.retryAt now).1.resend =
        (session.waiting.filter fun w => w.message.isRetried now session.retry).map (·.outbound) ∧
      (session.retryAt now).1.abandoned =
        (session.waiting.filter fun w => w.message.isAbandoned now session.retry).map (·.outbound.messageId) ∧
      (session.retryAt now).2.waiting =
        (session.waiting.filter fun w => !w.message.isAbandoned now session.retry).map
          (Waiting.swept now session.retry) := by
  unfold retryAt
  cases hchat : session.chat with
  | none =>
    simp only
    rw [waiting_of_none hchat]
    exact ⟨rfl, rfl, rfl⟩
  | some chat =>
    simp only
    rw [waiting_of_chat hchat]
    exact ⟨chat.resend_sweep now session.retry, chat.abandoned_sweep now session.retry,
      chat.waiting_sweep now session.retry⟩

/-- **Every operation that is performed handles the messages that wait.** -/
theorem handles_of_perform {deed : Deed} (hperform : seat.perform deed.now deed.operation = (deed.reply, next)) :
    Handles seat.session.retry deed seat.session.waiting next.session.waiting := by
  obtain ⟨now, operation, reply⟩ := deed
  simp only at hperform
  cases operation with
  | create code kind => exact handles_of_enters hperform trivial
  | createWith secrets kind => exact handles_of_enters hperform trivial
  | join code => exact handles_of_enters hperform trivial
  | joinWith secrets => exact handles_of_enters hperform trivial
  | send content => exact handles_of_send hperform
  | receive frame =>
    obtain ⟨rfl, rfl⟩ := Prod.mk.inj hperform
    exact handles_of_receive seat.session frame
  | retry =>
    obtain ⟨rfl, rfl⟩ := Prod.mk.inj hperform
    obtain ⟨hresend, habandoned, hwaiting⟩ := seat.session.retryAt_swept now
    show Handles _ _ _ (seat.session.retryAt now).2.waiting
    rw [hwaiting]
    exact .swept rfl hresend habandoned
  | leave =>
    have step := seat.step_perform now .leave
    rw [hperform] at step
    cases step with
    | refused => exact .refused
    | entered _ enters => exact enters.elim
    | left => exact .left ⟨rfl, _, rfl⟩

lemma answers_of_perform {deed : Deed} (hperform : seat.perform deed.now deed.operation = (deed.reply, next))
    (messageId : String) : deed.Answers seat.session.maxInbound.toNat messageId := by
  intro frame hoperation hlength hdecode
  rw [hoperation, Seat.perform] at hperform
  have hreply : deed.reply = .event (seat.session.receive frame).1 := (Prod.mk.inj hperform).1.symm
  rw [Session.receive, if_neg (Nat.not_lt.2 hlength), hdecode] at hreply
  simp only [Session.receiveFrame] at hreply
  cases hack : seat.session.acknowledge messageId with
  | none =>
    rw [hack] at hreply
    exact .inl hreply
  | some session =>
    rw [hack] at hreply
    exact .inr hreply

end Handles

end SealedChat
