import Mathlib.Tactic.Lemma
import SealedChat.Session.Operation

/-!
# What comes of actions that may be refused

An action may be refused after some of its steps, and none of them is taken back (`Seat.Action`). Still nothing comes of
what is refused: whatever may be refused is asked first, of a seat that no step has changed yet (`Reads`), and what then
changes the seat is never refused (`Succeeds`). An action in this order is `Atomic`.
-/

namespace SealedChat

/-! ### What a session may refuse -/

namespace Session

section MapError

variable {ε ε' α : Type} {reword : ε → ε'} {result : Except ε α}

lemma mapError_eq_ok_iff {a : α} : result.mapError reword = .ok a ↔ result = .ok a := by
  cases result with
  | ok other =>
    constructor <;> rintro ⟨⟩ <;> rfl
  | error fault =>
    constructor <;> rintro ⟨⟩

lemma mapError_eq_error_iff {fault' : ε'} :
    result.mapError reword = .error fault' ↔ ∃ fault, result = .error fault ∧ reword fault = fault' := by
  cases result with
  | ok a =>
    constructor
    · rintro ⟨⟩
    · rintro ⟨_, ⟨⟩, -⟩
  | error fault =>
    constructor
    · rintro ⟨⟩
      exact ⟨fault, rfl, rfl⟩
    · rintro ⟨_, ⟨⟩, rfl⟩
      rfl

end MapError

variable {session : Session} {chat : Chat} {fault : SessionFault}

lemma currentChat_eq_ok_iff : session.currentChat = .ok chat ↔ session.chat = some chat := by
  unfold currentChat
  cases session.chat <;> simp

lemma isActive_eq_false_iff : session.isActive = false ↔ session.chat = none := by
  rw [isActive, Option.isSome_eq_false_iff, Option.isNone_iff_eq_none]

lemma currentChat_eq_error_iff :
    session.currentChat = .error fault ↔ session.isActive = false ∧ fault = .notInChat := by
  unfold currentChat isActive
  cases session.chat <;> simp [eq_comm]

lemma ensureIdle_eq_ok_iff : session.ensureIdle = .ok () ↔ session.isActive = false := by
  unfold ensureIdle
  cases session.isActive <;> simp

lemma ensureIdle_eq_error_iff :
    session.ensureIdle = .error fault ↔ session.isActive = true ∧ fault = .alreadyInChat := by
  unfold ensureIdle
  cases session.isActive <;> simp [eq_comm]

lemma secretsFor_eq_ok_iff {code : String} {secrets : Secrets} :
    session.secretsFor code = .ok secrets ↔ session.isActive = false ∧ Secrets.derive code = .ok secrets := by
  unfold secretsFor
  cases session.isActive <;> simp [mapError_eq_ok_iff]

lemma sign_eq_ok_iff {message signature : Bytes} :
    session.sign message = .ok signature ↔ session.identity.sign message = .ok signature :=
  mapError_eq_ok_iff

lemma sign_eq_error_iff {message : Bytes} :
    session.sign message = .error fault ↔ session.identity.secret = none ∧ fault = .key .cannotSign := by
  rw [sign, mapError_eq_error_iff]
  unfold Identity.sign
  cases session.identity.secret <;> simp [eq_comm]

end Session

namespace Seat

variable {α β : Type} {seat next : Seat} {fault : SessionFault}

namespace Action

variable {action : Action α} {rest : α → Action β}

/-! ### One action after the other -/

lemma bind_eq_ok_iff {b : β} : (action >>= rest).run seat = .ok b next ↔
    ∃ a mid, action.run seat = .ok a mid ∧ (rest a).run mid = .ok b next := by
  rw [EStateM.run_bind]
  cases action.run seat with
  | ok a mid =>
    constructor
    · intro h
      exact ⟨a, mid, rfl, h⟩
    · rintro ⟨_, _, ⟨⟩, h⟩
      exact h
  | error other mid => simp

lemma bind_eq_error_iff : (action >>= rest).run seat = .error fault next ↔
    action.run seat = .error fault next ∨
      ∃ a mid, action.run seat = .ok a mid ∧ (rest a).run mid = .error fault next := by
  rw [EStateM.run_bind]
  cases action.run seat with
  | ok a mid =>
    constructor
    · intro h
      exact .inr ⟨a, mid, rfl, h⟩
    · rintro (⟨⟨⟩⟩ | ⟨_, _, ⟨⟩, h⟩)
      exact h
  | error other mid => simp

/-! ### Asking -/

section Ask

variable {question : Session → Except SessionFault α}

lemma run_ask : (ask question).run seat =
    match question seat.session with
    | .ok answer => .ok answer seat
    | .error fault => .error fault seat := by
  unfold ask
  rw [EStateM.run_bind, show look.run seat = .ok seat.session seat from rfl]
  dsimp only
  cases question seat.session with
  | ok answer => rfl
  | error fault => rfl

lemma ask_eq_ok_iff {answer : α} :
    (ask question).run seat = .ok answer next ↔ question seat.session = .ok answer ∧ next = seat := by
  rw [run_ask]
  cases question seat.session with
  | ok other => simp [eq_comm]
  | error fault => simp

lemma ask_eq_error_iff :
    (ask question).run seat = .error fault next ↔ question seat.session = .error fault ∧ next = seat := by
  rw [run_ask]
  cases question seat.session with
  | ok answer => simp
  | error other => simp [eq_comm]

end Ask

/-! ### Checked first, then done -/

/-- An action that leaves the seat as it is, be it refused or not. -/
def Reads (action : Action α) : Prop :=
  ∀ seat, (∀ a next, action.run seat = .ok a next → next = seat) ∧
    ∀ fault next, action.run seat = .error fault next → next = seat

/-- An action that is never refused. -/
def Succeeds (action : Action α) : Prop := ∀ seat, ∃ a next, action.run seat = .ok a next

/-- **An action of which nothing comes when it is refused.** -/
def Atomic (action : Action α) : Prop := ∀ seat fault next, action.run seat = .error fault next → next = seat

lemma Succeeds.run_ne_error (h : action.Succeeds) : action.run seat ≠ .error fault next := by
  intro hrefused
  obtain ⟨a, last, hrun⟩ := h seat
  rw [hrun] at hrefused
  cases hrefused

lemma Succeeds.atomic (h : action.Succeeds) : action.Atomic := by
  intro seat fault next hrefused
  exact absurd hrefused h.run_ne_error

/-- What is checked first does no harm. -/
lemma Reads.bind (first : action.Reads) (then_ : ∀ a, (rest a).Atomic) : (action >>= rest).Atomic := by
  intro seat fault next hrefused
  rcases bind_eq_error_iff.1 hrefused with hfirst | ⟨a, mid, hfirst, hrest⟩
  · exact (first seat).2 fault next hfirst
  · obtain rfl := (first seat).1 a mid hfirst
    exact then_ a mid fault next hrest

/-- Behind an action nothing is to be taken back if the rest is never refused. -/
lemma Atomic.bind (first : action.Atomic) (then_ : ∀ a, (rest a).Succeeds) : (action >>= rest).Atomic := by
  intro seat fault next hrefused
  rcases bind_eq_error_iff.1 hrefused with hfirst | ⟨a, mid, -, hrest⟩
  · exact first seat fault next hfirst
  · exact absurd hrest (then_ a).run_ne_error

lemma Succeeds.bind (first : action.Succeeds) (then_ : ∀ a, (rest a).Succeeds) : (action >>= rest).Succeeds := by
  intro seat
  obtain ⟨a, mid, hfirst⟩ := first seat
  obtain ⟨b, next, hrest⟩ := then_ a mid
  exact ⟨b, next, bind_eq_ok_iff.2 ⟨a, mid, hfirst, hrest⟩⟩

lemma reads_ask (question : Session → Except SessionFault α) : (ask question).Reads := by
  intro seat
  constructor
  · intro a next h
    exact (ask_eq_ok_iff.1 h).2
  · intro fault next h
    exact (ask_eq_error_iff.1 h).2

lemma reads_look : look.Reads := by
  intro seat
  constructor
  · rintro _ _ ⟨⟩
    rfl
  · rintro _ _ ⟨⟩

lemma succeeds_look : look.Succeeds := fun seat => ⟨seat.session, seat, rfl⟩

lemma succeeds_pure (a : α) : (pure a : Action α).Succeeds := fun seat => ⟨a, seat, rfl⟩

lemma succeeds_draw (take : Entropy → α × Entropy) : (draw take).Succeeds := fun _ => ⟨_, _, rfl⟩

lemma succeeds_change (f : Session → Session) : (change f).Succeeds := fun _ => ⟨_, _, rfl⟩

/-- The chat is taken before it is looked at. It is missed only if there was none, and then nothing was taken. -/
lemma atomic_takeChat : takeChat.Atomic := by
  rintro ⟨session, entropy⟩ fault next hrefused
  have hask : (ask fun _ => session.currentChat).run ⟨{ session with chat := none }, entropy⟩ = .error fault next :=
    hrefused
  obtain ⟨hmissed, rfl⟩ := ask_eq_error_iff.1 hask
  rw [← Session.isActive_eq_false_iff.1 (Session.currentChat_eq_error_iff.1 hmissed).1]

/-- Where there is a chat, it is taken. -/
lemma run_takeChat {chat : Chat} (hchat : seat.session.chat = some chat) :
    takeChat.run seat = .ok chat { seat with session := { seat.session with chat := none } } :=
  bind_eq_ok_iff.2 ⟨seat.session, seat, rfl, bind_eq_ok_iff.2 ⟨(), _, rfl,
    ask_eq_ok_iff.2 ⟨Session.currentChat_eq_ok_iff.2 hchat, rfl⟩⟩⟩

lemma atomic_enter (secrets : Secrets) (kind : Option ChatKind) (request : String → ClientFrame) :
    (enter secrets kind request).Atomic := by
  refine (reads_ask _).bind fun _ => reads_look.bind fun seat => ?_
  exact ((succeeds_change _).bind fun _ => succeeds_pure _).atomic

lemma atomic_withCode (code : String) {rest : Secrets → Action Bytes} (h : ∀ secrets, (rest secrets).Atomic) :
    (withCode code rest).Atomic :=
  (reads_ask _).bind h

lemma atomic_leave : leave.Atomic :=
  (reads_ask _).bind fun _ => atomic_takeChat.bind fun _ => succeeds_pure _

/-- Once a message is signed, nothing is refused any more. -/
lemma succeeds_sealSigned (now : Int64) (content : String) (chat : Chat) (signature : Bytes) :
    (sealSigned now content chat signature).Succeeds := by
  refine succeeds_look.bind fun seat => (succeeds_draw _).bind fun ciphertext => ?_
  refine (succeeds_draw _).bind fun messageId => (succeeds_change _).bind fun _ => ?_
  exact (succeeds_change _).bind fun _ => (succeeds_change _).bind fun _ => succeeds_pure _

/-- **A message that is not sent takes neither a key nor a random byte**: the chat is looked for and the message is
signed before anything is drawn or moved. -/
theorem atomic_send (now : Int64) (content : String) : (send now content).Atomic :=
  (reads_ask _).bind fun chat => (reads_ask _).bind fun signature =>
    (succeeds_sealSigned now content chat signature).atomic

/-! ### When an action is refused -/

/-- The action is refused at a seat. -/
def RefusedAt (action : Action α) (seat : Seat) (fault : SessionFault) : Prop :=
  ∃ next, action.run seat = .error fault next

lemma Succeeds.not_refusedAt (h : action.Succeeds) : ¬ action.RefusedAt seat fault := by
  rintro ⟨next, hrefused⟩
  exact h.run_ne_error hrefused

/-- What is asked first is refused first. -/
lemma ask_bind_refusedAt_iff {question : Session → Except SessionFault α} :
    (ask question >>= rest).RefusedAt seat fault ↔ question seat.session = .error fault ∨
      ∃ answer, question seat.session = .ok answer ∧ (rest answer).RefusedAt seat fault := by
  constructor
  · rintro ⟨next, hrefused⟩
    rcases bind_eq_error_iff.1 hrefused with hask | ⟨answer, mid, hask, hrest⟩
    · exact .inl (ask_eq_error_iff.1 hask).1
    · obtain ⟨hanswer, rfl⟩ := ask_eq_ok_iff.1 hask
      exact .inr ⟨answer, hanswer, next, hrest⟩
  · rintro (hask | ⟨answer, hanswer, next, hrest⟩)
    · exact ⟨seat, bind_eq_error_iff.2 (.inl (ask_eq_error_iff.2 ⟨hask, rfl⟩))⟩
    · exact ⟨next, bind_eq_error_iff.2 (.inr ⟨answer, seat, ask_eq_ok_iff.2 ⟨hanswer, rfl⟩, hrest⟩)⟩

/-- If what is done behind a question is never refused, it is the question that is refused. -/
lemma ask_bind_refusedAt_iff_of_not {question : Session → Except SessionFault α}
    (h : ∀ answer, question seat.session = .ok answer → ¬ (rest answer).RefusedAt seat fault) :
    (ask question >>= rest).RefusedAt seat fault ↔ question seat.session = .error fault := by
  rw [ask_bind_refusedAt_iff]
  constructor
  · rintro (hask | ⟨answer, hanswer, hrest⟩)
    · exact hask
    · exact absurd hrest (h answer hanswer)
  · exact .inl

lemma enter_refusedAt_iff {secrets : Secrets} {kind : Option ChatKind} {request : String → ClientFrame} :
    (enter secrets kind request).RefusedAt seat fault ↔ seat.session.isActive = true ∧ fault = .alreadyInChat := by
  rw [← Session.ensureIdle_eq_error_iff]
  refine ask_bind_refusedAt_iff_of_not fun _ _ => ?_
  exact ((succeeds_look.bind fun _ => (succeeds_change _).bind fun _ => succeeds_pure _)).not_refusedAt

lemma withCode_refusedAt_iff {code : String} {next : Secrets → Action Bytes}
    (h : ∀ secrets, (next secrets).RefusedAt seat fault → seat.session.isActive = true) :
    (withCode code next).RefusedAt seat fault ↔ seat.session.secretsFor code = .error fault := by
  refine ask_bind_refusedAt_iff_of_not fun secrets hsecrets hrefused => ?_
  have idle := (Session.secretsFor_eq_ok_iff.1 hsecrets).1
  rw [h secrets hrefused] at idle
  cases idle

lemma leave_refusedAt_iff :
    leave.RefusedAt seat fault ↔ seat.session.isActive = false ∧ fault = .notInChat := by
  rw [← Session.currentChat_eq_error_iff]
  refine ask_bind_refusedAt_iff_of_not fun chat hchat => ?_
  rintro ⟨next, hrefused⟩
  rcases bind_eq_error_iff.1 hrefused with htake | ⟨_, _, -, ⟨⟩⟩
  rw [run_takeChat (Session.currentChat_eq_ok_iff.1 hchat)] at htake
  cases htake

/-- Whether there is a chat is asked before the message is signed, and nothing is asked afterwards. -/
lemma send_refusedAt_iff {now : Int64} {content : String} : (send now content).RefusedAt seat fault ↔
    (seat.session.isActive = false ∧ fault = .notInChat) ∨
      (seat.session.isActive = true ∧ seat.session.identity.secret = none ∧ fault = .key .cannotSign) := by
  refine ask_bind_refusedAt_iff.trans (or_congr Session.currentChat_eq_error_iff ?_)
  have hsign (chat : Chat) :
      (ask (·.sign (signingMessage content chat.sequence chat.chain.index)) >>= sealSigned now content chat).RefusedAt
        seat fault ↔ seat.session.identity.secret = none ∧ fault = .key .cannotSign := by
    rw [← Session.sign_eq_error_iff]
    exact ask_bind_refusedAt_iff_of_not fun signature _ =>
      (succeeds_sealSigned now content chat signature).not_refusedAt
  constructor
  · rintro ⟨chat, hchat, hrefused⟩
    refine ⟨?_, (hsign chat).1 hrefused⟩
    rw [Session.isActive, Session.currentChat_eq_ok_iff.1 hchat, Option.isSome_some]
  · rintro ⟨active, hrefused⟩
    obtain ⟨chat, hchat⟩ := Option.isSome_iff_exists.1 active
    exact ⟨chat, Session.currentChat_eq_ok_iff.2 hchat, (hsign chat).2 hrefused⟩

/-! ### What an action gives -/

lemma ask_bind_eq_ok_iff {question : Session → Except SessionFault α} {b : β} :
    (ask question >>= rest).run seat = .ok b next ↔
      ∃ answer, question seat.session = .ok answer ∧ (rest answer).run seat = .ok b next := by
  rw [bind_eq_ok_iff]
  constructor
  · rintro ⟨answer, mid, hask, hrest⟩
    obtain ⟨hanswer, rfl⟩ := ask_eq_ok_iff.1 hask
    exact ⟨answer, hanswer, hrest⟩
  · rintro ⟨answer, hanswer, hrest⟩
    exact ⟨answer, seat, ask_eq_ok_iff.2 ⟨hanswer, rfl⟩, hrest⟩

lemma enter_eq_ok_iff {secrets : Secrets} {kind : Option ChatKind} {request : String → ClientFrame} {bytes : Bytes} :
    (enter secrets kind request).run seat = .ok bytes next ↔
      seat.session.isActive = false ∧ bytes = (request seat.session.username).encode ∧
        next = { seat with session := { seat.session with chat := some (Chat.start secrets kind) } } := by
  refine ask_bind_eq_ok_iff.trans ?_
  constructor
  · rintro ⟨_, idle, hrest⟩
    obtain ⟨rfl, rfl⟩ := EStateM.Result.ok.inj hrest
    exact ⟨Session.ensureIdle_eq_ok_iff.1 idle, rfl, rfl⟩
  · rintro ⟨idle, rfl, rfl⟩
    exact ⟨(), Session.ensureIdle_eq_ok_iff.2 idle, rfl⟩

lemma withCode_eq_ok_iff {code : String} {enter : Secrets → Action Bytes} {bytes : Bytes} :
    (withCode code enter).run seat = .ok bytes next ↔
      ∃ secrets, seat.session.secretsFor code = .ok secrets ∧ (enter secrets).run seat = .ok bytes next :=
  ask_bind_eq_ok_iff

lemma leave_eq_ok_iff {bytes : Bytes} : leave.run seat = .ok bytes next ↔
    ∃ chat, seat.session.chat = some chat ∧ bytes = (ClientFrame.leaveChat chat.room).encode ∧
      next = { seat with session := { seat.session with chat := none } } := by
  refine ask_bind_eq_ok_iff.trans (exists_congr fun chat => ?_)
  rw [Session.currentChat_eq_ok_iff, and_congr_right_iff]
  intro hchat
  constructor
  · intro hrest
    obtain ⟨_, last, htake, hpure⟩ := bind_eq_ok_iff.1 hrest
    rw [run_takeChat hchat] at htake
    obtain ⟨-, rfl⟩ := EStateM.Result.ok.inj htake
    obtain ⟨rfl, rfl⟩ := EStateM.Result.ok.inj hpure
    exact ⟨rfl, rfl⟩
  · rintro ⟨rfl, rfl⟩
    exact bind_eq_ok_iff.2 ⟨chat, _, run_takeChat hchat, rfl⟩

/-- What is sent was signed and then sealed. -/
lemma send_eq_ok_iff_sealSigned {now : Int64} {content : String} {outbound : Outbound} :
    (send now content).run seat = .ok outbound next ↔
      ∃ chat signature, seat.session.chat = some chat ∧
        seat.session.identity.sign (signingMessage content chat.sequence chat.chain.index) = .ok signature ∧
        (sealSigned now content chat signature).run seat = .ok outbound next := by
  refine ask_bind_eq_ok_iff.trans (exists_congr fun chat => ?_)
  rw [Session.currentChat_eq_ok_iff, exists_and_left, and_congr_right_iff]
  intro _
  refine ask_bind_eq_ok_iff.trans (exists_congr fun signature => ?_)
  rw [Session.sign_eq_ok_iff]

end Action

/-! ### Operations -/

section Outcome

variable {give : α → Reply} {action : Action α}

/-- What gives no refusal is refused where the action is. -/
lemma outcome_refused_iff (gives : ∀ a, give a ≠ .refused fault) :
    (outcome give (action.run seat)).1 = .refused fault ↔ action.RefusedAt seat fault := by
  unfold Action.RefusedAt
  cases action.run seat with
  | ok a next =>
    refine iff_of_false (gives a) ?_
    rintro ⟨_, ⟨⟩⟩
  | error other next =>
    constructor
    · intro h
      obtain rfl := Reply.refused.inj h
      exact ⟨next, rfl⟩
    · rintro ⟨_, ⟨⟩⟩
      rfl

lemma outcome_eq_frame {result : EStateM.Result SessionFault Seat Bytes} {bytes : Bytes}
    (h : outcome .frame result = (.frame bytes, next)) : result = .ok bytes next := by
  cases result with
  | ok other last =>
    obtain ⟨hreply, rfl⟩ := Prod.mk.inj h
    obtain rfl := Reply.frame.inj hreply
    rfl
  | error other last => cases (Prod.mk.inj h).1

end Outcome

end Seat

end SealedChat
