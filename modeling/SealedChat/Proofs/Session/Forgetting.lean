import SealedChat.Proofs.Session.Deeds

/-!
# Leaving a chat leaves nothing behind

What a session does depends on the session, on the time and on the random bytes to come, not on those that were drawn
before (`Seat.Alike.performAll`). Who has left a chat is outside of any chat as a new session is, so that whatever is
done afterwards comes to what it would come to with a new session (`leave_forgets`).
-/

namespace SealedChat

/-! ### Random bytes to come -/

/-- Two streams that give the same bytes from now on. -/
def Entropy.Alike (entropy other : Entropy) : Prop :=
  ∀ i, entropy.byte (entropy.drawn + i) = other.byte (other.drawn + i)

namespace Entropy.Alike

variable {entropy other : Entropy}

lemma peek_eq (h : entropy.Alike other) (n : Nat) : entropy.peek n = other.peek n := by
  unfold peek
  exact List.map_congr_left fun i _ => h i

lemma skip (h : entropy.Alike other) (n : Nat) : (entropy.skip n).Alike (other.skip n) := by
  intro i
  have hi := h (n + i)
  rw [← Nat.add_assoc, ← Nat.add_assoc] at hi
  exact hi

lemma encrypt (h : entropy.Alike other) (key : MessageKey) (plaintext : Bytes) :
    (key.encrypt plaintext entropy).1 = (key.encrypt plaintext other).1 ∧
      (key.encrypt plaintext entropy).2.Alike (key.encrypt plaintext other).2 := by
  unfold MessageKey.encrypt
  rw [h.peek_eq]
  exact ⟨rfl, h.skip _⟩

lemma messageId (h : entropy.Alike other) :
    (MessageId.generate entropy).1 = (MessageId.generate other).1 ∧
      (MessageId.generate entropy).2.Alike (MessageId.generate other).2 := by
  unfold MessageId.generate
  rw [h.peek_eq]
  exact ⟨rfl, h.skip _⟩

end Entropy.Alike

/-! ### Seats that cannot be told apart -/

namespace Seat

/-- Two seats with the same session and the same random bytes to come. -/
structure Alike (seat other : Seat) : Prop where
  session : seat.session = other.session
  entropy : seat.entropy.Alike other.entropy

/-- Results that cannot be told apart: they give the same, or are refused for the same reason. -/
inductive SameResult {α : Type} : EStateM.Result SessionFault Seat α → EStateM.Result SessionFault Seat α → Prop
  | ok {a : α} {next next' : Seat} (h : next.Alike next') : SameResult (.ok a next) (.ok a next')
  | error {fault : SessionFault} {next next' : Seat} (h : next.Alike next') :
    SameResult (.error fault next) (.error fault next')

namespace Action

variable {α β : Type}

/-- An action that comes to the same at seats that cannot be told apart. -/
def Steady (action : Action α) : Prop :=
  ∀ seat other : Seat, seat.Alike other → SameResult (action.run seat) (action.run other)

lemma Steady.bind {action : Action α} {rest : α → Action β} (first : action.Steady) (behind : ∀ a, (rest a).Steady) :
    (action >>= rest).Steady := by
  intro seat other alike
  rw [EStateM.run_bind, EStateM.run_bind]
  have same := first seat other alike
  generalize action.run seat = result at same ⊢
  generalize action.run other = result' at same ⊢
  cases same with
  | ok h => exact behind _ _ _ h
  | error h => exact .error h

lemma steady_pure (a : α) : (pure a : Action α).Steady := fun _ _ alike => .ok alike

lemma steady_ask (question : Session → Except SessionFault α) : (ask question).Steady := by
  intro seat other alike
  rw [run_ask, run_ask, alike.session]
  cases question other.session with
  | ok answer => exact .ok alike
  | error fault => exact .error alike

lemma steady_look : look.Steady := by
  rintro ⟨session, entropy⟩ ⟨_, other⟩ ⟨rfl, h⟩
  exact .ok ⟨rfl, h⟩

lemma steady_change (f : Session → Session) : (change f).Steady := by
  rintro ⟨session, entropy⟩ ⟨_, other⟩ ⟨rfl, h⟩
  exact .ok ⟨rfl, h⟩

/-- What is drawn is the same if the bytes to come are. -/
lemma steady_draw {take : Entropy → α × Entropy} (h : ∀ {entropy other : Entropy}, entropy.Alike other →
    (take entropy).1 = (take other).1 ∧ (take entropy).2.Alike (take other).2) : (draw take).Steady := by
  rintro ⟨session, entropy⟩ ⟨_, other⟩ ⟨rfl, alike⟩
  obtain ⟨hdrawn, hnext⟩ := h alike
  show SameResult (.ok (take entropy).1 ⟨session, (take entropy).2⟩) (.ok (take other).1 ⟨session, (take other).2⟩)
  rw [hdrawn]
  exact .ok ⟨rfl, hnext⟩

lemma steady_enter (secrets : Secrets) (kind : Option ChatKind) (request : String → ClientFrame) :
    (enter secrets kind request).Steady :=
  (steady_ask _).bind fun _ => steady_look.bind fun _ => (steady_change _).bind fun _ => steady_pure _

lemma steady_withCode (code : String) {rest : Secrets → Action Bytes} (h : ∀ secrets, (rest secrets).Steady) :
    (withCode code rest).Steady :=
  (steady_ask _).bind h

lemma steady_leave : leave.Steady := by
  have htake : takeChat.Steady := steady_look.bind fun _ => (steady_change _).bind fun _ => steady_ask _
  exact (steady_ask _).bind fun _ => htake.bind fun _ => steady_pure _

lemma steady_send (now : Int64) (content : String) : (send now content).Steady := by
  refine (steady_ask _).bind fun chat => (steady_ask _).bind fun signature => steady_look.bind fun session => ?_
  refine (steady_draw fun h => h.encrypt _ _).bind fun ciphertext => ?_
  refine (steady_draw (·.messageId)).bind fun messageId => ?_
  exact (steady_change _).bind fun _ => (steady_change _).bind fun _ => (steady_change _).bind fun _ => steady_pure _

end Action

namespace Alike

variable {seat other : Seat}

lemma outcome {α : Type} {give : α → Reply} {action : Action α} (h : seat.Alike other) (steady : action.Steady) :
    (Seat.outcome give (action.run seat)).1 = (Seat.outcome give (action.run other)).1 ∧
      (Seat.outcome give (action.run seat)).2.Alike (Seat.outcome give (action.run other)).2 := by
  have same := steady seat other h
  generalize action.run seat = result at same ⊢
  generalize action.run other = result' at same ⊢
  cases same with
  | ok hnext | error hnext => exact ⟨rfl, hnext⟩

/-- **One operation gives back the same**, and leads to seats that cannot be told apart either. -/
theorem perform (h : seat.Alike other) (now : Int64) (operation : Operation) :
    (seat.perform now operation).1 = (other.perform now operation).1 ∧
      (seat.perform now operation).2.Alike (other.perform now operation).2 := by
  obtain ⟨session, entropy⟩ := seat
  obtain ⟨session', other⟩ := other
  obtain rfl : session = session' := h.session
  cases operation with
  | create code kind => exact h.outcome (Action.steady_withCode code fun _ => Action.steady_enter _ _ _)
  | createWith secrets kind => exact h.outcome (Action.steady_enter _ _ _)
  | join code => exact h.outcome (Action.steady_withCode code fun _ => Action.steady_enter _ _ _)
  | joinWith secrets => exact h.outcome (Action.steady_enter _ _ _)
  | send content => exact h.outcome (Action.steady_send now content)
  | receive | retry => exact ⟨rfl, rfl, h.entropy⟩
  | leave => exact h.outcome Action.steady_leave

/-- **Whatever is done one after the other gives back the same.** -/
theorem performAll (h : seat.Alike other) (operations : List (Int64 × Operation)) :
    (seat.performAll operations).1 = (other.performAll operations).1 ∧
      (seat.performAll operations).2.Alike (other.performAll operations).2 := by
  induction operations generalizing seat other with
  | nil => exact ⟨rfl, h⟩
  | cons first operations ih =>
    obtain ⟨now, operation⟩ := first
    obtain ⟨hreply, hnext⟩ := h.perform now operation
    obtain ⟨hreplies, hlast⟩ := ih hnext
    exact ⟨congrArg₂ List.cons hreply hreplies, hlast⟩

end Alike

end Seat

/-! ### Outside of any chat -/

lemma Session.Adjusts.eq_of_idle {session after : Session} (h : session.Adjusts after) (idle : session.chat = none) :
    after = session := by
  cases h with
  | same => rfl
  | change hchat =>
    rw [idle] at hchat
    cases hchat

namespace Seat

variable {seat next last : Seat} {now : Int64} {operation : Operation} {reply : Reply} {deeds : List Deed}

/-- Who is outside of any chat stays there until a chat is entered. -/
lemma idle_of_perform (idle : seat.session.chat = none) (hperform : seat.perform now operation = (reply, next))
    (out : ¬ Deed.Entered ⟨now, operation, reply⟩) : next.session.chat = none := by
  have step := seat.step_perform now operation
  rw [hperform] at step
  cases step with
  | refused => exact idle
  | received h | swept h => rwa [h.eq_of_idle idle]
  | left => rfl
  | entered _ enters => exact absurd ⟨enters, _, rfl⟩ out
  | sent h =>
    obtain ⟨chat, -, hchat, -⟩ := send_eq_ok_iff.1 h
    rw [idle] at hchat
    cases hchat

/-- Outside of any chat a sweep finds nothing. -/
lemma sweep_of_idle (idle : seat.session.chat = none) {sweep : RetrySweep}
    (hperform : seat.perform now operation = (.swept sweep, next)) : sweep = {} := by
  have step := seat.step_perform now operation
  rw [hperform] at step
  cases step with
  | swept =>
    rw [perform, Session.retryAt, idle] at hperform
    exact (Reply.swept.inj (Prod.mk.inj hperform).1).symm

lemma sweeps_of_leads (h : seat.Leads deeds last) (idle : seat.session.chat = none)
    (out : ∀ deed ∈ deeds, ¬ deed.Entered) {deed : Deed} (hdeed : deed ∈ deeds) {sweep : RetrySweep}
    (hreply : deed.reply = .swept sweep) : sweep = {} := by
  induction deeds generalizing seat with
  | nil => cases hdeed
  | cons first deeds ih =>
    obtain ⟨next, hperform, hnext⟩ := leads_cons.1 h
    obtain ⟨hfirst, hrest⟩ := List.forall_mem_cons.1 out
    rcases List.mem_cons.1 hdeed with rfl | hdeed
    · rw [hreply] at hperform
      exact sweep_of_idle idle hperform
    · exact ih hnext (idle_of_perform idle hperform hfirst) hrest hdeed

end Seat

/-! ### The chat that is entered -/

/-- An operation that enters a chat with the given secrets and names its kind, or does not know it. -/
def Operation.EntersWith (secrets : Secrets) (kind : Option ChatKind) : Operation → Prop
  | .create code named => Secrets.derive code = .ok secrets ∧ kind = some named
  | .createWith given named => given = secrets ∧ kind = some named
  | .join code => Secrets.derive code = .ok secrets ∧ kind = none
  | .joinWith given => given = secrets ∧ kind = none
  | _ => False

/-- A chat that is entered is at its start. -/
lemma Seat.chat_start_of_entered {seat next : Seat} {deed : Deed}
    (hperform : seat.perform deed.now deed.operation = (deed.reply, next)) (entered : deed.Entered) :
    ∃ secrets kind, deed.operation.EntersWith secrets kind ∧ next.session.chat = some (Chat.start secrets kind) := by
  obtain ⟨now, operation, reply⟩ := deed
  obtain ⟨enters, bytes, hreply⟩ := entered
  obtain rfl : reply = .frame bytes := hreply
  cases operation with
  | create code kind =>
    obtain ⟨secrets, hsecrets, henter⟩ := Action.withCode_eq_ok_iff.1 (outcome_eq_frame hperform)
    obtain ⟨-, -, rfl⟩ := Action.enter_eq_ok_iff.1 henter
    exact ⟨secrets, some kind, ⟨(Session.secretsFor_eq_ok_iff.1 hsecrets).2, rfl⟩, rfl⟩
  | createWith secrets kind =>
    obtain ⟨-, -, rfl⟩ := Action.enter_eq_ok_iff.1 (outcome_eq_frame hperform)
    exact ⟨secrets, some kind, ⟨rfl, rfl⟩, rfl⟩
  | join code =>
    obtain ⟨secrets, hsecrets, henter⟩ := Action.withCode_eq_ok_iff.1 (outcome_eq_frame hperform)
    obtain ⟨-, -, rfl⟩ := Action.enter_eq_ok_iff.1 henter
    exact ⟨secrets, none, ⟨(Session.secretsFor_eq_ok_iff.1 hsecrets).2, rfl⟩, rfl⟩
  | joinWith secrets =>
    obtain ⟨-, -, rfl⟩ := Action.enter_eq_ok_iff.1 (outcome_eq_frame hperform)
    exact ⟨secrets, none, ⟨rfl, rfl⟩, rfl⟩
  | send | receive | retry | leave => exact enters.elim

/-! ### After a chat was left -/

/-- Who leaves a chat has a new session again. -/
lemma Seat.session_of_left {settings : Settings} {identity : Identity} {entropy : Entropy} {history : List Deed}
    {deed : Deed} {left : Seat}
    (run : (Seat.mk (Session.new settings identity) entropy).Leads (history ++ [deed]) left) (leaves : deed.Left) :
    left.session = Session.new settings identity := by
  obtain ⟨mid, -, hperform⟩ := leads_concat.1 run
  obtain ⟨hoperation, bytes, hreply⟩ := leaves
  have idle : left.session.chat = none := by
    rw [hoperation, hreply] at hperform
    obtain ⟨chat, -, -, hleft⟩ := Action.leave_eq_ok_iff.1 (outcome_eq_frame hperform)
    rw [hleft]
  rw [session_of_leads run, idle]
  rfl

/-- **Leaving a chat leaves nothing behind.** Whatever was done before, from then on the session gives back what a new
session of the same participant gives back, if the random bytes to come and the times are the same. Until a chat is
entered again no sweep sends anything again or gives it up, and a chat that is entered is at its start. -/
theorem leave_forgets {settings : Settings} {identity : Identity} {entropy : Entropy} {history : List Deed}
    {deed : Deed} {left : Seat} (run : (Seat.mk (Session.new settings identity) entropy).Leads (history ++ [deed]) left)
    (leaves : deed.Left) {fresh : Seat} (new : fresh.session = Session.new settings identity)
    (bytes : left.entropy.Alike fresh.entropy) :
    (∀ future, (left.performAll future).1 = (fresh.performAll future).1 ∧
      (left.performAll future).2.session = (fresh.performAll future).2.session) ∧
    (∀ deeds last, left.Leads deeds last → (∀ later ∈ deeds, ¬ later.Entered) →
      ∀ later ∈ deeds, ∀ sweep, later.reply = .swept sweep → sweep = {}) ∧
    ∀ deeds later last, left.Leads (deeds ++ [later]) last → later.Entered →
      ∃ secrets kind, later.operation.EntersWith secrets kind ∧
        last.session.chat = some (Chat.start secrets kind) := by
  have hsession := Seat.session_of_left run leaves
  have alike : left.Alike fresh := ⟨hsession.trans new.symm, bytes⟩
  have idle : left.session.chat = none := by
    rw [hsession]
    rfl
  refine ⟨?_, ?_, ?_⟩
  · intro future
    obtain ⟨hreplies, hlast⟩ := alike.performAll future
    exact ⟨hreplies, hlast.session⟩
  · intro deeds last hleads out later hlater sweep hreply
    exact Seat.sweeps_of_leads hleads idle out hlater hreply
  · intro deeds later last hleads entered
    obtain ⟨mid, -, hperform⟩ := Seat.leads_concat.1 hleads
    exact Seat.chat_start_of_entered hperform entered

/-- A session that left while a message waited, and enters the same room again. -/
theorem leave_forgets_pending :
    let key : Key := ⟨List.replicate 32 0, rfl⟩
    let secrets : Secrets := ⟨⟨"room"⟩, ⟨key⟩, ⟨key⟩⟩
    let start : Seat := ⟨Session.new {} (Identity.ofSeed key), ⟨UInt8.ofNat, 0⟩⟩
    let fresh : Seat := ⟨Session.new {} (Identity.ofSeed key), ⟨fun i => UInt8.ofNat (40 + i), 0⟩⟩
    let past : List (Int64 × Operation) := [(0, .createWith secrets .oneToOne), (7, .send "hello"), (8, .leave)]
    let future : List (Int64 × Operation) := [(9, .joinWith secrets), (99, .retry), (100, .send "again")]
    let left := (start.performAll past).2
    (left.performAll future).1 = (fresh.performAll future).1 := by
  intro key secrets start fresh past future left
  let entered := (start.perform 0 (.createWith secrets .oneToOne)).2
  let sent := entered.perform 7 (.send "hello")
  have run : start.Leads ([⟨0, .createWith secrets .oneToOne, (start.perform 0 (.createWith secrets .oneToOne)).1⟩,
      ⟨7, .send "hello", sent.1⟩] ++ [⟨8, .leave, (sent.2.perform 8 .leave).1⟩]) left := rfl
  have bytes : left.entropy.Alike fresh.entropy := by
    intro i
    show UInt8.ofNat (40 + i) = UInt8.ofNat (40 + (0 + i))
    rw [Nat.zero_add]
  exact ((leave_forgets run ⟨rfl, _, rfl⟩ rfl bytes).1 future).1

end SealedChat
