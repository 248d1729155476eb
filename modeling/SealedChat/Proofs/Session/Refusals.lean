import SealedChat.Proofs.Codes
import SealedChat.Proofs.Session.Steps

/-!
# What is refused

A session does not enter a chat while it is in one, nor with a text that is no code; outside of a chat it neither
sends nor leaves, and it does not send what it cannot sign. There is no other reason to refuse anything
(`Session.Refuses`). What is refused leaves the session and the random bytes as they were (`refused_exact`).
-/

namespace SealedChat

/-! ### Why an operation is refused -/

/-- The code that an operation would enter a chat with. -/
def Operation.code? : Operation → Option String
  | .create code _ | .join code => some code
  | _ => none

/-- An operation that is about the chat that one is in. -/
def Operation.NeedsChat : Operation → Prop
  | .send _ | .leave => True
  | _ => False

lemma Operation.enters_of_code {operation : Operation} {code : String} (names : operation.code? = some code) :
    operation.Enters := by
  cases operation with
  | create | join => trivial
  | createWith | joinWith | send | receive | retry | leave => cases names

lemma Operation.not_needsChat {operation : Operation} (enters : operation.Enters) : ¬ operation.NeedsChat := by
  cases operation with
  | create | createWith | join | joinWith => exact id
  | send | receive | retry | leave => exact enters.elim

/-- **Why a session refuses an operation.** Whether there is a chat is asked first. -/
inductive Session.Refuses (session : Session) : Operation → SessionFault → Prop
  | inChat {operation : Operation} (enters : operation.Enters) (active : session.isActive = true) :
    Refuses session operation .alreadyInChat
  | badCode {operation : Operation} {code : String} (names : operation.code? = some code)
    (idle : session.isActive = false) (bad : ¬ Code.WellFormed code) :
    Refuses session operation (.key .invalidChatCode)
  | notInChat {operation : Operation} (needs : operation.NeedsChat) (idle : session.isActive = false) :
    Refuses session operation .notInChat
  | cannotSign {content : String} (active : session.isActive = true) (secretless : session.identity.secret = none) :
    Refuses session (.send content) (.key .cannotSign)

namespace Session

variable {session : Session} {fault : SessionFault}

lemma secretsFor_eq_error_iff {code : String} : session.secretsFor code = .error fault ↔
    (session.isActive = true ∧ fault = .alreadyInChat) ∨
      (session.isActive = false ∧ fault = .key .invalidChatCode ∧ ¬ Code.WellFormed code) := by
  unfold secretsFor
  cases session.isActive with
  | true => simp [eq_comm]
  | false =>
    simp only [Bool.false_eq_true, if_false, false_and, false_or, true_and]
    rw [mapError_eq_error_iff]
    constructor
    · rintro ⟨keyFault, hderive, rfl⟩
      obtain ⟨rfl, bad⟩ := Secrets.derive_eq_error_iff.1 hderive
      exact ⟨rfl, bad⟩
    · rintro ⟨rfl, bad⟩
      exact ⟨_, Secrets.derive_eq_error_iff.2 ⟨rfl, bad⟩, rfl⟩

section Refuses

variable {operation : Operation}

lemma refuses_iff_of_code {code : String} (names : operation.code? = some code) : session.Refuses operation fault ↔
    (session.isActive = true ∧ fault = .alreadyInChat) ∨
      (session.isActive = false ∧ fault = .key .invalidChatCode ∧ ¬ Code.WellFormed code) := by
  have enters := Operation.enters_of_code names
  constructor
  · intro h
    cases h with
    | inChat _ active => exact .inl ⟨active, rfl⟩
    | badCode names' idle bad =>
      obtain rfl := Option.some.inj (names.symm.trans names')
      exact .inr ⟨idle, rfl, bad⟩
    | notInChat needs => exact (Operation.not_needsChat enters needs).elim
    | cannotSign => cases names
  · rintro (⟨active, rfl⟩ | ⟨idle, rfl, bad⟩)
    · exact .inChat enters active
    · exact .badCode names idle bad

lemma Refuses.of_secretsFor {code : String} (names : operation.code? = some code)
    (refused : session.secretsFor code = .error fault) : session.Refuses operation fault :=
  (refuses_iff_of_code names).2 (secretsFor_eq_error_iff.1 refused)

lemma refuses_iff_of_enters (enters : operation.Enters) (nameless : operation.code? = none) :
    session.Refuses operation fault ↔ session.isActive = true ∧ fault = .alreadyInChat := by
  constructor
  · intro h
    cases h with
    | inChat _ active => exact ⟨active, rfl⟩
    | badCode names => cases nameless.symm.trans names
    | notInChat needs => exact (Operation.not_needsChat enters needs).elim
    | cannotSign => exact enters.elim
  · rintro ⟨active, rfl⟩
    exact .inChat enters active

lemma refuses_send_iff {content : String} : session.Refuses (.send content) fault ↔
    (session.isActive = false ∧ fault = .notInChat) ∨
      (session.isActive = true ∧ session.identity.secret = none ∧ fault = .key .cannotSign) := by
  constructor
  · intro h
    cases h with
    | inChat enters => exact enters.elim
    | badCode names => cases names
    | notInChat _ idle => exact .inl ⟨idle, rfl⟩
    | cannotSign active secretless => exact .inr ⟨active, secretless, rfl⟩
  · rintro (⟨idle, rfl⟩ | ⟨active, secretless, rfl⟩)
    · exact .notInChat trivial idle
    · exact .cannotSign active secretless

lemma refuses_leave_iff : session.Refuses .leave fault ↔ session.isActive = false ∧ fault = .notInChat := by
  constructor
  · intro h
    cases h with
    | inChat enters => exact enters.elim
    | badCode names => cases names
    | notInChat _ idle => exact ⟨idle, rfl⟩
  · rintro ⟨idle, rfl⟩
    exact .notInChat trivial idle

/-- Frames are received and messages are swept whatever state the session is in. -/
lemma not_refuses (stays : ¬ operation.Enters) (free : ¬ operation.NeedsChat) : ¬ session.Refuses operation fault := by
  intro h
  cases h with
  | inChat enters => exact stays enters
  | badCode names => exact stays (Operation.enters_of_code names)
  | notInChat needs => exact free needs
  | cannotSign => exact free trivial

end Refuses

end Session

/-! ### What comes of a refusal -/

namespace Seat

variable {seat : Seat} {now : Int64} {operation : Operation} {fault : SessionFault}

/-- **An operation is refused for exactly the reasons that there are.** -/
theorem perform_refused_iff :
    (seat.perform now operation).1 = .refused fault ↔ seat.session.Refuses operation fault := by
  cases operation with
  | create code kind =>
    rw [perform, outcome_refused_iff nofun, Session.refuses_iff_of_code rfl, ← Session.secretsFor_eq_error_iff]
    exact Action.withCode_refusedAt_iff fun _ h => (Action.enter_refusedAt_iff.1 h).1
  | createWith secrets kind =>
    rw [perform, outcome_refused_iff nofun, createWith, Action.enter_refusedAt_iff,
      Session.refuses_iff_of_enters (by trivial) rfl]
  | join code =>
    rw [perform, outcome_refused_iff nofun, Session.refuses_iff_of_code rfl, ← Session.secretsFor_eq_error_iff]
    exact Action.withCode_refusedAt_iff fun _ h => (Action.enter_refusedAt_iff.1 h).1
  | joinWith secrets =>
    rw [perform, outcome_refused_iff nofun, joinWith, Action.enter_refusedAt_iff,
      Session.refuses_iff_of_enters (by trivial) rfl]
  | send content =>
    rw [perform, outcome_refused_iff nofun, Action.send_refusedAt_iff, Session.refuses_send_iff]
  | receive frame =>
    refine iff_of_false ?_ (Session.not_refuses id id)
    intro h
    cases h
  | retry =>
    refine iff_of_false ?_ (Session.not_refuses id id)
    intro h
    cases h
  | leave =>
    rw [perform, outcome_refused_iff nofun, Action.leave_refusedAt_iff, Session.refuses_leave_iff]

/-- What is refused leaves everything as it was. -/
lemma eq_of_perform_refused (h : (seat.perform now operation).1 = .refused fault) :
    (seat.perform now operation).2 = seat := by
  have step := seat.step_perform now operation
  rw [h] at step
  generalize (seat.perform now operation).2 = next at step
  cases step with
  | refused => rfl

lemma perform_of_refuses (refuses : seat.session.Refuses operation fault) (now : Int64) :
    seat.perform now operation = (.refused fault, seat) :=
  Prod.ext (perform_refused_iff.2 refuses) (eq_of_perform_refused (perform_refused_iff.2 refuses))

end Seat

end SealedChat
