import SealedChat.Proofs.Session.Refusals

/-!
# Deeds

A deed is an operation that was performed, with its time and its reply. Deeds lead from one seat to another
(`Seat.Leads`) if their operations, performed one after the other, give their replies and end there. A chat is
entered from outside of any chat only, so between two deeds that enter one there is a deed that leaves one
(`exists_left_of_entered`).
-/

namespace SealedChat

/-- Something that was done: when, what, and what it gave back. -/
structure Deed where
  now : Int64
  operation : Operation
  reply : Reply
  deriving DecidableEq

namespace Session

variable {session session' : Session}

lemma Adjusts.session_eq (h : session.Adjusts session') : session' = { session with chat := session'.chat } := by
  cases h with
  | same => rfl
  | change => rfl

lemma Adjusts.isActive_eq (h : session.Adjusts session') : session'.isActive = session.isActive := by
  cases h with
  | same => rfl
  | change hchat _ =>
    unfold isActive
    rw [hchat]
    rfl

end Session

namespace Seat

/-- Deeds that are done one after the other lead from a seat to another one. -/
def Leads (seat : Seat) (deeds : List Deed) (last : Seat) : Prop :=
  seat.performAll (deeds.map fun deed => (deed.now, deed.operation)) = (deeds.map (·.reply), last)

section Leads

variable {seat last : Seat} {deed : Deed} {deeds first second : List Deed}

lemma leads_nil : seat.Leads [] last ↔ seat = last := by
  unfold Leads
  simp [performAll]

lemma leads_cons : seat.Leads (deed :: deeds) last ↔
    ∃ next, seat.perform deed.now deed.operation = (deed.reply, next) ∧ next.Leads deeds last := by
  unfold Leads
  simp only [List.map_cons, performAll, Prod.mk.injEq, List.cons.injEq]
  constructor
  · rintro ⟨⟨hreply, hreplies⟩, hlast⟩
    exact ⟨_, Prod.ext hreply rfl, Prod.ext hreplies hlast⟩
  · rintro ⟨next, hperform, hleads⟩
    rw [hperform, hleads]
    exact ⟨⟨rfl, rfl⟩, rfl⟩

lemma leads_append :
    seat.Leads (first ++ second) last ↔ ∃ mid, seat.Leads first mid ∧ mid.Leads second last := by
  induction first generalizing seat with
  | nil => simp [leads_nil]
  | cons deed first ih =>
    simp only [List.cons_append, leads_cons, ih]
    constructor
    · rintro ⟨next, hperform, mid, hfirst, hsecond⟩
      exact ⟨mid, ⟨next, hperform, hfirst⟩, hsecond⟩
    · rintro ⟨mid, ⟨next, hperform, hfirst⟩, hsecond⟩
      exact ⟨next, hperform, mid, hfirst, hsecond⟩

lemma leads_concat : seat.Leads (deeds ++ [deed]) last ↔
    ∃ mid, seat.Leads deeds mid ∧ mid.perform deed.now deed.operation = (deed.reply, last) := by
  simp [leads_append, leads_cons, leads_nil]

lemma exists_perform_of_leads (h : seat.Leads deeds last) (hdeed : deed ∈ deeds) :
    ∃ before mid next, seat.Leads before mid ∧ mid.perform deed.now deed.operation = (deed.reply, next) := by
  obtain ⟨before, after, rfl⟩ := List.append_of_mem hdeed
  obtain ⟨mid, hbefore, hrest⟩ := leads_append.1 h
  obtain ⟨next, hperform, -⟩ := leads_cons.1 hrest
  exact ⟨before, mid, next, hbefore, hperform⟩

end Leads

/-- Only the chat of a session changes. -/
lemma Step.session_eq {seat next : Seat} {now : Int64} {operation : Operation} {reply : Reply}
    (step : seat.Step now operation reply next) : next.session = { seat.session with chat := next.session.chat } := by
  cases step with
  | refused => rfl
  | received h => exact h.session_eq
  | swept h => exact h.session_eq
  | entered h =>
    obtain ⟨_, _, rfl⟩ := h
    rfl
  | left => rfl
  | sent h =>
    obtain ⟨chat, -, -, -, -, rfl⟩ := send_eq_ok_iff.1 h
    rfl

lemma session_of_perform {seat next : Seat} {now : Int64} {operation : Operation} {reply : Reply}
    (h : seat.perform now operation = (reply, next)) :
    next.session = { seat.session with chat := next.session.chat } := by
  have step := seat.step_perform now operation
  rw [h] at step
  exact step.session_eq

lemma session_of_leads {seat last : Seat} {deeds : List Deed} (h : seat.Leads deeds last) :
    last.session = { seat.session with chat := last.session.chat } := by
  induction deeds generalizing seat with
  | nil => rw [leads_nil.1 h]
  | cons deed deeds ih =>
    obtain ⟨next, hperform, hnext⟩ := leads_cons.1 h
    rw [ih hnext, session_of_perform hperform]

end Seat

/-! ### Entering and leaving chats -/

/-- A chat was entered. -/
def Deed.Entered (deed : Deed) : Prop := deed.operation.Enters ∧ ∃ bytes, deed.reply = .frame bytes

/-- A chat was left. -/
def Deed.Left (deed : Deed) : Prop := deed.operation = .leave ∧ ∃ bytes, deed.reply = .frame bytes

namespace Seat

variable {seat next : Seat} {now : Int64} {operation : Operation} {reply : Reply}

/-- Who is in a chat does not enter another one. -/
lemma perform_of_isActive (active : seat.session.isActive = true) (now : Int64) (h : operation.Enters) :
    seat.perform now operation = (.refused .alreadyInChat, seat) :=
  perform_of_refuses (.inChat h active) now

lemma chat_of_entered (h : operation.Enters) {bytes : Bytes}
    (hperform : seat.perform now operation = (.frame bytes, next)) :
    seat.session.chat = none := by
  cases hchat : seat.session.chat with
  | none => rfl
  | some chat =>
    have active : seat.session.isActive = true := by rw [Session.isActive, hchat, Option.isSome_some]
    rw [perform_of_isActive active now h] at hperform
    cases hperform

lemma isActive_of_entered (h : operation.Enters) {bytes : Bytes}
    (hperform : seat.perform now operation = (.frame bytes, next)) : next.session.isActive = true := by
  have step := seat.step_perform now operation
  rw [hperform] at step
  cases step with
  | entered hsession =>
    obtain ⟨_, _, rfl⟩ := hsession
    rfl
  | left => exact h.elim

/-- Who is in a chat stays in it until it is left. -/
lemma isActive_of_perform (active : seat.session.isActive = true)
    (hperform : seat.perform now operation = (reply, next)) (hstays : ¬ Deed.Left ⟨now, operation, reply⟩) :
    next.session.isActive = true := by
  have step := seat.step_perform now operation
  rw [hperform] at step
  cases step with
  | refused => exact active
  | received h => rwa [h.isActive_eq]
  | swept h => rwa [h.isActive_eq]
  | entered h =>
    obtain ⟨_, _, rfl⟩ := h
    rfl
  | left => exact absurd ⟨rfl, _, rfl⟩ hstays
  | sent h =>
    obtain ⟨chat, -, -, -, -, rfl⟩ := send_eq_ok_iff.1 h
    rfl

lemma exists_left_of_isActive {last : Seat} {between after : List Deed} {deed : Deed}
    (active : seat.session.isActive = true) (hleads : seat.Leads (between ++ deed :: after) last)
    (hentered : deed.Entered) : ∃ d ∈ between, d.Left := by
  induction between generalizing seat with
  | nil =>
    obtain ⟨next, hperform, -⟩ := leads_cons.1 hleads
    obtain ⟨henters, bytes, hreply⟩ := hentered
    rw [perform_of_isActive active _ henters, hreply] at hperform
    cases hperform
  | cons first between ih =>
    obtain ⟨next, hperform, hleads⟩ := leads_cons.1 hleads
    by_cases hleft : first.Left
    · exact ⟨first, List.mem_cons_self, hleft⟩
    · obtain ⟨d, hd, hleft⟩ := ih (isActive_of_perform active hperform hleft) hleads
      exact ⟨d, List.mem_cons_of_mem _ hd, hleft⟩

/-- **Between two deeds that enter a chat there is one that leaves a chat.** -/
theorem exists_left_of_entered {last : Seat} {before between after : List Deed} {first second : Deed}
    (hleads : seat.Leads (before ++ first :: (between ++ second :: after)) last) (hfirst : first.Entered)
    (hsecond : second.Entered) : ∃ d ∈ between, d.Left := by
  obtain ⟨mid, -, hrest⟩ := leads_append.1 hleads
  obtain ⟨next, hperform, hrest⟩ := leads_cons.1 hrest
  obtain ⟨henters, bytes, hreply⟩ := hfirst
  rw [hreply] at hperform
  exact exists_left_of_isActive (isActive_of_entered henters hperform) hrest hsecond

end Seat

end SealedChat
