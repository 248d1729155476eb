import Mathlib.Data.List.Nodup
import SealedChat.Proofs.Session.Retry

/-!
# The messages that a run sends

Whatever waits was sent, and waits in the order in which it was sent (`waiting_sublist_sent`). A message that is sent
under an id of its own is the only one that waits under this id, until its end (`withId_of_leads`), and a run does
not send it again more often than the policy has it (`length_attempts_le`).
-/

namespace SealedChat

/-- The message that was sent, if one was. -/
def Deed.sent? (deed : Deed) : Option Outbound :=
  match deed.reply with
  | .sent outbound => some outbound
  | _ => none

/-- The messages that deeds send, in their order. -/
def sent (deeds : List Deed) : List Outbound := deeds.filterMap Deed.sent?

section Sent

variable {deed : Deed} {deeds : List Deed} {outbound : Outbound}

lemma Deed.sentId?_eq (deed : Deed) : deed.sentId? = deed.sent?.map (·.messageId) := by
  unfold sentId? sent?
  cases deed.reply <;> rfl

lemma Deed.sent?_eq_some_iff : deed.sent? = some outbound ↔ deed.reply = .sent outbound := by
  unfold sent?
  cases deed.reply <;> simp

lemma sent_cons (deed : Deed) (deeds : List Deed) : sent (deed :: deeds) = deed.sent?.toList ++ sent deeds := by
  unfold sent
  cases h : deed.sent? with
  | none => rw [List.filterMap_cons_none h, Option.toList_none, List.nil_append]
  | some outbound => rw [List.filterMap_cons_some h, Option.toList_some, List.singleton_append]

lemma sent_append (first second : List Deed) : sent (first ++ second) = sent first ++ sent second :=
  List.filterMap_append

lemma filterMap_sentId? (deeds : List Deed) : deeds.filterMap Deed.sentId? = (sent deeds).map (·.messageId) := by
  unfold sent
  rw [List.map_filterMap]
  congr 1
  funext deed
  exact deed.sentId?_eq

/-- A message is known by its id, if no two messages are sent with one id. -/
lemma eq_of_mem_sent (distinct : (deeds.filterMap Deed.sentId?).Nodup) {other : Outbound} (h : outbound ∈ sent deeds)
    (hother : other ∈ sent deeds) (hid : other.messageId = outbound.messageId) : other = outbound := by
  rw [filterMap_sentId?] at distinct
  exact List.inj_on_of_nodup_map distinct hother h hid

end Sent

/-! ### What waits was sent -/

section Waiting

variable {policy : RetryPolicy} {deed : Deed} {waiting waiting' : List Waiting} {seat last : Seat} {deeds : List Deed}

lemma Handles.outbound_sublist (h : Handles policy deed waiting waiting') :
    (waiting'.map (·.outbound)).Sublist (waiting.map (·.outbound) ++ deed.sent?.toList) := by
  cases h with
  | sent reply =>
    rw [Deed.sent?_eq_some_iff.2 reply, List.map_append]
    exact .refl _
  | acknowledged => exact (List.eraseP_sublist.map _).trans (List.sublist_append_left _ _)
  | swept =>
    rw [List.map_map]
    exact (List.filter_sublist.map _).trans (List.sublist_append_left _ _)
  | left => exact List.nil_sublist _
  | kept => exact List.sublist_append_left _ _

/-- **What waits was sent**, and waits in the order in which it was sent. -/
theorem waiting_sublist_sent (h : seat.Leads deeds last) (idle : seat.session.waiting = []) :
    (last.session.waiting.map (·.outbound)).Sublist (sent deeds) := by
  suffices (last.session.waiting.map (·.outbound)).Sublist (seat.session.waiting.map (·.outbound) ++ sent deeds) by
    rwa [idle] at this
  clear idle
  induction deeds generalizing seat with
  | nil =>
    obtain rfl := Seat.leads_nil.1 h
    exact List.sublist_append_left _ _
  | cons deed deeds ih =>
    obtain ⟨next, hperform, hnext⟩ := Seat.leads_cons.1 h
    have hstep := (handles_of_perform hperform).outbound_sublist
    rw [sent_cons, ← List.append_assoc]
    exact (ih hnext).trans (hstep.append_right _)

/-- What a sweep sends again is sent again in the order in which it was sent. -/
lemma resend_sublist_sent (h : seat.Leads deeds last) (idle : seat.session.waiting = []) (now : Int64) :
    (last.session.retryAt now).1.resend.Sublist (sent deeds) := by
  obtain ⟨hresend, -⟩ := last.session.retryAt_swept now
  rw [hresend]
  exact (List.filter_sublist.map _).trans (waiting_sublist_sent h idle)

end Waiting

/-! ### A message and its id -/

section Followed

variable {seat last : Seat} {deeds before after : List Deed} {deed : Deed} {outbound : Outbound} {messageId : String}

/-- A message that waits under an id of its own waits there until its end, and nothing does from then on. -/
theorem withId_of_leads {w : Waiting} (h : seat.Leads deeds last)
    (hone : withId w.outbound.messageId seat.session.waiting = [w])
    (unsent : ∀ deed ∈ deeds, deed.sentId? ≠ some w.outbound.messageId) :
    withId w.outbound.messageId last.session.waiting = [] ∨
      ∃ message, withId w.outbound.messageId last.session.waiting = [⟨message, w.outbound⟩] ∧
        ∀ deed ∈ deeds, ¬ deed.Ends w.outbound.messageId := by
  induction deeds generalizing seat w with
  | nil =>
    obtain rfl := Seat.leads_nil.1 h
    exact .inr ⟨w.message, hone, List.forall_mem_nil _⟩
  | cons deed deeds ih =>
    obtain ⟨next, hperform, hnext⟩ := Seat.leads_cons.1 h
    obtain ⟨hdeed, hdeeds⟩ := List.forall_mem_cons.1 unsent
    obtain ⟨fate, hfate, hwaiting⟩ := (handles_of_perform hperform).exists_fate hone hdeed
    cases hfate with
    | untouched _ goesOn =>
      refine (ih hnext hwaiting hdeeds).imp_right ?_
      rintro ⟨message, hlast, hrest⟩
      exact ⟨message, hlast, List.forall_mem_cons.2 ⟨goesOn, hrest⟩⟩
    | resent _ _ goesOn =>
      refine (ih (w := { w with message := w.message.retried deed.now }) hnext hwaiting hdeeds).imp_right ?_
      rintro ⟨message, hlast, hrest⟩
      exact ⟨message, hlast, List.forall_mem_cons.2 ⟨goesOn, hrest⟩⟩
    | ended => exact .inl (withId_of_unsent hnext hwaiting hdeeds).2

/-- A message that is sent under an id of its own: nothing is heard of it before, and then it is the only one that
waits under this id. -/
lemma exists_waiting_of_sent (h : seat.Leads (before ++ deed :: after) last) (idle : seat.session.waiting = [])
    (distinct : ((before ++ deed :: after).filterMap Deed.sentId?).Nodup) (hsent : deed.reply = .sent outbound) :
    (∀ earlier ∈ before, earlier.Silent outbound.messageId) ∧
      (∀ later ∈ after, later.sentId? ≠ some outbound.messageId) ∧
      ∃ (next : Seat) (message : PendingMessage), next.Leads after last ∧ next.session.retry = seat.session.retry ∧
        withId outbound.messageId next.session.waiting = [⟨message, outbound⟩] ∧ message.retries = 0 := by
  obtain ⟨mid, hbefore, hrest⟩ := Seat.leads_append.1 h
  obtain ⟨next, hperform, hafter⟩ := Seat.leads_cons.1 hrest
  have hid : deed.sentId? = some outbound.messageId := by rw [Deed.sentId?, hsent]
  rw [List.filterMap_append, List.filterMap_cons_some hid, List.nodup_append] at distinct
  obtain ⟨-, hlater, hearlier⟩ := distinct
  have unsentBefore : ∀ d ∈ before, d.sentId? ≠ some outbound.messageId := by
    intro d hd heq
    exact hearlier _ (List.mem_filterMap.2 ⟨d, hd, heq⟩) _ List.mem_cons_self rfl
  have unsentAfter : ∀ d ∈ after, d.sentId? ≠ some outbound.messageId := by
    intro d hd heq
    exact (List.nodup_cons.1 hlater).1 (List.mem_filterMap.2 ⟨d, hd, heq⟩)
  have hstart : withId outbound.messageId seat.session.waiting = [] := by
    rw [idle]
    rfl
  obtain ⟨hsilent, hnone⟩ := withId_of_unsent hbefore hstart unsentBefore
  obtain ⟨message, hwaiting, -, hretries⟩ := (handles_of_perform hperform).exists_message_of_sent hsent
  refine ⟨hsilent, unsentAfter, next, message, hafter, ?_, ?_, hretries⟩
  · rw [Seat.session_of_perform hperform, Seat.session_of_leads hbefore]
  · rw [hwaiting]
    exact withId_append_self (w := ⟨message, outbound⟩) hnone

/-- A run does not send a message again more often than the policy has it. -/
theorem length_attempts_le (h : seat.Leads deeds last) (idle : seat.session.waiting = [])
    (distinct : (deeds.filterMap Deed.sentId?).Nodup) (htimeout : 0 ≤ seat.session.retry.timeout.toInt)
    (messageId : String) : (attempts messageId deeds).length ≤ seat.session.retry.maxRetries.toNat := by
  by_cases hsent : ∃ deed ∈ deeds, deed.sentId? = some messageId
  · obtain ⟨deed, hdeed, hid⟩ := hsent
    rw [Deed.sentId?_eq] at hid
    obtain ⟨outbound, houtbound, rfl⟩ := Option.map_eq_some_iff.1 hid
    have hreply := Deed.sent?_eq_some_iff.1 houtbound
    obtain ⟨before, after, rfl⟩ := List.append_of_mem hdeed
    obtain ⟨hsilent, unsent, next, message, hafter, hretry, hone, hretries⟩ :=
      exists_waiting_of_sent h idle distinct hreply
    have hcontract := contract_of_leads (w := ⟨message, outbound⟩) hafter hone unsent
      (by rw [hretries]; exact Nat.zero_le _) (by rwa [hretry])
    have hfew := hcontract.few
    rw [hretries, hretry] at hfew
    have hown : deed.attempts outbound.messageId = [] :=
      Deed.attempts_eq_nil_iff.2 (Deed.Silent.of_sent hreply).resent
    have hbefore := attempts_of_silent hsilent
    unfold attempts at *
    rw [List.flatMap_append, List.flatMap_cons, hbefore, hown]
    simpa using hfew
  · have unsent : ∀ deed ∈ deeds, deed.sentId? ≠ some messageId := by
      intro deed hdeed hid
      exact hsent ⟨deed, hdeed, hid⟩
    have hstart : withId messageId seat.session.waiting = [] := by
      rw [idle]
      rfl
    rw [attempts_of_silent (withId_of_unsent h hstart unsent).1]
    exact Nat.zero_le _

end Followed

end SealedChat
