import SealedChat.Proofs.Lists
import SealedChat.Proofs.Session.Waiting

/-!
# How often and when a message is sent again

A message that was sent is followed through a run. As long as it waits, a deed leaves it alone, sends it again,
or is the end of it (`Waiting.Fate`); after its end it is not heard of any more. So every message is sent again as
it was agreed (`RetryContract`), whatever times the sweeps are made at and whatever else is done.
-/

namespace SealedChat

/-! ### What is heard of a message -/

/-- The attempts that a deed makes to send a message again: when, and what is sent. -/
def Deed.attempts (messageId : String) (deed : Deed) : List (Int64 × Outbound) :=
  (deed.resent.filter (·.messageId == messageId)).map fun outbound => (deed.now, outbound)

/-- The attempts that deeds make to send a message again. -/
def attempts (messageId : String) (deeds : List Deed) : List (Int64 × Outbound) :=
  deeds.flatMap (Deed.attempts messageId)

/-- Nothing is heard of a message: it is neither sent again nor given up nor acknowledged. -/
structure Deed.Silent (messageId : String) (deed : Deed) : Prop where
  resent : ∀ outbound ∈ deed.resent, outbound.messageId ≠ messageId
  abandoned : messageId ∉ deed.abandoned
  acknowledged : ¬ deed.Acknowledges messageId

/-- A message comes to its end: it is acknowledged, it is given up, or its chat is left. -/
def Deed.Ends (messageId : String) (deed : Deed) : Prop :=
  deed.Acknowledges messageId ∨ messageId ∈ deed.abandoned ∨ deed.Left

/-- **How a message is sent again** in deeds that follow the last attempt to send it, when `made` attempts to send
it again have been made. Every attempt sends the same, at least a timeout after the attempt before it, and there
are no more than `maxRetries` of them. The message is given up once at most, a timeout after the last of
`maxRetries` attempts. After its end nothing is heard of it. -/
structure RetryContract (timeout : Int) (maxRetries : Nat) (outbound : Outbound) (last : Int64) (made : Nat)
    (deeds : List Deed) : Prop where
  same : ∀ attempt ∈ attempts outbound.messageId deeds, attempt.2 = outbound
  few : made + (attempts outbound.messageId deeds).length ≤ maxRetries
  spaced : (last :: (attempts outbound.messageId deeds).map (·.1)).IsChain fun earlier later =>
    timeout ≤ later.toInt - earlier.toInt
  once : (deeds.flatMap (·.abandoned)).count outbound.messageId ≤ 1
  exhausted : ∀ before deed after, deeds = before ++ deed :: after → outbound.messageId ∈ deed.abandoned →
    made + (attempts outbound.messageId before).length = maxRetries ∧
      timeout ≤ deed.now.toInt - (((attempts outbound.messageId before).map (·.1)).getLastD last).toInt
  finished : ∀ before deed after, deeds = before ++ deed :: after → deed.Ends outbound.messageId →
    ∀ later ∈ after, later.Silent outbound.messageId

section Attempts

variable {messageId : String} {deed : Deed} {deeds : List Deed}

lemma attempts_cons : attempts messageId (deed :: deeds) = deed.attempts messageId ++ attempts messageId deeds :=
  List.flatMap_cons

lemma Deed.attempts_eq_nil_iff :
    deed.attempts messageId = [] ↔ ∀ outbound ∈ deed.resent, outbound.messageId ≠ messageId := by
  simp [attempts]

lemma attempts_of_silent (h : ∀ deed ∈ deeds, deed.Silent messageId) : attempts messageId deeds = [] := by
  refine List.flatMap_eq_nil_iff.2 ?_
  intro deed hdeed
  exact Deed.attempts_eq_nil_iff.2 (h deed hdeed).resent

lemma count_abandoned_of_silent (h : ∀ deed ∈ deeds, deed.Silent messageId) :
    (deeds.flatMap (·.abandoned)).count messageId = 0 := by
  rw [List.count_eq_zero]
  intro hmem
  obtain ⟨deed, hdeed, habandoned⟩ := List.mem_flatMap.1 hmem
  exact (h deed hdeed).abandoned habandoned

lemma forall_split_cons {P : List Deed → Deed → List Deed → Prop} :
    (∀ before d after, deed :: deeds = before ++ d :: after → P before d after) ↔
      P [] deed deeds ∧ ∀ before d after, deeds = before ++ d :: after → P (deed :: before) d after := by
  constructor
  · intro h
    refine ⟨h [] deed deeds rfl, ?_⟩
    rintro before d after rfl
    exact h (deed :: before) d after rfl
  · rintro ⟨hhead, htail⟩ before d after heq
    rcases List.cons_eq_append_iff.1 heq with ⟨rfl, hcons⟩ | ⟨rest, rfl, hrest⟩
    · obtain ⟨rfl, rfl⟩ := List.cons.inj hcons
      exact hhead
    · exact htail rest d after hrest

end Attempts

/-! ### The contract, deed by deed -/

namespace RetryContract

variable {timeout : Int} {maxRetries made : Nat} {outbound : Outbound} {last : Int64} {deed : Deed}
  {deeds : List Deed}

lemma nil (hmade : made ≤ maxRetries) : RetryContract timeout maxRetries outbound last made [] where
  same _ h := nomatch h
  few := hmade
  spaced := .singleton last
  once := Nat.zero_le 1
  exhausted before deed after h := by simp at h
  finished before deed after h := by simp at h

lemma cons_untouched (h : RetryContract timeout maxRetries outbound last made deeds)
    (silent : deed.Silent outbound.messageId) (goesOn : ¬ deed.Ends outbound.messageId) :
    RetryContract timeout maxRetries outbound last made (deed :: deeds) := by
  have hattempts (ds : List Deed) : attempts outbound.messageId (deed :: ds) = attempts outbound.messageId ds := by
    rw [attempts_cons, Deed.attempts_eq_nil_iff.2 silent.resent, List.nil_append]
  refine ⟨?_, ?_, ?_, ?_, ?_, ?_⟩
  · rw [hattempts]
    exact h.same
  · rw [hattempts]
    exact h.few
  · rw [hattempts]
    exact h.spaced
  · rw [List.flatMap_cons, List.count_append, List.count_eq_zero.2 silent.abandoned, Nat.zero_add]
    exact h.once
  · refine forall_split_cons.2 ⟨fun habandoned => absurd habandoned silent.abandoned, ?_⟩
    intro before d after heq habandoned
    rw [hattempts]
    exact h.exhausted before d after heq habandoned
  · exact forall_split_cons.2 ⟨fun hends => absurd hends goesOn, h.finished⟩

lemma cons_resent (h : RetryContract timeout maxRetries outbound deed.now (made + 1) deeds)
    (resent : deed.attempts outbound.messageId = [(deed.now, outbound)])
    (due : timeout ≤ deed.now.toInt - last.toInt) (goesOn : ¬ deed.Ends outbound.messageId) :
    RetryContract timeout maxRetries outbound last made (deed :: deeds) := by
  have hattempts (ds : List Deed) :
      attempts outbound.messageId (deed :: ds) = (deed.now, outbound) :: attempts outbound.messageId ds := by
    rw [attempts_cons, resent, List.singleton_append]
  have habandoned : outbound.messageId ∉ deed.abandoned := fun hmem => goesOn (.inr (.inl hmem))
  have hfew := h.few
  refine ⟨?_, ?_, ?_, ?_, ?_, ?_⟩
  · rw [hattempts]
    intro attempt hattempt
    rcases List.mem_cons.1 hattempt with rfl | hattempt
    · rfl
    · exact h.same attempt hattempt
  · rw [hattempts, List.length_cons]
    omega
  · rw [hattempts, List.map_cons]
    exact List.isChain_cons_cons.2 ⟨due, h.spaced⟩
  · rw [List.flatMap_cons, List.count_append, List.count_eq_zero.2 habandoned, Nat.zero_add]
    exact h.once
  · refine forall_split_cons.2 ⟨fun hmem => absurd hmem habandoned, ?_⟩
    intro before d after heq hmem
    obtain ⟨hall, hlate⟩ := h.exhausted before d after heq hmem
    rw [hattempts, List.length_cons, List.map_cons, List.getLastD_cons]
    exact ⟨by omega, hlate⟩
  · exact forall_split_cons.2 ⟨fun hends => absurd hends goesOn, h.finished⟩

lemma cons_ended (hmade : made ≤ maxRetries) (silent : ∀ later ∈ deeds, later.Silent outbound.messageId)
    (unresent : deed.attempts outbound.messageId = []) (once : deed.abandoned.count outbound.messageId ≤ 1)
    (exhausted : outbound.messageId ∈ deed.abandoned → made = maxRetries ∧ timeout ≤ deed.now.toInt - last.toInt) :
    RetryContract timeout maxRetries outbound last made (deed :: deeds) := by
  have hattempts : attempts outbound.messageId (deed :: deeds) = [] := by
    rw [attempts_cons, unresent, attempts_of_silent silent, List.append_nil]
  refine ⟨?_, ?_, ?_, ?_, ?_, ?_⟩
  · rw [hattempts]
    exact fun _ h => nomatch h
  · rw [hattempts]
    exact hmade
  · rw [hattempts]
    exact .singleton last
  · rw [List.flatMap_cons, List.count_append, count_abandoned_of_silent silent]
    exact once
  · refine forall_split_cons.2 ⟨exhausted, ?_⟩
    rintro before d after rfl hmem
    exact absurd hmem (silent d (List.mem_append_right _ List.mem_cons_self)).abandoned
  · refine forall_split_cons.2 ⟨fun _ => silent, ?_⟩
    rintro before d after rfl - later hlater
    exact silent later (List.mem_append_right _ (List.mem_cons_of_mem _ hlater))

end RetryContract

/-! ### What becomes of a message in one deed -/

/-- The messages with an id among those that wait. -/
def withId (messageId : String) (waiting : List Waiting) : List Waiting :=
  waiting.filter (·.outbound.messageId == messageId)

/-- **What a deed makes of a message that waits**: it goes on waiting, is sent again, or does not wait any more. -/
inductive Waiting.Fate (policy : RetryPolicy) (deed : Deed) (w : Waiting) : Option Waiting → Prop
  | untouched (silent : deed.Silent w.outbound.messageId) (goesOn : ¬ deed.Ends w.outbound.messageId) :
    Fate policy deed w (some w)
  | resent (retried : w.message.isRetried deed.now policy = true)
    (attempts : deed.attempts w.outbound.messageId = [(deed.now, w.outbound)])
    (goesOn : ¬ deed.Ends w.outbound.messageId) :
    Fate policy deed w (some { w with message := w.message.retried deed.now })
  | ended (unresent : deed.attempts w.outbound.messageId = [])
    (once : deed.abandoned.count w.outbound.messageId ≤ 1)
    (exhausted : w.outbound.messageId ∈ deed.abandoned → w.message.isAbandoned deed.now policy = true) :
    Fate policy deed w none

section WithId

variable {messageId other : String} {waiting : List Waiting} {policy : RetryPolicy} {now : Int64}

lemma withId_append_of_ne {w : Waiting} (h : w.outbound.messageId ≠ messageId) :
    withId messageId (waiting ++ [w]) = withId messageId waiting := by
  unfold withId
  rw [List.filter_append, List.filter_cons_of_neg (by rwa [beq_iff_eq]), List.filter_nil, List.append_nil]

lemma withId_append_self {w : Waiting} (h : withId w.outbound.messageId waiting = []) :
    withId w.outbound.messageId (waiting ++ [w]) = [w] := by
  unfold withId at *
  rw [List.filter_append, h, List.nil_append]
  exact List.filter_cons_of_pos (beq_self_eq_true w.outbound.messageId)

lemma withId_acknowledged_of_ne (h : other ≠ messageId) :
    withId messageId (waiting.eraseP (·.outbound.messageId == other)) = withId messageId waiting := by
  refine filter_eraseP ?_ waiting
  intro w hw
  rw [eq_of_beq hw, beq_eq_false_iff_ne]
  exact h

lemma withId_swept :
    withId messageId ((waiting.filter fun w => !w.message.isAbandoned now policy).map (Waiting.swept now policy)) =
      ((withId messageId waiting).filter fun w => !w.message.isAbandoned now policy).map (Waiting.swept now policy) := by
  unfold withId
  rw [List.filter_map, List.filter_comm]
  rfl

lemma attempts_of_swept {deed : Deed} {sweep : RetrySweep} (messageId : String) (reply : deed.reply = .swept sweep)
    (resend : sweep.resend = (waiting.filter fun w => w.message.isRetried deed.now policy).map (·.outbound)) :
    deed.attempts messageId = ((withId messageId waiting).filter fun w => w.message.isRetried deed.now policy).map
      fun w => (deed.now, w.outbound) := by
  have hresent : deed.resent = sweep.resend := by rw [Deed.resent, reply]
  unfold Deed.attempts withId
  rw [hresent, resend, List.filter_map, List.map_map, List.filter_comm]
  rfl

lemma count_of_swept {deed : Deed} {sweep : RetrySweep} (messageId : String) (reply : deed.reply = .swept sweep)
    (abandoned : sweep.abandoned =
      (waiting.filter fun w => w.message.isAbandoned deed.now policy).map (·.outbound.messageId)) :
    deed.abandoned.count messageId =
      ((withId messageId waiting).filter fun w => w.message.isAbandoned deed.now policy).length := by
  have habandoned : deed.abandoned = sweep.abandoned := by rw [Deed.abandoned, reply]
  unfold withId
  rw [habandoned, abandoned, List.count_eq_length_filter, List.filter_map, List.length_map, List.filter_comm]
  rfl

end WithId

/-! ### One deed -/

section OneDeed

variable {policy : RetryPolicy} {deed : Deed} {waiting waiting' : List Waiting} {messageId : String}

lemma Deed.Silent.of_nil (resent : deed.resent = []) (abandoned : deed.abandoned = [])
    (acknowledged : ¬ deed.Acknowledges messageId) : deed.Silent messageId where
  resent outbound h := by
    rw [resent] at h
    cases h
  abandoned h := by
    rw [abandoned] at h
    cases h
  acknowledged := acknowledged

lemma Deed.Silent.of_sent {outbound : Outbound} (h : deed.reply = .sent outbound) : deed.Silent messageId :=
  .of_nil (by rw [Deed.resent, h]) (by rw [Deed.abandoned, h]) (by rw [Deed.Acknowledges, h]; nofun)

lemma Deed.Silent.of_acknowledged {other : String} (h : deed.Acknowledges other) (hother : other ≠ messageId) :
    deed.Silent messageId := by
  refine .of_nil (by rw [Deed.resent, h]) (by rw [Deed.abandoned, h]) ?_
  intro hacknowledged
  exact hother (by simpa using h.symm.trans hacknowledged)

lemma Deed.Silent.of_left (h : deed.Left) : deed.Silent messageId := by
  obtain ⟨-, bytes, reply⟩ := h
  refine .of_nil (by rw [Deed.resent, reply]) (by rw [Deed.abandoned, reply]) ?_
  rw [Deed.Acknowledges, reply]
  nofun

lemma Deed.ne_of_sent {outbound : Outbound} (h : deed.reply = .sent outbound) (unsent : deed.sentId? ≠ some messageId) :
    outbound.messageId ≠ messageId := by
  rw [Deed.sentId?, h] at unsent
  exact fun heq => unsent (congrArg some heq)

lemma Deed.Silent.not_ends (silent : deed.Silent messageId) (stays : ¬ deed.Left) : ¬ deed.Ends messageId := by
  rintro (hacknowledged | habandoned | hleft)
  · exact silent.acknowledged hacknowledged
  · exact silent.abandoned habandoned
  · exact stays hleft

lemma Waiting.Fate.ended_of_nil {w : Waiting} (resent : deed.resent = []) (abandoned : deed.abandoned = []) :
    w.Fate policy deed none := by
  refine .ended ?_ ?_ ?_
  · rw [Deed.attempts, resent]
    rfl
  · rw [abandoned]
    exact Nat.zero_le 1
  · rw [abandoned]
    exact fun h => nomatch h

lemma Deed.not_left {reply : Reply} (h : deed.reply = reply) (hframe : ∀ bytes, reply ≠ .frame bytes) :
    ¬ deed.Left := by
  rintro ⟨-, bytes, hbytes⟩
  exact hframe bytes (h.symm.trans hbytes)

lemma exists_fate_of_swept {sweep : RetrySweep} (reply : deed.reply = .swept sweep)
    (resend : sweep.resend = (waiting.filter fun w => w.message.isRetried deed.now policy).map (·.outbound))
    (abandoned : sweep.abandoned =
      (waiting.filter fun w => w.message.isAbandoned deed.now policy).map (·.outbound.messageId))
    {w : Waiting} (hone : withId w.outbound.messageId waiting = [w]) :
    ∃ fate, w.Fate policy deed fate ∧ withId w.outbound.messageId
      ((waiting.filter fun w => !w.message.isAbandoned deed.now policy).map (Waiting.swept deed.now policy)) =
        fate.toList := by
  have hattempts := attempts_of_swept w.outbound.messageId reply resend
  have hcount := count_of_swept w.outbound.messageId reply abandoned
  rw [hone] at hattempts hcount
  rw [withId_swept, hone]
  -- a message is never sent again and given up by the same sweep
  by_cases habandoned : w.message.isAbandoned deed.now policy = true
  · have hretried : w.message.isRetried deed.now policy = false := by
      rw [← Bool.not_eq_true]
      intro hretried
      have := (PendingMessage.isAbandoned_iff.1 habandoned).2
      have := (PendingMessage.isRetried_iff.1 hretried).2
      omega
    refine ⟨none, .ended ?_ ?_ fun _ => habandoned, ?_⟩
    · simpa [hretried] using hattempts
    · rw [hcount]
      exact List.length_filter_le _ [w]
    · simp [habandoned]
  have hkept : ([w].filter fun w => !w.message.isAbandoned deed.now policy) = [w] := by simp [habandoned]
  have hgiven : w.outbound.messageId ∉ deed.abandoned := by
    rw [← List.count_eq_zero]
    simpa [habandoned] using hcount
  have hacknowledged : ¬ deed.Acknowledges w.outbound.messageId := by
    rw [Deed.Acknowledges, reply]
    nofun
  have hgoesOn : ¬ deed.Ends w.outbound.messageId := by
    rintro (h | h | h)
    · exact hacknowledged h
    · exact hgiven h
    · exact Deed.not_left reply nofun h
  by_cases hretried : w.message.isRetried deed.now policy = true
  · refine ⟨_, .resent hretried ?_ hgoesOn, ?_⟩
    · simpa [hretried] using hattempts
    · rw [hkept, List.map_singleton, Waiting.swept, if_pos hretried]
      rfl
  · refine ⟨some w, .untouched ⟨?_, hgiven, hacknowledged⟩ hgoesOn, ?_⟩
    · rw [← Deed.attempts_eq_nil_iff]
      simpa [hretried] using hattempts
    · rw [hkept, List.map_singleton, Waiting.swept, if_neg hretried]
      rfl

/-- What a deed makes of the only message with an id. -/
theorem Handles.exists_fate (h : Handles policy deed waiting waiting') {w : Waiting}
    (hone : withId w.outbound.messageId waiting = [w]) (unsent : deed.sentId? ≠ some w.outbound.messageId) :
    ∃ fate, w.Fate policy deed fate ∧ withId w.outbound.messageId waiting' = fate.toList := by
  cases h with
  | @sent outbound message reply lastAttempt retries =>
    have silent : deed.Silent w.outbound.messageId := .of_sent reply
    refine ⟨some w, .untouched silent (silent.not_ends (Deed.not_left reply nofun)), ?_⟩
    rw [withId_append_of_ne (Deed.ne_of_sent reply unsent), hone]
    rfl
  | @acknowledged messageId reply found =>
    by_cases hid : messageId = w.outbound.messageId
    · -- only the first message with the id is taken out, but there is no other
      subst hid
      exact ⟨none, .ended_of_nil (by rw [Deed.resent, reply]) (by rw [Deed.abandoned, reply]),
        (filter_eraseP_self _ waiting).trans (congrArg List.tail hone)⟩
    · have silent : deed.Silent w.outbound.messageId := .of_acknowledged reply hid
      refine ⟨some w, .untouched silent (silent.not_ends (Deed.not_left reply nofun)), ?_⟩
      rw [withId_acknowledged_of_ne hid, hone]
      rfl
  | swept reply resend abandoned => exact exists_fate_of_swept reply resend abandoned hone
  | left left =>
    obtain ⟨-, bytes, reply⟩ := left
    exact ⟨none, .ended_of_nil (by rw [Deed.resent, reply]) (by rw [Deed.abandoned, reply]), rfl⟩
  | kept unsent unresent unabandoned unacknowledged stays =>
    have silent : deed.Silent w.outbound.messageId := .of_nil unresent unabandoned (unacknowledged _)
    exact ⟨some w, .untouched silent (silent.not_ends stays), hone⟩

theorem Handles.silent_of_none (h : Handles policy deed waiting waiting') (hnone : withId messageId waiting = [])
    (unsent : deed.sentId? ≠ some messageId) : deed.Silent messageId ∧ withId messageId waiting' = [] := by
  cases h with
  | @sent outbound message reply lastAttempt retries =>
    refine ⟨.of_sent reply, ?_⟩
    rwa [withId_append_of_ne (Deed.ne_of_sent reply unsent)]
  | @acknowledged other reply found =>
    have hother : other ≠ messageId := by
      rintro rfl
      obtain ⟨w, hw, hid⟩ := found
      exact List.filter_eq_nil_iff.1 hnone w hw (beq_iff_eq.2 hid)
    refine ⟨.of_acknowledged reply hother, ?_⟩
    rwa [withId_acknowledged_of_ne hother]
  | swept reply resend abandoned =>
    have hattempts := attempts_of_swept messageId reply resend
    have hcount := count_of_swept messageId reply abandoned
    rw [hnone] at hattempts hcount
    refine ⟨⟨Deed.attempts_eq_nil_iff.1 hattempts, List.count_eq_zero.1 hcount, ?_⟩, ?_⟩
    · rw [Deed.Acknowledges, reply]
      nofun
    · rw [withId_swept, hnone]
      rfl
  | left left => exact ⟨.of_left left, rfl⟩
  | kept _ unresent unabandoned unacknowledged =>
    exact ⟨.of_nil unresent unabandoned (unacknowledged messageId), hnone⟩

end OneDeed

/-! ### Runs -/

section Runs

variable {seat last : Seat} {deeds : List Deed} {messageId : String}

lemma withId_of_unsent (h : seat.Leads deeds last) (hnone : withId messageId seat.session.waiting = [])
    (unsent : ∀ deed ∈ deeds, deed.sentId? ≠ some messageId) :
    (∀ deed ∈ deeds, deed.Silent messageId) ∧ withId messageId last.session.waiting = [] := by
  induction deeds generalizing seat with
  | nil =>
    rw [Seat.leads_nil] at h
    subst h
    exact ⟨List.forall_mem_nil _, hnone⟩
  | cons deed deeds ih =>
    obtain ⟨next, hperform, hnext⟩ := Seat.leads_cons.1 h
    obtain ⟨hdeed, hdeeds⟩ := List.forall_mem_cons.1 unsent
    obtain ⟨silent, hnone⟩ := (handles_of_perform hperform).silent_of_none hnone hdeed
    obtain ⟨hsilent, hlast⟩ := ih hnext hnone hdeeds
    exact ⟨List.forall_mem_cons.2 ⟨silent, hsilent⟩, hlast⟩

lemma answers_of_leads (h : seat.Leads deeds last) {deed : Deed} (hdeed : deed ∈ deeds) (messageId : String) :
    deed.Answers seat.session.maxInbound.toNat messageId := by
  obtain ⟨before, mid, next, hbefore, hperform⟩ := Seat.exists_perform_of_leads h hdeed
  have hanswers := answers_of_perform hperform messageId
  rwa [Seat.session_of_leads hbefore] at hanswers

/-- A message that waits is sent again as it was agreed. -/
theorem contract_of_leads {w : Waiting} (h : seat.Leads deeds last)
    (hone : withId w.outbound.messageId seat.session.waiting = [w])
    (unsent : ∀ deed ∈ deeds, deed.sentId? ≠ some w.outbound.messageId)
    (hretries : w.message.retries.toNat ≤ seat.session.retry.maxRetries.toNat)
    (htimeout : 0 ≤ seat.session.retry.timeout.toInt) :
    RetryContract seat.session.retry.timeout.toInt seat.session.retry.maxRetries.toNat w.outbound
      w.message.lastAttempt w.message.retries.toNat deeds := by
  -- until its end, the message is the only one with its id; behind it there is none
  induction deeds generalizing seat w with
  | nil => exact .nil hretries
  | cons deed deeds ih =>
    obtain ⟨next, hperform, hnext⟩ := Seat.leads_cons.1 h
    obtain ⟨hdeed, hdeeds⟩ := List.forall_mem_cons.1 unsent
    obtain ⟨fate, hfate, hwaiting⟩ := (handles_of_perform hperform).exists_fate hone hdeed
    have hretry : next.session.retry = seat.session.retry := by rw [Seat.session_of_perform hperform]
    cases hfate with
    | untouched silent goesOn =>
      have hrest := ih hnext hwaiting hdeeds (by rwa [hretry]) (by rwa [hretry])
      rw [hretry] at hrest
      exact hrest.cons_untouched silent goesOn
    | resent retried attempts goesOn =>
      obtain ⟨hdue, hfew⟩ := PendingMessage.isRetried_iff.1 retried
      have htoNat := PendingMessage.toNat_retries_retried retried
      have hrest := ih (w := { w with message := w.message.retried deed.now }) hnext hwaiting hdeeds
        (by rw [hretry, htoNat]; exact hfew) (by rwa [hretry])
      rw [hretry, htoNat] at hrest
      exact hrest.cons_resent attempts ((PendingMessage.isDue_iff htimeout).1 hdue) goesOn
    | ended unresent once exhausted =>
      have hsilent := (withId_of_unsent hnext hwaiting hdeeds).1
      refine .cons_ended hretries hsilent unresent once ?_
      intro hmem
      obtain ⟨hdue, hall⟩ := PendingMessage.isAbandoned_iff.1 (exhausted hmem)
      exact ⟨Nat.le_antisymm hretries hall, (PendingMessage.isDue_iff htimeout).1 hdue⟩

lemma Handles.exists_message_of_sent {policy : RetryPolicy} {deed : Deed} {waiting waiting' : List Waiting}
    {outbound : Outbound} (h : Handles policy deed waiting waiting') (hsent : deed.reply = .sent outbound) :
    ∃ message : PendingMessage, waiting' = waiting ++ [⟨message, outbound⟩] ∧ message.lastAttempt = deed.now ∧
      message.retries = 0 := by
  cases h with
  | sent reply lastAttempt retries =>
    obtain rfl := Reply.sent.inj (reply.symm.trans hsent)
    exact ⟨_, rfl, lastAttempt, retries⟩
  | acknowledged reply => cases reply.symm.trans hsent
  | swept reply => cases reply.symm.trans hsent
  | left left =>
    obtain ⟨-, _, reply⟩ := left
    cases reply.symm.trans hsent
  | kept unsent =>
    rw [Deed.sentId?, hsent] at unsent
    cases unsent

/-- **Every message is sent again as it was agreed.** In a run of a new session that sends no two messages with
one id, whatever is done in it and whatever times it is done at, nothing is heard of a message before it was sent,
and from then on it is sent again as `RetryContract` has it, counted from the time it was sent at. A frame that
acknowledges it gives the event of that or none. -/
theorem retry_contract {settings : Settings} {identity : Identity} {entropy : Entropy} {before after : List Deed}
    {deed : Deed} {outbound : Outbound} {last : Seat}
    (run : (⟨Session.new settings identity, entropy⟩ : Seat).Leads (before ++ deed :: after) last)
    (distinct : ((before ++ deed :: after).filterMap Deed.sentId?).Nodup) (hsent : deed.reply = .sent outbound) :
    (∀ earlier ∈ before, earlier.Silent outbound.messageId) ∧
      RetryContract (min (settings.session.retryTimeout.toNat : Int) (2 ^ 63 - 1)) settings.session.maxRetries.toNat
        outbound deed.now 0 after ∧
      ∀ d ∈ before ++ deed :: after, d.Answers settings.session.maxInbound.toNat outbound.messageId := by
  obtain ⟨mid, hbefore, hrest⟩ := Seat.leads_append.1 run
  obtain ⟨next, hperform, hafter⟩ := Seat.leads_cons.1 hrest
  have hid : deed.sentId? = some outbound.messageId := by rw [Deed.sentId?, hsent]
  rw [List.filterMap_append, List.filterMap_cons_some hid, List.nodup_append] at distinct
  obtain ⟨-, hlater, hearlier⟩ := distinct
  have unsentBefore : ∀ d ∈ before, d.sentId? ≠ some outbound.messageId := by
    intro d hd heq
    exact hearlier _ (List.mem_filterMap.2 ⟨d, hd, heq⟩) _ List.mem_cons_self rfl
  have unsentAfter : ∀ d ∈ after, d.sentId? ≠ some outbound.messageId := by
    intro d hd heq
    exact (List.nodup_cons.1 hlater).1 (List.mem_filterMap.2 ⟨d, hd, heq⟩)
  obtain ⟨hsilent, hnone⟩ := withId_of_unsent hbefore rfl unsentBefore
  obtain ⟨message, hwaiting, hlast, hretries⟩ := (handles_of_perform hperform).exists_message_of_sent hsent
  have hone : withId outbound.messageId next.session.waiting = [⟨message, outbound⟩] := by
    rw [hwaiting]
    exact withId_append_self (w := ⟨message, outbound⟩) hnone
  have hretry : next.session.retry = RetryPolicy.ofSettings settings.session := by
    rw [Seat.session_of_perform hperform, Seat.session_of_leads hbefore]
    rfl
  have htimeout := RetryPolicy.toInt_timeout settings.session
  have hcontract := contract_of_leads (w := ⟨message, outbound⟩) hafter hone unsentAfter
    (by rw [hretries]; exact Nat.zero_le _) (by rw [hretry]; omega)
  rw [hretry, htimeout, hlast, hretries] at hcontract
  exact ⟨hsilent, hcontract, fun d hd => answers_of_leads run hd outbound.messageId⟩

/-- A message that is not acknowledged is sent again once, if that is all there may be, and then given up. -/
theorem retry_contract_given_up :
    let key : Key := ⟨List.replicate 32 0, rfl⟩
    let settings : Settings := { session := { retryTimeout := 5, maxRetries := 1 } }
    let start : Seat := ⟨Session.new settings ⟨some key, key⟩, ⟨fun _ => 0, 0⟩⟩
    let entered := start.perform 0 (.createWith ⟨⟨"room"⟩, ⟨key⟩, ⟨key⟩⟩ .oneToOne)
    let sent := entered.2.perform 7 (.send "hello")
    let again := sent.2.session.retryAt 12
    let given := again.2.retryAt 17
    ∃ outbound, sent.1 = .sent outbound ∧ again.1.resend = [outbound] ∧
      given.1.resend = [] ∧ given.1.abandoned = [outbound.messageId] ∧
      RetryContract 5 1 outbound 7 0 [⟨12, .retry, .swept again.1⟩, ⟨17, .retry, .swept given.1⟩] := by
  intro key settings start entered sent again given
  have hpolicy : sent.2.session.retry = ⟨5, 1⟩ := rfl
  obtain ⟨outbound, hsent⟩ : ∃ outbound, sent.1 = .sent outbound := ⟨_, rfl⟩
  have hhandles : Handles entered.2.session.retry ⟨7, .send "hello", sent.1⟩ [] sent.2.session.waiting :=
    handles_of_perform rfl
  obtain ⟨message, hwaiting, hlast, hretries⟩ := hhandles.exists_message_of_sent hsent
  have run : start.Leads ([⟨0, .createWith ⟨⟨"room"⟩, ⟨key⟩, ⟨key⟩⟩ .oneToOne, entered.1⟩] ++
      ⟨7, .send "hello", sent.1⟩ :: [⟨12, .retry, .swept again.1⟩, ⟨17, .retry, .swept given.1⟩])
        ⟨given.2, sent.2.entropy⟩ := rfl
  have hfirst : message.isRetried 12 ⟨5, 1⟩ = true ∧ message.isAbandoned 12 ⟨5, 1⟩ = false := by
    unfold PendingMessage.isRetried PendingMessage.isAbandoned PendingMessage.isDue
    rw [hlast, hretries]
    decide
  have hsecond : (message.retried 12).isRetried 17 ⟨5, 1⟩ = false ∧
      (message.retried 12).isAbandoned 17 ⟨5, 1⟩ = true := by
    unfold PendingMessage.isRetried PendingMessage.isAbandoned PendingMessage.isDue PendingMessage.retried
    rw [hretries]
    exact ⟨rfl, rfl⟩
  obtain ⟨hresend, -, hagain⟩ := sent.2.session.retryAt_swept 12
  have hagain : again.2.waiting = [⟨message.retried 12, outbound⟩] := by
    simp [again, hagain, hpolicy, hwaiting, hfirst, Waiting.swept]
  have hpolicy' : again.2.retry = ⟨5, 1⟩ := rfl
  obtain ⟨hresend', habandoned', -⟩ := again.2.retryAt_swept 17
  refine ⟨outbound, hsent, ?_, ?_, ?_, ?_⟩
  · simp [again, hresend, hpolicy, hwaiting, hfirst]
  · simp [given, hresend', hpolicy', hagain, hsecond]
  · simp [given, habandoned', hpolicy', hagain, hsecond]
  · exact (retry_contract run (List.pairwise_singleton _ _) hsent).2.1

end Runs

end SealedChat
