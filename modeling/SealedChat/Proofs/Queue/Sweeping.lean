import SealedChat.Proofs.Pending

/-!
# What a sweep does to a queue

A sweep takes up the messages of a queue one after the other, on a clock with a first and a last time and with a timeout
that may be beyond the last. What it comes to is told on a count of seconds without end (`PendingMessage.Late`): every
message stays where it was, unless it is late and has no attempts left, and the late ones that have some are sent again
(`sweep_exact`). A second sweep at the same time finds nothing.
-/

namespace SealedChat

/-! ### Which messages are late -/

/-- The last attempt to send a message is as long ago as the settings say, or as there are seconds. -/
def PendingMessage.Late (settings : SessionSettings) (now : Int64) (message : PendingMessage) : Prop :=
  min (settings.retryTimeout.toNat : Int) (2 ^ 63 - 1) ≤ now.toInt - message.lastAttempt.toInt

instance (settings : SessionSettings) (now : Int64) : DecidablePred (PendingMessage.Late settings now) := by
  intro message
  unfold PendingMessage.Late
  infer_instance

namespace PendingMessage

variable {settings : SessionSettings} {now : Int64} {message : PendingMessage} {policy : RetryPolicy}

lemma isDue_ofSettings_iff : message.isDue now (.ofSettings settings) = true ↔ message.Late settings now := by
  rw [isDue_iff, RetryPolicy.toInt_timeout, Late]
  rw [RetryPolicy.toInt_timeout]
  omega

lemma isRetried_ofSettings : message.isRetried now (.ofSettings settings) =
    decide (message.Late settings now ∧ message.retries < settings.maxRetries) := by
  rw [Bool.eq_iff_iff, isRetried_iff, isDue_ofSettings_iff, decide_eq_true_iff, UInt32.lt_iff_toNat_lt]
  rfl

lemma isAbandoned_ofSettings : message.isAbandoned now (.ofSettings settings) =
    decide (message.Late settings now ∧ settings.maxRetries ≤ message.retries) := by
  rw [Bool.eq_iff_iff, isAbandoned_iff, isDue_ofSettings_iff, decide_eq_true_iff, UInt32.le_iff_toNat_le]
  rfl

/-- A message that was just sent again is not due, if there is any time to wait. -/
lemma isDue_retried (h : 0 < policy.timeout.toInt) : (message.retried now).isDue now policy = false := by
  rw [← Bool.not_eq_true, isDue_iff (Int.le_of_lt h)]
  have hattempt : (message.retried now).lastAttempt = now := rfl
  rw [hattempt]
  omega

end PendingMessage

/-! ### A sweep that finds nothing -/

lemma Sweep.foldl_takeUp_of_early {now : Int64} {policy : RetryPolicy} {messages : List PendingMessage}
    (h : ∀ message ∈ messages, message.isDue now policy = false) (sweep : Sweep) (kept : List PendingMessage) :
    messages.foldl (takeUp now policy) (sweep, kept) = (sweep, kept ++ messages) := by
  induction messages generalizing kept with
  | nil => rw [List.foldl_nil, List.append_nil]
  | cons message messages ih =>
    obtain ⟨early, h⟩ := List.forall_mem_cons.1 h
    rw [List.foldl_cons, takeUp_of_early early, ih h, List.append_assoc, List.singleton_append]

namespace PendingQueue

variable {queue : PendingQueue} {now : Int64} {policy : RetryPolicy}

/-- A sweep finds nothing if no message is due. -/
lemma sweep_of_early (h : ∀ message ∈ queue.messages, message.isDue now policy = false) :
    queue.sweep now policy = ({}, queue) := by
  unfold sweep
  rw [Sweep.foldl_takeUp_of_early h]
  rfl

/-- What a sweep leaves is not due any more, if there is any time to wait. -/
lemma isDue_of_mem_sweep (h : 0 < policy.timeout.toInt) {message : PendingMessage}
    (hmem : message ∈ (queue.sweep now policy).2.messages) : message.isDue now policy = false := by
  rw [sweep_eq] at hmem
  obtain ⟨before, hbefore, rfl⟩ := List.mem_map.1 hmem
  have unabandoned : before.isAbandoned now policy = false := by simpa using (List.mem_filter.1 hbefore).2
  cases hretried : before.isRetried now policy with
  | true => exact PendingMessage.isDue_retried h
  | false => exact PendingMessage.isDue_eq_false hretried unabandoned

end PendingQueue

/-! ### What a sweep does -/

/-- **A sweep parts a queue in three.** It gives up the late messages that have no attempts left, as they are; it sends
the other late ones again, which counts as one attempt more at this time; and all but those that it gives up stay in
their order, the late ones as they were sent again. No time to wait that settings may ask for is cut short or missed at
the ends of the clock, and no attempt is counted beyond the last number. If there is any time to wait, another sweep at
the same time finds nothing and changes nothing. -/
theorem sweep_exact (settings : SessionSettings) (queue : PendingQueue) (now : Int64) :
    let policy := RetryPolicy.ofSettings settings
    let swept := queue.sweep now policy
    let again (message : PendingMessage) := { message with retries := message.retries + 1, lastAttempt := now }
    (∀ message : PendingMessage, message.isDue now policy = true ↔ message.Late settings now) ∧
    swept.1.abandoned = queue.messages.filter (fun message =>
      message.Late settings now ∧ settings.maxRetries ≤ message.retries) ∧
    swept.1.resend = (queue.messages.filter fun message =>
      message.Late settings now ∧ message.retries < settings.maxRetries).map again ∧
    (∀ message : PendingMessage, message.retries < settings.maxRetries →
      (again message).retries.toNat = message.retries.toNat + 1) ∧
    swept.2.messages = queue.messages.filterMap (fun message =>
      if message.Late settings now then
        if message.retries < settings.maxRetries then some (again message) else none
      else some message) ∧
    (1 ≤ settings.retryTimeout → swept.2.sweep now policy = ({}, swept.2)) := by
  intro policy swept again
  have hswept : swept = queue.sweep now policy := rfl
  rw [PendingQueue.sweep_eq] at hswept
  simp only [policy, PendingMessage.isRetried_ofSettings, PendingMessage.isAbandoned_ofSettings] at hswept
  refine ⟨fun message => PendingMessage.isDue_ofSettings_iff, ?_, ?_, ?_, ?_, ?_⟩
  · rw [hswept]
  · rw [hswept]
    rfl
  · intro message hlt
    exact PendingMessage.toNat_retries_add_one hlt
  · rw [hswept]
    dsimp only
    rw [← List.filterMap_eq_map, List.filterMap_filter]
    refine List.filterMap_congr ?_
    intro message _
    by_cases hlate : message.Late settings now
    · by_cases hlt : message.retries < settings.maxRetries
      · simp [hlate, hlt, again, PendingMessage.retried]
      · simp [hlate, hlt, UInt32.not_lt.1 hlt]
    · simp [hlate]
  · intro wait
    refine PendingQueue.sweep_of_early ?_
    intro message hmem
    refine PendingQueue.isDue_of_mem_sweep ?_ hmem
    rw [RetryPolicy.toInt_timeout]
    have := UInt64.le_iff_toNat_le.1 wait
    have hone : (1 : UInt64).toNat = 1 := rfl
    omega

/-- Three messages at the last second of the clock, when a message may wait for longer than there are seconds: one is
late with an attempt left, one is late without, and one was sent a second too late to be late. -/
theorem sweep_exact_ends :
    let settings : SessionSettings := { retryTimeout := 0xFFFFFFFFFFFFFFFF, maxRetries := 1 }
    let message (messageId : String) (lastAttempt : Int64) (retries : UInt32) : PendingMessage :=
      ⟨messageId, "hello", lastAttempt, lastAttempt, 0, [], retries⟩
    let queue : PendingQueue := ⟨[message "late" 0 0, message "spent" (-8) 1, message "early" 1 0]⟩
    let swept := queue.sweep Int64.maxValue (.ofSettings settings)
    swept.1.resend.map (·.messageId) = ["late"] ∧ swept.1.abandoned.map (·.messageId) = ["spent"] ∧
      swept.2.messages.map (·.messageId) = ["late", "early"] ∧
      swept.2.sweep Int64.maxValue (.ofSettings settings) = ({}, swept.2) := by
  intro settings message queue swept
  obtain ⟨-, habandoned, hresend, -, hkept, htwice⟩ := sweep_exact settings queue Int64.maxValue
  refine ⟨?_, ?_, ?_, htwice (by decide)⟩
  · rw [hresend]
    decide
  · rw [habandoned]
    decide
  · rw [hkept]
    decide

end SealedChat
