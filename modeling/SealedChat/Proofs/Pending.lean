import Mathlib.Data.List.Forall2
import Mathlib.Tactic.Lemma
import SealedChat.Pending
import SealedChat.Proofs.Lists

/-!
# What happens to messages that wait

Messages are taken out of the queue, and messages that stay are sent again; their order, their numbers and
what they say do not change, and no message is sent again more often than the policy has it
(`PendingQueue.Thins`).
-/

namespace SealedChat

/-- The message before and behind an attempt: only the attempts differ, and there are not too many. -/
structure PendingMessage.Kept (maxRetries : UInt32) (before after : PendingMessage) : Prop where
  content : after.content = before.content
  sequence : after.sequence = before.sequence
  ciphertext : after.ciphertext = before.ciphertext
  retries : before.retries ≤ maxRetries → after.retries ≤ maxRetries

/-- The timeout that settings ask for, as long as there are times for it. -/
lemma RetryPolicy.toInt_timeout (settings : SessionSettings) :
    (ofSettings settings).timeout.toInt = min (settings.retryTimeout.toNat : Int) (2 ^ 63 - 1) := by
  unfold ofSettings
  split
  · rename_i h
    have hbits : 2 * settings.retryTimeout.toBitVec.toNat < 2 ^ 64 := by
      rw [UInt64.toNat_toBitVec]
      omega
    rw [← Int64.toInt_toBitVec, UInt64.toBitVec_toInt64, BitVec.toInt_eq_toNat_of_lt hbits, UInt64.toNat_toBitVec]
    omega
  · rename_i h
    have : greatestTime.toInt = 2 ^ 63 - 1 := by decide
    rw [this]
    omega

namespace PendingMessage

variable {message : PendingMessage} {now : Int64} {policy : RetryPolicy}

lemma Kept.refl (maxRetries : UInt32) (message : PendingMessage) : Kept maxRetries message message :=
  ⟨rfl, rfl, rfl, id⟩

lemma isRetried_iff : message.isRetried now policy = true ↔
    message.isDue now policy = true ∧ message.retries.toNat < policy.maxRetries.toNat := by
  unfold isRetried
  rw [Bool.and_eq_true_iff, decide_eq_true_iff, UInt32.lt_iff_toNat_lt]

lemma isAbandoned_iff : message.isAbandoned now policy = true ↔
    message.isDue now policy = true ∧ policy.maxRetries.toNat ≤ message.retries.toNat := by
  unfold isAbandoned
  rw [Bool.and_eq_true_iff, Bool.not_eq_true', decide_eq_false_iff_not, UInt32.lt_iff_toNat_lt, Nat.not_lt]

/-- A message that is neither sent again nor given up is not due. -/
lemma isDue_eq_false (retried : message.isRetried now policy = false) (abandoned : message.isAbandoned now policy = false) :
    message.isDue now policy = false := by
  unfold isRetried at retried
  unfold isAbandoned at abandoned
  cases hdue : message.isDue now policy with
  | false => rfl
  | true =>
    rw [hdue, Bool.true_and] at retried abandoned
    rw [retried] at abandoned
    cases abandoned

/-- No message is both sent again and given up. -/
lemma isAbandoned_eq_false (retried : message.isRetried now policy = true) : message.isAbandoned now policy = false := by
  obtain ⟨-, hlt⟩ := isRetried_iff.1 retried
  rw [← Bool.not_eq_true, isAbandoned_iff]
  omega

/-- There is a number for one attempt more, as long as it is not one too many. -/
lemma toNat_retries_add_one {retries maxRetries : UInt32} (h : retries < maxRetries) :
    (retries + 1).toNat = retries.toNat + 1 := by
  have hlt := UInt32.lt_iff_toNat_lt.1 h
  have := maxRetries.toNat_lt
  rw [UInt32.toNat_add, Nat.mod_eq_of_lt (by simp; omega)]
  rfl

lemma toNat_retries_retried (h : message.isRetried now policy = true) :
    (message.retried now).retries.toNat = message.retries.toNat + 1 :=
  toNat_retries_add_one (UInt32.lt_iff_toNat_lt.2 (isRetried_iff.1 h).2)

/-- Times are compared as if there were times without end, for as long as no policy waits for less than no
time. -/
lemma isDue_iff (h : 0 ≤ policy.timeout.toInt) : message.isDue now policy = true ↔
    policy.timeout.toInt ≤ now.toInt - message.lastAttempt.toInt := by
  have hlt := policy.timeout.toInt_lt
  unfold isDue
  rw [decide_eq_true_iff, Int64.le_iff_toInt_le, toInt_elapsed]
  omega

lemma kept_retried (h : message.isRetried now policy = true) :
    Kept policy.maxRetries message (message.retried now) := by
  refine ⟨rfl, rfl, rfl, ?_⟩
  intro _
  have hlt := (isRetried_iff.1 h).2
  rw [UInt32.le_iff_toNat_le, toNat_retries_retried h]
  exact hlt

end PendingMessage

/-! ### Acknowledgements -/

/-- **An acknowledgement takes out the earliest message with its id**, the one that is found under it, and nothing if
there is none. -/
theorem PendingQueue.acknowledge_cases (queue : PendingQueue) (messageId : String) :
    (∃ before message behind, queue.messages = before ++ message :: behind ∧ message.messageId = messageId ∧
      (∀ earlier ∈ before, earlier.messageId ≠ messageId) ∧ queue.find? messageId = some message ∧
      queue.acknowledge messageId = (some message, ⟨before ++ behind⟩)) ∨
    ((∀ message ∈ queue.messages, message.messageId ≠ messageId) ∧ queue.find? messageId = none ∧
      queue.acknowledge messageId = (none, queue)) := by
  unfold acknowledge
  cases hfound : queue.find? messageId with
  | some message =>
    obtain ⟨hid, before, behind, hsplit, hbefore⟩ := List.find?_eq_some_iff_append.1 hfound
    have hfirst : ∀ earlier ∈ before, ¬ (earlier.messageId == messageId) = true := by
      intro earlier hmem
      simpa using hbefore earlier hmem
    refine .inl ⟨before, message, behind, hsplit, eq_of_beq hid, ?_, rfl, ?_⟩
    · intro earlier hmem heq
      exact hfirst earlier hmem (beq_iff_eq.2 heq)
    · rw [hsplit, List.eraseP_append_right _ hfirst, List.eraseP_cons, hid, cond_true]
  | none =>
    have habsent : ∀ message ∈ queue.messages, ¬ (message.messageId == messageId) = true := List.find?_eq_none.1 hfound
    refine .inr ⟨?_, rfl, ?_⟩
    · intro message hmem heq
      exact habsent message hmem (beq_iff_eq.2 heq)
    · rw [List.eraseP_of_forall_not habsent]

/-! ### Sweeps -/

section TakeUp

variable {now : Int64} {policy : RetryPolicy} {message : PendingMessage} {messages : List PendingMessage}

lemma Sweep.takeUp_of_retried (h : message.isRetried now policy = true) (sweep : Sweep) (kept : List PendingMessage) :
    takeUp now policy (sweep, kept) message =
      ({ sweep with resend := sweep.resend ++ [message.retried now] }, kept ++ [message.retried now]) := by
  obtain ⟨hdue, hlt⟩ := PendingMessage.isRetried_iff.1 h
  rw [← UInt32.lt_iff_toNat_lt] at hlt
  simp only [takeUp, hdue, hlt, Bool.not_true, Bool.false_eq_true, if_false, if_true]

lemma Sweep.takeUp_of_abandoned (h : message.isAbandoned now policy = true) (sweep : Sweep)
    (kept : List PendingMessage) :
    takeUp now policy (sweep, kept) message = ({ sweep with abandoned := sweep.abandoned ++ [message] }, kept) := by
  obtain ⟨hdue, hle⟩ := PendingMessage.isAbandoned_iff.1 h
  have hlt : ¬ message.retries < policy.maxRetries := by
    rw [UInt32.lt_iff_toNat_lt]
    omega
  simp only [takeUp, hdue, hlt, Bool.not_true, Bool.false_eq_true, if_false]

lemma Sweep.takeUp_of_early (h : message.isDue now policy = false) (sweep : Sweep) (kept : List PendingMessage) :
    takeUp now policy (sweep, kept) message = (sweep, kept ++ [message]) := by
  simp only [takeUp, h, Bool.not_false, if_true]

/-- **What a sweep comes to when it has taken up all messages**, one after the other: each of them is sent again, given
up, or left alone, and those that stay keep their places. -/
theorem Sweep.foldl_takeUp (messages : List PendingMessage) (sweep : Sweep) (kept : List PendingMessage) :
    messages.foldl (takeUp now policy) (sweep, kept) =
      (⟨sweep.resend ++ (messages.filter (·.isRetried now policy)).map (·.retried now),
        sweep.abandoned ++ messages.filter (·.isAbandoned now policy)⟩,
       kept ++ (messages.filter fun message => !message.isAbandoned now policy).map fun message =>
        if message.isRetried now policy then message.retried now else message) := by
  induction messages generalizing sweep kept with
  | nil => simp
  | cons message messages ih =>
    rw [List.foldl_cons]
    cases hretried : message.isRetried now policy with
    | true =>
      have habandoned := PendingMessage.isAbandoned_eq_false hretried
      rw [takeUp_of_retried hretried, ih]
      simp [hretried, habandoned]
    | false =>
      cases habandoned : message.isAbandoned now policy with
      | true =>
        rw [takeUp_of_abandoned habandoned, ih]
        simp [hretried, habandoned]
      | false =>
        rw [takeUp_of_early (PendingMessage.isDue_eq_false hretried habandoned), ih]
        simp [hretried, habandoned]

end TakeUp

namespace PendingQueue

/-- What a sweep sends again, what it gives up, and what stays. -/
lemma sweep_eq (queue : PendingQueue) (now : Int64) (policy : RetryPolicy) :
    queue.sweep now policy =
      (⟨(queue.messages.filter (·.isRetried now policy)).map (·.retried now),
        queue.messages.filter (·.isAbandoned now policy)⟩,
       ⟨(queue.messages.filter fun message => !message.isAbandoned now policy).map fun message =>
        if message.isRetried now policy then message.retried now else message⟩) := by
  unfold sweep
  rw [Sweep.foldl_takeUp]
  rfl

/-- A queue from which messages were taken out, and in which others may have been sent again. -/
def Thins (maxRetries : UInt32) (queue queue' : PendingQueue) : Prop :=
  ∃ kept, kept.Sublist queue.messages ∧ List.Forall₂ (PendingMessage.Kept maxRetries) kept queue'.messages

lemma acknowledge_thins (maxRetries : UInt32) (queue : PendingQueue) (messageId : String) :
    Thins maxRetries queue (queue.acknowledge messageId).2 := by
  refine ⟨_, List.eraseP_sublist, List.forall₂_same.2 ?_⟩
  intro message _
  exact .refl maxRetries message

lemma sweep_thins (queue : PendingQueue) (now : Int64) (policy : RetryPolicy) :
    Thins policy.maxRetries queue (queue.sweep now policy).2 := by
  rw [sweep_eq]
  refine ⟨_, List.filter_sublist, List.forall₂_map_right_iff.2 (List.forall₂_same.2 ?_)⟩
  intro message _
  by_cases h : message.isRetried now policy = true
  · rw [if_pos h]
    exact PendingMessage.kept_retried h
  · rw [if_neg h]
    exact .refl policy.maxRetries message

section Kept

variable {maxRetries : UInt32} {kept messages : List PendingMessage}

lemma sequences_of_forall₂_kept (h : List.Forall₂ (PendingMessage.Kept maxRetries) kept messages) :
    messages.map (·.sequence) = kept.map (·.sequence) := by
  induction h with
  | nil => rfl
  | cons hr _ ih => rw [List.map_cons, List.map_cons, hr.sequence, ih]

end Kept

namespace Thins

variable {maxRetries : UInt32} {queue queue' : PendingQueue}

/-- Every message of the thinner queue was there before. -/
lemma exists_kept (h : Thins maxRetries queue queue') {message : PendingMessage} (hmem : message ∈ queue'.messages) :
    ∃ before ∈ queue.messages, PendingMessage.Kept maxRetries before message := by
  obtain ⟨kept, hsub, hkept⟩ := h
  obtain ⟨before, hbefore, h⟩ := exists_mem_of_forall₂ hkept message hmem
  exact ⟨before, hsub.mem hbefore, h⟩

/-- The numbers of the messages stay in their order. -/
lemma sequences (h : Thins maxRetries queue queue') :
    (queue'.messages.map (·.sequence)).Sublist (queue.messages.map (·.sequence)) := by
  obtain ⟨kept, hsub, hkept⟩ := h
  rw [sequences_of_forall₂_kept hkept]
  exact hsub.map _

/-- What ties the messages of a queue to the entries of a list, in order, ties those that stay. -/
lemma sublistForall₂ {α : Type} {R : PendingMessage → α → Prop} {entries : List α}
    (h : Thins maxRetries queue queue')
    (hR : ∀ before after a, PendingMessage.Kept maxRetries before after → R before a → R after a)
    (tied : List.SublistForall₂ R queue.messages entries) : List.SublistForall₂ R queue'.messages entries := by
  obtain ⟨kept, hsub, hkept⟩ := h
  obtain ⟨messages⟩ := queue
  obtain ⟨messages'⟩ := queue'
  simp only at *
  -- the entries are walked; `kept` and `messages'` lose their heads together
  induction tied generalizing kept messages' with
  | nil =>
    obtain rfl := List.sublist_nil.1 hsub
    obtain rfl := List.forall₂_nil_left_iff.1 hkept
    exact .nil
  | cons hr _ ih =>
    cases hsub with
    | cons _ hsub => exact .cons_right (ih kept hsub messages' hkept)
    | cons_cons _ hsub =>
      obtain ⟨after, rest, hk, hrest, rfl⟩ := List.forall₂_cons_left_iff.1 hkept
      exact .cons (hR _ _ _ hk hr) (ih _ hsub rest hrest)
  | cons_right _ ih => exact .cons_right (ih kept hsub messages' hkept)

end Thins

end PendingQueue

end SealedChat
