import Mathlib.Algebra.Order.Group.Multiset
import Mathlib.Tactic.Abel
import SealedChat.Proofs.Pending

/-!
# What becomes of the messages of a queue

Whatever is done with a queue that was empty at first, an account is kept of the messages that were put into it, of
those that were taken out because they were acknowledged, and of those that were given up (`Ledger`). Attempts change
nothing of a message but their own time and number, so messages are compared as they were sent first. No message is lost
and none is made up, whether or not ids are used twice (`ledger_balanced`).
-/

namespace SealedChat

/-! ### Messages as they were sent first -/

/-- The message as it was when it was sent first. -/
def PendingMessage.original (message : PendingMessage) : PendingMessage :=
  .new message.messageId message.content message.sequence message.ciphertext message.sentAt

/-- Messages as they were when they were sent first, in no order. -/
def originals (messages : List PendingMessage) : Multiset PendingMessage := ↑(messages.map PendingMessage.original)

section Originals

variable (messages messages' : List PendingMessage)

lemma originals_nil : originals [] = 0 := rfl

lemma originals_append : originals (messages ++ messages') = originals messages + originals messages' := by
  unfold originals
  rw [List.map_append, Multiset.coe_add]

lemma originals_cons (message : PendingMessage) :
    originals (message :: messages) = {message.original} + originals messages := rfl

lemma originals_filter (p : PendingMessage → Bool) :
    originals (messages.filter p) + originals (messages.filter fun message => !p message) = originals messages := by
  unfold originals
  rw [Multiset.coe_add, ← List.map_append, Multiset.coe_eq_coe]
  exact (List.filter_append_perm p messages).map _

/-- Whether a message was sent again or not, it is still the one that was sent first. -/
lemma map_original_swept (now : Int64) (policy : RetryPolicy) :
    (messages.map fun message => if message.isRetried now policy then message.retried now else message).map
      PendingMessage.original = messages.map PendingMessage.original := by
  rw [List.map_map]
  refine List.map_congr_left ?_
  intro message _
  show PendingMessage.original (if _ then _ else _) = _
  split <;> rfl

lemma originals_swept (now : Int64) (policy : RetryPolicy) :
    originals (messages.map fun message => if message.isRetried now policy then message.retried now else message) =
      originals messages := by
  unfold originals
  rw [map_original_swept]

end Originals

/-! ### The account -/

/-- Something that is done with a queue. -/
inductive QueueAct where
  | push (message : PendingMessage)
  | acknowledge (messageId : String)
  | sweep (now : Int64) (policy : RetryPolicy)
  deriving DecidableEq

/-- A queue, and an account of the messages that were put into it, that came out of it as acknowledged, and that it gave
up. -/
structure Ledger where
  queue : PendingQueue := {}
  pushed : List PendingMessage := []
  acknowledged : List PendingMessage := []
  abandoned : List PendingMessage := []
  deriving DecidableEq

namespace Ledger

/-- Does something with the queue, and enters what comes of it. -/
def enter (ledger : Ledger) : QueueAct → Ledger
  | .push message => { ledger with queue := ledger.queue.push message, pushed := ledger.pushed ++ [message] }
  | .acknowledge messageId =>
    let (found, queue) := ledger.queue.acknowledge messageId
    { ledger with queue, acknowledged := ledger.acknowledged ++ found.toList }
  | .sweep now policy =>
    let (sweep, queue) := ledger.queue.sweep now policy
    { ledger with queue, abandoned := ledger.abandoned ++ sweep.abandoned }

/-- **The account is balanced**: every message that was put into the queue was acknowledged, was given up, or is still
there, and was or is only one of these; and those that are still there stand in the order in which they were put in. -/
structure Balanced (ledger : Ledger) : Prop where
  conserved : originals ledger.pushed =
    originals ledger.acknowledged + originals ledger.abandoned + originals ledger.queue.messages
  inOrder : (ledger.queue.messages.map PendingMessage.original).Sublist (ledger.pushed.map PendingMessage.original)

namespace Balanced

variable {ledger : Ledger}

lemma start : Balanced {} := ⟨rfl, .slnil⟩

lemma push (h : ledger.Balanced) (message : PendingMessage) : (ledger.enter (.push message)).Balanced := by
  constructor
  · simp only [enter, PendingQueue.push, originals_append, h.conserved]
    abel
  · simp only [enter, PendingQueue.push, List.map_append]
    exact h.inOrder.append (.refl _)

lemma acknowledge (h : ledger.Balanced) (messageId : String) : (ledger.enter (.acknowledge messageId)).Balanced := by
  have hconserved := h.conserved
  have hinOrder := h.inOrder
  rcases ledger.queue.acknowledge_cases messageId with
    ⟨before, message, behind, hsplit, -, -, -, hacknowledge⟩ | ⟨-, -, hacknowledge⟩
  · rw [hsplit] at hconserved hinOrder
    constructor
    · simp only [enter, hacknowledge, hconserved, Option.toList_some, originals_append, originals_cons, originals_nil]
      abel
    · simp only [enter, hacknowledge]
      refine .trans (.map _ ?_) hinOrder
      exact (List.sublist_cons_self message behind).append_left before
  · constructor
    · simp only [enter, hacknowledge, hconserved, Option.toList_none, List.append_nil]
    · simp only [enter, hacknowledge]
      exact hinOrder

lemma sweep (h : ledger.Balanced) (now : Int64) (policy : RetryPolicy) :
    (ledger.enter (.sweep now policy)).Balanced := by
  have hparts := originals_filter ledger.queue.messages (·.isAbandoned now policy)
  constructor
  · simp only [enter, PendingQueue.sweep_eq, originals_append, originals_swept, h.conserved]
    rw [← hparts]
    abel
  · simp only [enter, PendingQueue.sweep_eq, map_original_swept]
    exact (List.filter_sublist.map _).trans h.inOrder

/-- Whatever is done with the queue, the account stays balanced. -/
lemma enter (h : ledger.Balanced) (act : QueueAct) : (ledger.enter act).Balanced := by
  cases act with
  | push message => exact h.push message
  | acknowledge messageId => exact h.acknowledge messageId
  | sweep now policy => exact h.sweep now policy

/-- Whatever is done with the queue, and however often, the account stays balanced. -/
lemma foldl (h : ledger.Balanced) (acts : List QueueAct) : (acts.foldl Ledger.enter ledger).Balanced := by
  induction acts generalizing ledger with
  | nil => exact h
  | cons act acts ih => exact ih (h.enter act)

end Balanced

end Ledger

/-! ### What is sent again -/

/-- What a sweep sends again stays in the queue, as it was sent, and in the same order. -/
lemma PendingQueue.resend_sublist (queue : PendingQueue) (now : Int64) (policy : RetryPolicy) :
    (queue.sweep now policy).1.resend.Sublist (queue.sweep now policy).2.messages := by
  rw [sweep_eq]
  -- a message that is sent again stays, and is among those that stay as it is after the attempt
  have hagain : (queue.messages.filter (·.isRetried now policy)).map (·.retried now) =
      (queue.messages.filter (·.isRetried now policy)).map fun message =>
        if message.isRetried now policy then message.retried now else message := by
    refine List.map_congr_left ?_
    intro message hmem
    rw [if_pos (List.mem_filter.1 hmem).2]
  show List.Sublist (List.map _ _) _
  rw [hagain]
  refine .map _ (List.monotone_filter_right _ ?_)
  intro message hretried
  rw [PendingMessage.isAbandoned_eq_false hretried, Bool.not_false]

/-- **Every message that was ever put into a queue has one fate**: it is acknowledged, given up, or still waiting, and
those that wait are in the order in which they were put in, whatever was done with the queue, at whatever times and
under whatever policies. An acknowledgement takes out the earliest message with its id, the one that is found under it,
and changes nothing if there is none; and what a sweep sends again is still in the queue. -/
theorem ledger_balanced (acts : List QueueAct) :
    let ledger := acts.foldl Ledger.enter {}
    ledger.Balanced ∧
    (∀ messageId,
      (∃ before message behind, ledger.queue.messages = before ++ message :: behind ∧ message.messageId = messageId ∧
        (∀ earlier ∈ before, earlier.messageId ≠ messageId) ∧ ledger.queue.find? messageId = some message ∧
        ledger.queue.acknowledge messageId = (some message, ⟨before ++ behind⟩)) ∨
      ((∀ message ∈ ledger.queue.messages, message.messageId ≠ messageId) ∧ ledger.queue.find? messageId = none ∧
        ledger.queue.acknowledge messageId = (none, ledger.queue))) ∧
    ∀ now policy, (ledger.queue.sweep now policy).1.resend.Sublist (ledger.queue.sweep now policy).2.messages := by
  intro ledger
  refine ⟨Ledger.Balanced.start.foldl acts, ?_, ?_⟩
  · intro messageId
    exact ledger.queue.acknowledge_cases messageId
  · intro now policy
    exact ledger.queue.resend_sublist now policy

-- of two messages with one id, the first is acknowledged, and the second is sent again and given up
example :
    let first := PendingMessage.new "m" "one" 0 [] 0
    let second := PendingMessage.new "m" "two" 1 [] 0
    let policy : RetryPolicy := ⟨5, 1⟩
    [.push first, .push second, .acknowledge "m", .sweep 5 policy, .sweep 10 policy].foldl Ledger.enter {} =
      { queue := {}, pushed := [first, second], acknowledged := [first], abandoned := [second.retried 5] } := by
  decide

end SealedChat
