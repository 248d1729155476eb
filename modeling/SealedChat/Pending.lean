import SealedChat.Settings.Basic
import SealedChat.Bytes.Basic

/-!
# Messages that wait for an acknowledgement

Every message that was sent is kept until the server acknowledges its id. A sweep looks for messages
whose last attempt is long ago: they are sent again until their retries are used up, and then given up.
-/

namespace SealedChat

/-! ### When to send again -/

/-- How long to wait for an acknowledgement, and how often to send again. -/
structure RetryPolicy where
  timeout : Int64
  maxRetries : UInt32
  deriving DecidableEq, Repr

namespace RetryPolicy

/-- The greatest time. -/
def greatestTime : Int64 := Int64.maxValue

/-- The policy that settings ask for. A timeout beyond the greatest time is the greatest time. -/
def ofSettings (settings : SessionSettings) : RetryPolicy where
  timeout :=
    if settings.retryTimeout.toNat < 2 ^ 63 then settings.retryTimeout.toInt64 else greatestTime
  maxRetries := settings.maxRetries

/-- The policy of the default settings. -/
def standard : RetryPolicy := ofSettings {}

end RetryPolicy

/-- The seconds from one time to another, but no more and no less than there are times for. -/
def elapsed (since now : Int64) : Int64 :=
  Int64.ofInt (max (-2 ^ 63) (min (2 ^ 63 - 1) (now.toInt - since.toInt)))

theorem toInt_elapsed (since now : Int64) :
    (elapsed since now).toInt = max (-2 ^ 63) (min (2 ^ 63 - 1) (now.toInt - since.toInt)) := by
  rw [elapsed, Int64.toInt_ofInt_of_le (by omega) (by omega)]

/-! ### Messages -/

/-- A message that was sent and is not acknowledged. -/
structure PendingMessage where
  messageId : String
  content : String
  /-- When it was sent first. -/
  sentAt : Int64
  /-- When it was sent last. -/
  lastAttempt : Int64
  sequence : UInt64
  /-- The sealed message, which is the same in every attempt. -/
  ciphertext : Bytes
  /-- How often it was sent again. -/
  retries : UInt32
  deriving DecidableEq

namespace PendingMessage

/-- A message that is sent now. -/
def new (messageId content : String) (sequence : UInt64) (ciphertext : Bytes) (now : Int64) :
    PendingMessage :=
  { messageId, content, sentAt := now, lastAttempt := now, sequence, ciphertext, retries := 0 }

/-- Whether the last attempt is long ago. -/
def isDue (message : PendingMessage) (now : Int64) (policy : RetryPolicy) : Bool :=
  policy.timeout ≤ elapsed message.lastAttempt now

/-- Whether a sweep sends the message again. -/
def isRetried (message : PendingMessage) (now : Int64) (policy : RetryPolicy) : Bool :=
  message.isDue now policy && message.retries < policy.maxRetries

/-- Whether a sweep gives the message up. -/
def isAbandoned (message : PendingMessage) (now : Int64) (policy : RetryPolicy) : Bool :=
  message.isDue now policy && !(message.retries < policy.maxRetries)

/-- The message after it was sent again. -/
def retried (message : PendingMessage) (now : Int64) : PendingMessage :=
  { message with retries := message.retries + 1, lastAttempt := now }

end PendingMessage

/-! ### The queue -/

/-- Messages in the order in which they were sent. -/
structure PendingQueue where
  messages : List PendingMessage := []
  deriving DecidableEq

/-- What a sweep finds. -/
structure Sweep where
  /-- Messages to send again, as they are after the attempt. -/
  resend : List PendingMessage := []
  /-- Messages that were given up. -/
  abandoned : List PendingMessage := []
  deriving DecidableEq

/-- Takes up the next message in a sweep that has found something and kept some messages. -/
def Sweep.takeUp (now : Int64) (policy : RetryPolicy) (before : Sweep × List PendingMessage)
    (message : PendingMessage) : Sweep × List PendingMessage :=
  let (sweep, kept) := before
  if !message.isDue now policy then (sweep, kept ++ [message])
  else if message.retries < policy.maxRetries then
    let again := message.retried now
    ({ sweep with resend := sweep.resend ++ [again] }, kept ++ [again])
  else ({ sweep with abandoned := sweep.abandoned ++ [message] }, kept)

namespace PendingQueue

/-- The queue with one more message at its end. -/
def push (queue : PendingQueue) (message : PendingMessage) : PendingQueue :=
  ⟨queue.messages ++ [message]⟩

/-- The first message with an id. -/
def find? (queue : PendingQueue) (messageId : String) : Option PendingMessage :=
  queue.messages.find? (·.messageId == messageId)

/-- Takes out the first message with an id. -/
def acknowledge (queue : PendingQueue) (messageId : String) : Option PendingMessage × PendingQueue :=
  (queue.find? messageId, ⟨queue.messages.eraseP (·.messageId == messageId)⟩)

/-- Sends again or gives up every message that is due, one after the other. -/
def sweep (queue : PendingQueue) (now : Int64) (policy : RetryPolicy) : Sweep × PendingQueue :=
  let (sweep, kept) := queue.messages.foldl (Sweep.takeUp now policy) ({}, [])
  (sweep, ⟨kept⟩)

end PendingQueue

end SealedChat
