import SealedChat.Session.Basic

/-!
# The retry task

A task sweeps a shared session at regular intervals and hands the frames to be sent again to a sink of
limited room. Before each frame is handed over it is looked up once more: one that was acknowledged or
left behind meanwhile is skipped. A frame that was looked up and then waits for room is handed over
whatever happens to its message. The task ends when it finds the sink closed.
-/

namespace SealedChat

/-! ### Sinks -/

/-- A queue of frames with limited room, whose receiver may be gone. -/
structure Sink where
  capacity : Nat
  frames : List Bytes := []
  closed : Bool := false
  deriving DecidableEq

namespace Sink

/-- Whether there is room for one more frame. -/
def hasRoom (sink : Sink) : Bool := sink.frames.length < sink.capacity

/-- The sink with one more frame. -/
def push (sink : Sink) (frame : Bytes) : Sink := { sink with frames := sink.frames ++ [frame] }

end Sink

/-! ### Tasks -/

/-- What a task is about to do. -/
inductive Phase where
  /-- Wait for the next tick. -/
  | waiting
  /-- Look up the first of these messages. -/
  | checking (outbound : List Outbound)
  /-- Hand over a message that was looked up; others follow. -/
  | handing (outbound : Outbound) (rest : List Outbound)
  | finished
  deriving DecidableEq

/-- A task on a timer that counts milliseconds. -/
structure RetryTask where
  /-- The interval between ticks. -/
  period : Nat
  /-- When the next tick is due. -/
  due : Nat
  phase : Phase
  sink : Sink
  deriving DecidableEq

namespace RetryTask

/-- How late a tick may be and still count from when it was due. -/
def tolerance : Nat := 5

/-- A task whose first tick is due at once. Without an interval between ticks there is no timer, and the
task is over before it starts. -/
def start (period time : Nat) (sink : Sink) : RetryTask :=
  ⟨period, time, if period = 0 then .finished else .waiting, sink⟩

/-- When the tick after one that comes at `time` is due: an interval after this one was due, or after
now if this one is late. -/
def nextDue (task : RetryTask) (time : Nat) : Nat :=
  if task.due + tolerance < time then time + task.period else task.due + task.period

/-- The next step of a task at a time of the timer and a time of the clock; none if it has to wait. A
step takes the lock of the session at most once. -/
def step (task : RetryTask) (time : Nat) (now : Int64) (session : Session) :
    Option (RetryTask × Session) :=
  match task.phase with
  | .waiting =>
    if time < task.due then none
    else
      let task := { task with due := task.nextDue time }
      if task.sink.closed then some ({ task with phase := .finished }, session)
      else
        let (sweep, session) := session.retryAt now
        some ({ task with phase := .checking sweep.resend }, session)
  | .checking [] => some ({ task with phase := .waiting }, session)
  | .checking (outbound :: rest) =>
    if session.isPending outbound.messageId then some ({ task with phase := .handing outbound rest }, session)
    else some ({ task with phase := .checking rest }, session)
  | .handing outbound rest =>
    if task.sink.closed then some ({ task with phase := .finished }, session)
    else if task.sink.hasRoom then
      some ({ task with phase := .checking rest, sink := task.sink.push outbound.frame }, session)
    else none
  | .finished => none

/-- Runs a task until it has to wait, as far as `fuel` steps. -/
def settleFrom (time : Nat) (now : Int64) : (fuel : Nat) → RetryTask → Session → RetryTask × Session
  | 0, task, session => (task, session)
  | fuel + 1, task, session =>
    match task.step time now session with
    | some (task, session) => settleFrom time now fuel task session
    | none => (task, session)

/-- Frames that a task has still to look up or to hand over. -/
def backlog (task : RetryTask) : Nat :=
  match task.phase with
  | .checking outbound => outbound.length
  | .handing _ rest => rest.length + 1
  | _ => 0

/-- How many messages of a session wait for acknowledgement. -/
def pendingCount (session : Session) : Nat :=
  (session.chat.map fun chat => chat.pending.messages.length).getD 0

/-- Steps that a task may take at one moment: two for each frame that is left, and a round for every tick
that is due. A tick that is not late moves the next one on, so there is no more than one of them for every
millisecond of tolerance and one for now; a late tick is the last. -/
def stepsAtOnce (task : RetryTask) (session : Session) : Nat :=
  2 * task.backlog + 2 + (tolerance + 2) * (2 * pendingCount session + 2)

/-- Runs a task until it has to wait. -/
def settle (time : Nat) (now : Int64) (task : RetryTask) (session : Session) : RetryTask × Session :=
  settleFrom time now (stepsAtOnce task session) task session

/-- The first moment after `time` at which a task can take a step, if nobody touches its sink. -/
def wakesAt? (task : RetryTask) (time : Nat) : Option Nat :=
  match task.phase with
  | .waiting => some (max task.due (time + 1))
  | .checking _ => some (time + 1)
  | .handing _ _ => if task.sink.closed || task.sink.hasRoom then some (time + 1) else none
  | .finished => none

/-- A task wakes in the future. -/
theorem lt_of_wakesAt? {task : RetryTask} {time next : Nat} (h : task.wakesAt? time = some next) :
    time < next := by
  unfold wakesAt? at h
  split at h
  · cases h; omega
  · cases h; omega
  · split at h
    · cases h; omega
    · cases h
  · cases h

/-- Lets the timer go on from `time` to `stop`; the task runs whenever it wakes. -/
def elapse (now : Int64) (time stop : Nat) (task : RetryTask) (session : Session) : RetryTask × Session :=
  match _wakes : task.wakesAt? time with
  | none => (task, session)
  | some next =>
    if next ≤ stop then
      let (task, session) := settle next now task session
      elapse now next stop task session
    else (task, session)
termination_by stop - time
decreasing_by
  have := lt_of_wakesAt? _wakes
  omega

/-- A task takes no step before it wakes. -/
theorem step_eq_none_of_lt_wakesAt {task : RetryTask} {time moment : Nat} (now : Int64) (session : Session)
    (h : time < moment) (before : ∀ next, task.wakesAt? time = some next → moment < next) :
    task.step moment now session = none := by
  unfold wakesAt? at before
  unfold step
  split <;> rename_i phase <;> simp only [phase] at before
  · have := before _ rfl
    rw [if_pos (by omega)]
  · have := before _ rfl
    omega
  · have := before _ rfl
    omega
  · by_cases closed : task.sink.closed = true
    · have := before _ (by simp [closed]; rfl)
      omega
    · by_cases room : task.sink.hasRoom = true
      · have := before _ (by simp [room]; rfl)
        omega
      · simp [closed, room]
  · rfl

/-- A task that has not woken by a later moment wakes when it would have. -/
theorem wakesAt?_of_le {task : RetryTask} {time later : Nat} (h : time ≤ later)
    (before : ∀ next, task.wakesAt? time = some next → later < next) :
    task.wakesAt? later = task.wakesAt? time := by
  unfold wakesAt? at before ⊢
  split <;> rename_i phase <;> simp only [phase] at before
  · have := before _ rfl
    congr 1
    omega
  · have := before _ rfl
    rw [show later = time by omega]
  · split at before
    · have := before _ rfl
      rw [show later = time by omega]
    · rename_i blocked
      rw [if_neg blocked, if_neg blocked]
  · rfl

/-- It does not matter whether the timer goes on at once or pauses on the way. -/
theorem elapse_trans (now : Int64) {time middle stop : Nat} (task : RetryTask) (session : Session)
    (h : time ≤ middle) (h' : middle ≤ stop) :
    elapse now middle stop (elapse now time middle task session).1 (elapse now time middle task session).2 =
      elapse now time stop task session := by
  fun_induction elapse now time middle task session with
  | case1 time task session asleep =>
    have same : task.wakesAt? middle = task.wakesAt? time := wakesAt?_of_le h (by simp [asleep])
    rw [elapse, elapse, same, asleep]
  | case2 time task session next wakes inside woken session' eq ih =>
    have unfolded : elapse now time stop task session = elapse now next stop woken session' := by
      rw [elapse, wakes]
      simp only [if_pos (Nat.le_trans inside h'), eq]
    rw [unfolded, ih inside]
  | case3 time task session next wakes outside =>
    have same : task.wakesAt? middle = task.wakesAt? time :=
      wakesAt?_of_le h fun _ found => by rw [wakes] at found; cases found; omega
    rw [elapse, elapse, same, wakes]

/-- Takes up to `count` frames out of the sink; the task runs after each. -/
def receive (time : Nat) (now : Int64) :
    (count : Nat) → RetryTask → Session → List Bytes × RetryTask × Session
  | 0, task, session => ([], task, session)
  | count + 1, task, session =>
    match task.sink.frames with
    | [] => ([], task, session)
    | frame :: frames =>
      let (task, session) := settle time now { task with sink := { task.sink with frames } } session
      let (taken, task, session) := receive time now count task session
      (frame :: taken, task, session)

/-- The task after the receiver of its sink has gone, with all frames that were left. -/
def close (task : RetryTask) : RetryTask := { task with sink := { task.sink with frames := [], closed := true } }

end RetryTask

end SealedChat
