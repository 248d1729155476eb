import SealedChat.Session.Operation

/-!
# Shared sessions

A session may be shared by tasks that run at the same time. Every call holds a lock while it reads or
changes the session. Deriving secrets takes long and is done without the lock: a call that creates or
joins a chat with a code first looks whether the session is free, derives, and then takes the lock once
more, when another call may have taken the chat.
-/

namespace SealedChat

/-- A call on a shared session: what it does in its next locked section, or what it gave back. -/
inductive Call where
  | waiting (operation : Operation)
  | done (reply : Reply)
  deriving DecidableEq

namespace Call

/-- The first section of a call that enters a chat with a code: it reads the session only. -/
def enter (session : Session) (code : String) (operation : Secrets → Operation) : Call :=
  match session.secretsFor code with
  | .ok secrets => .waiting (operation secrets)
  | .error fault => .done (.refused fault)

/-- The next locked section of a call. -/
def step (call : Call) (now : Int64) (seat : Seat) : Call × Seat :=
  match call with
  | .done reply => (.done reply, seat)
  | .waiting (.create code kind) => (enter seat.session code (.createWith · kind), seat)
  | .waiting (.join code) => (enter seat.session code .joinWith, seat)
  | .waiting operation =>
    let (reply, seat) := seat.perform now operation
    (.done reply, seat)

/-- Runs the sections of a call without another call between them. -/
def run (operation : Operation) (now : Int64) (seat : Seat) : Reply × Seat :=
  let (call, seat) := (Call.waiting operation).step now seat
  match call with
  | .done reply => (reply, seat)
  | .waiting operation => seat.perform now operation

end Call

end SealedChat
