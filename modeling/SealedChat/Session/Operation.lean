import SealedChat.Session.Action

/-!
# Operations on a session

All that can be done with a session, as one type, and what each of it gives back.
-/

namespace SealedChat

/-- Something that can be done with a session. -/
inductive Operation where
  | create (code : String) (kind : ChatKind)
  | createWith (secrets : Secrets) (kind : ChatKind)
  | join (code : String)
  | joinWith (secrets : Secrets)
  | send (content : String)
  | receive (frame : Bytes)
  | retry
  | leave
  deriving DecidableEq

/-- What an operation gives back. -/
inductive Reply where
  /-- A frame for the server. -/
  | frame (bytes : Bytes)
  | sent (outbound : Outbound)
  /-- What a received frame tells, if anything. -/
  | event (event : Option Event)
  | swept (sweep : RetrySweep)
  | refused (fault : SessionFault)
  deriving DecidableEq

namespace Seat

/-- What an action comes to: what it gives, or why it was refused. In both cases the seat is as the action left it. -/
def outcome {α : Type} (give : α → Reply) : EStateM.Result SessionFault Seat α → Reply × Seat
  | .ok given seat => (give given, seat)
  | .error fault seat => (.refused fault, seat)

/-- Performs an operation at a time. -/
def perform (seat : Seat) (now : Int64) : Operation → Reply × Seat
  | .create code kind => outcome .frame ((create code kind).run seat)
  | .createWith secrets kind => outcome .frame ((createWith secrets kind).run seat)
  | .join code => outcome .frame ((join code).run seat)
  | .joinWith secrets => outcome .frame ((joinWith secrets).run seat)
  | .send content => outcome .sent ((send now content).run seat)
  | .receive frame =>
    let (event, session) := seat.session.receive frame
    (.event event, { seat with session })
  | .retry =>
    let (sweep, session) := seat.session.retryAt now
    (.swept sweep, { seat with session })
  | .leave => outcome .frame (leave.run seat)

/-- Performs operations one after the other, each at its time. -/
def performAll (seat : Seat) : List (Int64 × Operation) → List Reply × Seat
  | [] => ([], seat)
  | (now, operation) :: rest =>
    let (reply, seat) := seat.perform now operation
    let (replies, seat) := performAll seat rest
    (reply :: replies, seat)

end Seat

end SealedChat
