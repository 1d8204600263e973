import Herald.Event
import Herald.WebSocket.Connection

/-!
# Listening to the stream

The listener looks at what arrives on the socket one thing after another. A text that is an event is
forwarded, a ping is answered by its own payload, and everything else is passed over, a text that is
no event included. A close or a failure ends the listening, and so does a ping that cannot be
answered.
-/

namespace Herald.Listener

open WebSocket (Arrival)

/-- What the listener does about a receipt. -/
inductive Reaction where
  | forward (event : Event)
  | answer (payload : List UInt8)
  | skip
  | stop
  deriving Repr, DecidableEq

/-- Something that arrives, and whether the socket can be written to when it does. -/
structure Receipt where
  arrival : Arrival
  writable : Bool := true
  deriving Repr, DecidableEq

/-- What to do about a receipt. -/
def react (r : Receipt) : Reaction :=
  match r.arrival with
  | .text frame =>
    match Event.parse frame with
    | .ok event => .forward event
    | .error _ => .skip
  | .ping payload => if r.writable then .answer payload else .stop
  | .binary => .skip
  | .pong => .skip
  | .close => .stop
  | .failure => .stop

/-- What has come of listening: the events that were taken, and the payloads answered. -/
structure Heard where
  events : List Event := []
  pongs : List (List UInt8) := []
  ended : Bool := false
  deriving Repr, DecidableEq

/-- Takes in a receipt. Whoever takes the events may go away after a number of them; the next event
then ends the listening. -/
def Heard.push (h : Heard) (bound : Option Nat) (receipt : Receipt) : Heard :=
  if h.ended then h
  else
    match react receipt with
    | .skip => h
    | .stop => { h with ended := true }
    | .answer payload => { h with pongs := h.pongs ++ [payload] }
    | .forward event =>
      if bound = some h.events.length then { h with ended := true }
      else { h with events := h.events ++ [event] }

/-- What comes of listening to all receipts of a socket. -/
def listen (bound : Option Nat) (receipts : List Receipt) : Heard :=
  receipts.foldl (·.push bound ·) {}

end Herald.Listener
