import Herald.Text.Utf8
import Herald.WebSocket.Frame

/-!
# WebSocket messages

A connection takes bytes as they come and tells what has arrived. A message may come in several
frames, between which only frames of the control may stand. Whatever breaks the rules makes the
connection fail: reserved bits, a mask, a control frame that is long or not final, a continuation of
nothing, a new message inside another one, and text that is not UTF-8. After a failure or a close
nothing arrives any more.
-/

namespace Herald.WebSocket

/-- What arrives on a connection. -/
inductive Arrival where
  | text (s : String)
  | binary
  | ping (payload : List UInt8)
  | pong
  | close
  | failure
  deriving Repr, DecidableEq

/-- Whether nothing can arrive after this. -/
def Arrival.isLast : Arrival → Bool
  | close | failure => true
  | _ => false

/-- The frames so far of a message that is not complete. -/
structure Assembly where
  isText : Bool
  bytes : List UInt8
  deriving Repr, DecidableEq

/-- What a connection remembers. -/
structure Connection where
  /-- The bytes that do not make a frame yet. -/
  buffer : List UInt8 := []
  assembly : Option Assembly := none
  ended : Bool := false
  deriving Repr, DecidableEq

/-- What a complete message is. -/
def Assembly.complete (a : Assembly) : Arrival :=
  if a.isText then
    match Text.Utf8.decode? a.bytes with
    | some text => .text (String.ofList text)
    | none => .failure
  else .binary

/-- Takes in a further part of a message: what has arrived, if anything, and what is still to be
completed. -/
def Assembly.push (a : Assembly) (bytes : List UInt8) (final : Bool) :
    Option Arrival × Option Assembly :=
  let a := { a with bytes := a.bytes ++ bytes }
  if final then (some a.complete, none)
  else if a.isText && !Text.Utf8.isStart a.bytes then (some .failure, none)
  else (none, some a)

/-- What a closing frame says: nothing, or a code and a reason. -/
def closing (payload : List UInt8) : Arrival :=
  match payload with
  | [] => .close
  | [_] => .failure
  | _ :: _ :: reason => if (Text.Utf8.decode? reason).isSome then .close else .failure

/-- What a frame brings. -/
def receive (assembly : Option Assembly) (f : Frame) : Option Arrival × Option Assembly :=
  if f.reserved || f.masked || (f.opcode.isControl && (!f.final || 125 < f.payload.length)) then
    (some .failure, none)
  else
    match f.opcode, assembly with
    | .close, assembly => (some (closing f.payload), assembly)
    | .ping, assembly => (some (.ping f.payload), assembly)
    | .pong, assembly => (some .pong, assembly)
    | .continuation, some a => a.push f.payload f.final
    | .text, none => Assembly.push ⟨true, []⟩ f.payload f.final
    | .binary, none => Assembly.push ⟨false, []⟩ f.payload f.final
    | .continuation, none => (some .failure, none)
    | .text, some _ => (some .failure, none)
    | .binary, some _ => (some .failure, none)

namespace Connection

/-- Takes all frames off the bytes of a connection. -/
def drain (assembly : Option Assembly) (buffer : List UInt8) : List Arrival × Connection :=
  match h : Frame.read buffer with
  | .incomplete => ([], { buffer, assembly })
  | .invalid => ([.failure], { ended := true })
  | .frame f rest =>
    have := Frame.length_of_read h
    match receive assembly f with
    | (none, assembly) => drain assembly rest
    | (some arrival, assembly) =>
      if arrival.isLast then ([arrival], { ended := true })
      else
        let (arrivals, c) := drain assembly rest
        (arrival :: arrivals, c)
  termination_by buffer.length

/-- Takes in bytes: what has arrived with them. -/
def feed (c : Connection) (bytes : List UInt8) : List Arrival × Connection :=
  if c.ended then ([], c) else drain c.assembly (c.buffer ++ bytes)

end Connection

end Herald.WebSocket
