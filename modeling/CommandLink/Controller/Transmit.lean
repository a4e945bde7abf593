import CommandLink.Controller.Basic

/-! # What a controller sends

Commands and reset requests take the next sequence number; a sync request carries the number sent
last again, or 0. The number counts as used as soon as there is a buffer for the frame, whether or
not the frame then gets through. -/

namespace CommandLink
namespace Controller

/-- Puts the header in front of a buffer and hands it to the link. -/
def sendFrame [Datalink L] (c : Controller L) (kind : FrameKind) (seq : SeqNum)
    (stream : StreamId) (payload : Buffer) : Except EndpointError Unit × Controller L :=
  match Frame.payloadLength payload.data.length with
  | .error e => (.error (.invalidArg e.text), c)
  | .ok length =>
    match payload.prepend (Header.of kind seq stream length).encode with
    | .error e => (.error (.invalidArg e.text), c)
    | .ok frame =>
      match Datalink.transmit c.link frame with
      | (.error e, link) => (.error (.link e), { c with link := link })
      | (.ok _, link) => (.ok (), { c with link := link, stats := c.stats.countSent })

/-- A buffer for a frame with a payload of `size` octets, on a controller that runs. -/
def reserve [Datalink L] (c : Controller L) (size : Nat) : Except EndpointError Buffer :=
  if c.running then
    match Datalink.reserve c.link Header.size size with
    | some b => .ok b
    | none => .error .noMem
  else .error .shutdown

/-- Sends a command. -/
def send [Datalink L] (c : Controller L) (command : Command) :
    Except EndpointError Unit × Controller L :=
  match c.reserve (payloadHeaderSize + command.payload.length) with
  | .error e => (.error e, c)
  | .ok b =>
    let (seq, outbound) := c.outbound.advance
    sendFrame { c with outbound := outbound } .command seq command.stream
      ((b.append (CommandHeader.encode ⟨command.id⟩)).append command.payload)

/-- Asks the agent to reset. The controller awaits the agent's start from the moment before the
request leaves, so that no start is missed. -/
def resetAgent [Datalink L] (c : Controller L) : Except EndpointError Unit × Controller L :=
  match c.reserve 0 with
  | .error e => (.error e, c)
  | .ok b =>
    let (seq, outbound) := c.outbound.advance
    let previous := c.handshake.state
    let waiting :=
      { c with outbound := outbound, handshake := c.handshake.await }
    match sendFrame waiting .agentReset seq StreamId.control b with
    | (.ok (), c') => (.ok (), c')
    | (.error e, c') =>
      (.error e, { c' with handshake := c'.handshake.restore previous })

/-- Sends a sync request. -/
def sendSync [Datalink L] (c : Controller L) (payload : Buffer) :
    Except EndpointError Unit × Controller L :=
  let seq := c.outbound.lastSent.getD SeqNum.first
  sendFrame { c with outbound := c.outbound.commit seq } .syncRequest seq StreamId.control payload

/-- A token that was not used just before. It is never 0. -/
def newToken (c : Controller L) : UInt32 × Controller L :=
  let next := c.lastToken + 1
  let token := if next = 0 then 1 else next
  (token, { c with lastToken := token })

end Controller
end CommandLink
