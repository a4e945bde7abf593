import CommandLink.Controller.Transmit
import CommandLink.Wire.Incoming

/-! # What a controller makes of received frames

A buffer without a sound frame is dropped and leaves no trace but the counters. A frame with the
sequence number seen last is a repeat and is dropped too, unless it is a start notification. Any
other frame is acted upon by its kind, reported as a gap if its number is not the expected one, and
its number is remembered. A response has to get into its slot first, which may take until someone
empties the slot: `receive` leaves it in `receiving`, and `deliver` tries to pass it on. -/

namespace CommandLink
namespace Controller

/-- Runs the handler of an event, if the event is sound and has one. -/
def dispatchEvent (c : Controller L) (stream : StreamId) (payload : Octets) : Controller L :=
  if stream = StreamId.control then
    match EventHeader.decode payload with
    | .error _ => c
    | .ok header =>
      let args := payload.drop payloadHeaderSize
      match Subsystem.ofCode header.subsystem, WlanEvent.ofCode header.event with
      | .ok .wlan, .ok .beacon =>
        if c.onBeacon then
          match Beacon.decode args with
          | .ok beacon => c.record (.beacon beacon.elements)
          | .error _ => c
        else c
      | .ok .wlan, .ok .standbyExit =>
        if c.onStandbyExit then
          match StandbyExitReason.decode args with
          | .ok reason => c.record (.standbyExit reason)
          | .error _ => c
        else c
      | _, _ => c
  else c

/-- The agent has started. -/
def agentStarted [Datalink L] (c : Controller L) : Controller L :=
  let c := { c with handshake := c.handshake.started }
  match c.onStart with
  | none => c
  | some hook =>
    let c := c.record (.agentStarted c.handshake)
    match hook.command with
    | none => c
    | some command =>
      let (result, c) := c.send command
      c.record (.startCommand result)

/-- Takes the answer to the sync request that is awaited now, unless one is there already. -/
def acceptSync (c : Controller L) (payload : Octets) : Controller L :=
  match SyncResponse.decode payload with
  | .error _ => c
  | .ok response =>
    if response.token = c.pendingToken then
      match c.syncSlot.offer response with
      | some slot => { c with syncSlot := slot }
      | none => c
    else c

/-- Acts on a frame that is not a response. -/
def dispatch [Datalink L] (c : Controller L) (kind : Option FrameKind) (stream : StreamId)
    (payload : Octets) : Controller L :=
  match kind with
  | some .event => c.dispatchEvent stream payload
  | some .agentStart => c.agentStarted
  | some .syncResponse => c.acceptSync payload
  | _ => c

/-- Counts a gap before a frame, and remembers its sequence number. -/
def finish (c : Controller L) (kind : Option FrameKind) (seq : SeqNum) : Controller L :=
  { c with
    stats := if c.inbound.isGap seq ∧ kind ≠ some .agentStart then c.stats.countGap else c.stats
    inbound := c.inbound.record seq }

/-- Processes a sound frame. -/
def accept [Datalink L] (c : Controller L) (header : Header) (stream : StreamId)
    (payload : Octets) : Controller L :=
  let kind := FrameKind.ofCode? header.kind
  if c.inbound.isRepeat header.seq ∧ kind ≠ some .agentStart then
    { c with stats := c.stats.countRepeat, inbound := c.inbound.record header.seq }
  else if kind = some .response then
    { c with receiving := some ⟨stream, payload, header.seq⟩ }
  else (c.dispatch kind stream payload).finish kind header.seq

/-- Processes what the link hands over, up to the point where it has to wait. -/
def receive [Datalink L] (c : Controller L) (buffer : Option Octets) : Controller L :=
  match buffer with
  | none => { c with stats := c.stats.countDropped }
  | some octets =>
    let c := { c with stats := c.stats.countReceived }
    match Incoming.ofOctets octets with
    | .frame header stream payload => c.accept header stream payload
    | _ => { c with stats := c.stats.countDropped }

/-- Tries to pass on the response that the receive path holds. There is none, or its slot is full,
if this fails. A closed slot drops the response. -/
def deliver (c : Controller L) : Option (Controller L) :=
  match c.receiving with
  | none => none
  | some response =>
    match (c.slots.get response.stream).push response.body with
    | .full => none
    | .refused => some ({ c with receiving := none }.finish (some .response) response.seq)
    | .stored slot =>
      some ({ c with receiving := none, slots := c.slots.set response.stream slot }.finish
        (some .response) response.seq)

end Controller
end CommandLink
