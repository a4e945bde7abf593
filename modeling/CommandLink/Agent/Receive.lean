import CommandLink.Agent.Transmit
import CommandLink.Wire.Incoming

/-! # What an agent makes of received frames

A buffer too short for a header is dropped. A frame that names no stream, or declares more payload
than it carries, is dropped with a notification, and its sequence number is remembered all the
same. A frame with the number seen last is dropped as a repeat, unless it asks for a reset or a
sync: these two put right what was out of step. Any other frame is acted upon, and a gap before it
is reported, except before a sync request. After a reset the agent remembers nothing.

A command has to get into its stream's slot first, which may take until the worker empties the
slot: `receive` leaves it in `receiving`, and `deliver` tries to pass it on. -/

namespace CommandLink
namespace Agent

/-- Answers a sync request with the number seen before it. -/
def answerSync [Datalink L] (a : Agent L) (stream : StreamId) (payload : Octets) : Agent L :=
  if payload.length = SyncRequest.size then
    match SyncRequest.decode payload with
    | .error _ => a.notify .error stream.toOctet
    | .ok request =>
      let response : SyncResponse := ⟨request.token, a.inbound.lastSeen, protocolVersion⟩
      (a.sendPayload .syncResponse stream.toOctet response.encode).2
  else a.notify .error stream.toOctet

/-- Reports a gap before a frame. -/
def reportGap [Datalink L] (a : Agent L) (stream : StreamId) (seq : SeqNum) : Agent L :=
  if a.inbound.isGap seq then
    { a with stats := a.stats.countGap }.notify .packetLoss stream.toOctet
  else a

/-- Remembers the number of a frame. -/
def remember (a : Agent L) (seq : SeqNum) : Agent L :=
  { a with inbound := a.inbound.record seq }

/-- Starts over: both directions of the link begin anew, and the agent announces itself. -/
def restart [Datalink L] (a : Agent L) : Agent L :=
  let a := if a.onReset then a.record .reset else a
  let a := { a with inbound := .fresh, outbound := .fresh }
  if a.config.announce then a.announce.2 else a

/-- A command for a stream that takes none. -/
def refuse [Datalink L] (a : Agent L) (stream : StreamId) : Agent L :=
  a.notify .invalidStream stream.toOctet

/-- Processes a sound frame. -/
def accept [Datalink L] (a : Agent L) (header : Header) (stream : StreamId)
    (payload : Octets) : Agent L :=
  let seq := header.seq
  match FrameKind.ofCode? header.kind with
  | some .agentReset => (a.reportGap stream seq).restart
  | some .syncRequest => (a.answerSync stream payload).remember seq
  | kind =>
    if a.inbound.isRepeat seq then { a with stats := a.stats.countRepeat }.remember seq
    else
      match kind with
      | some .command =>
        if a.isOpen stream then { a with receiving := some ⟨stream, payload, seq⟩ }
        else ((a.refuse stream).reportGap stream seq).remember seq
      | some .error => (a.reportGap stream seq).remember seq
      | _ => ((a.notify .error stream.toOctet).reportGap stream seq).remember seq

/-- Processes what the link hands over, up to the point where it has to wait. -/
def receive [Datalink L] (a : Agent L) (buffer : Option Octets) : Agent L :=
  match buffer with
  | none => { a with stats := a.stats.countDropped }
  | some octets =>
    let a := { a with stats := a.stats.countReceived }
    match Incoming.ofOctets octets with
    | .short => { a with stats := a.stats.countDropped }
    | .badStream header =>
      ({ a with stats := a.stats.countDropped }.notify .invalidStream header.stream).remember
        header.seq
    | .overLength header _ =>
      ({ a with stats := a.stats.countDropped }.notify .error header.stream).remember header.seq
    | .frame header stream payload => a.accept header stream payload

/-- Tries to pass on the command that the receive path holds. There is none, or its slot is full,
if this fails. A closed slot gives the command back, and the controller is told. -/
def deliver [Datalink L] (a : Agent L) : Option (Agent L) :=
  match a.receiving with
  | none => none
  | some command =>
    let a := { a with receiving := none }
    match (a.slots.get command.stream).push command.body with
    | .full => none
    | .refused =>
      some (((a.refuse command.stream).reportGap command.stream command.seq).remember command.seq)
    | .stored slot =>
      some (({ a with slots := a.slots.set command.stream slot }.reportGap command.stream
        command.seq).remember command.seq)

end Agent
end CommandLink
