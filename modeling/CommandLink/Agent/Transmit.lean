import CommandLink.Agent.Basic

/-! # What an agent sends

A sequence number is used up only when the link has taken the frame. A notification has no
payload, and a failure to send it goes unnoticed. -/

namespace CommandLink
namespace Agent

/-- The header of the frame that an agent sends next. The stream need not exist. -/
def nextHeader (a : Agent L) (kind : FrameKind) (stream : UInt8) (length : UInt16) : Header :=
  ⟨kind.code, a.outbound.peek, stream, length⟩

/-- Sends one frame. -/
def sendPayload [Datalink L] (a : Agent L) (kind : FrameKind) (stream : UInt8)
    (payload : Octets) : Except EndpointError Unit × Agent L :=
  if a.running then
    match Frame.payloadLength payload.length with
    | .error e => (.error (.invalidArg e.text), a)
    | .ok length =>
      match Datalink.reserve a.link Header.size payload.length with
      | none => (.error .noMem, a)
      | some b =>
        match (b.append payload).prepend (a.nextHeader kind stream length).encode with
        | .error e => (.error (.invalidArg e.text), a)
        | .ok frame =>
          match Datalink.transmit a.link frame with
          | (.error e, link) => (.error (.link e), { a with link := link })
          | (.ok _, link) =>
            (.ok (), { a with
              link := link
              outbound := a.outbound.commit a.outbound.peek
              stats := a.stats.countSent })
  else (.error .shutdown, a)

/-- Sends a notification, or fails to. -/
def notify [Datalink L] (a : Agent L) (kind : FrameKind) (stream : UInt8) : Agent L :=
  (a.sendPayload kind stream []).2

/-- Announces that the agent has started. -/
def announce [Datalink L] (a : Agent L) : Except EndpointError Unit × Agent L :=
  a.sendPayload .agentStart (StreamId.toOctet StreamId.control) []

/-- Sends an event. -/
def sendEvent [Datalink L] (a : Agent L) (header : EventHeader) (args : Octets) :
    Except EndpointError Unit × Agent L :=
  a.sendPayload .event (StreamId.toOctet StreamId.control) (header.encode ++ args)

/-- Starts an agent on a link that has started. -/
def start [Datalink L] (link : L) (config : AgentConfig) : Except EndpointError Unit × Agent L :=
  let a := fresh link config
  if config.announce then a.announce else (.ok (), a)

end Agent
end CommandLink
