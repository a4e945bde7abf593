import CommandLink.Datalink.SerialLink

/-! # The links of a session

Three links for endpoints under observation: one that records what is sent and fails on demand, one
that hands packets straight to a peer, and a serial link to a peer. `Inlet` is the
receiving half: what has arrived and waits for the endpoint. -/

namespace CommandLink
namespace Session

/-- The ways in which a recording link fails while they are switched on. -/
structure Switches where
  failStart : Bool
  failTransmit : Bool
  failReserve : Bool
  /-- Buffers have no room for a header. -/
  noHeadroom : Bool

def Switches.off : Switches := ⟨false, false, false, false⟩

structure RecordingLink where
  switches : Switches
  sent : List Octets
  stopped : Bool

structure DirectLink where
  /-- Packets on their way to the peer. -/
  outgoing : List Octets
  stopped : Bool
  peerGone : Bool

inductive Link
  | recording (link : RecordingLink)
  | direct (link : DirectLink)
  | serial (link : SerialLink)

/-- What has left a link for its peer. -/
inductive Outgoing
  | packets (packets : List Octets)
  | stream (octets : Octets)

namespace Link

def reserve (l : Link) (header payload : Nat) : Option Buffer :=
  match l with
  | .recording link =>
    if link.switches.failReserve then none
    else if link.switches.noHeadroom then some (Buffer.alloc 0 payload)
    else some (Buffer.alloc header payload)
  | .direct _ => some (Buffer.alloc header payload)
  | .serial link => link.reserve header payload

def transmit (l : Link) (b : Buffer) : Except LinkError Nat × Link :=
  match l with
  | .recording link =>
    if link.switches.failTransmit then (.error .disconnected, l)
    else (.ok b.data.length, .recording { link with sent := link.sent ++ [b.data] })
  | .direct link =>
    if link.stopped then (.error .shutdown, l)
    else if link.peerGone then (.error .disconnected, l)
    else (.ok b.data.length, .direct { link with outgoing := link.outgoing ++ [b.data] })
  | .serial link =>
    let (result, link) := link.transmit b
    (result, .serial link)

def stop : Link → Link
  | .recording link => .recording { link with stopped := true }
  | .direct link => .direct { link with stopped := true }
  | .serial link => .serial link.stop

instance : Datalink Link where
  reserve := reserve
  transmit := transmit
  stop := stop

def stopped : Link → Bool
  | .recording link => link.stopped
  | .direct link => link.stopped
  | .serial link => !link.running

/-- The frames recorded. -/
def sent : Link → List Octets
  | .recording link => link.sent
  | _ => []

/-- Forgets the frames recorded. -/
def forget : Link → Link
  | .recording link => .recording { link with sent := [] }
  | l => l

/-- Changes how a recording link fails. -/
def switch (l : Link) (f : Switches → Switches) : Link :=
  match l with
  | .recording link => .recording { link with switches := f link.switches }
  | l => l

/-- Takes what has left a link. -/
def collect : Link → Outgoing × Link
  | .recording link => (.packets [], .recording link)
  | .direct link => (.packets link.outgoing, .direct { link with outgoing := [] })
  | .serial link => (.stream link.written, .serial { link with written := [] })

/-- The failure of a byte stream whose other end is closed. -/
def closedStream : IoError := ⟨.brokenPipe, "Broken pipe (os error 32)"⟩

/-- The other end is gone. -/
def losePeer : Link → Link
  | .recording link => .recording link
  | .direct link => .direct { link with peerGone := true }
  | .serial link => .serial { link with broken := some closedStream }

end Link

/-- What has arrived for an endpoint. -/
structure Inlet where
  decoder : Slip.Decoder
  role : LinkRole
  /-- Buffers that the endpoint has not looked at. -/
  queue : List (Option Octets)

namespace Inlet

def ofConfig (config : SerialLink.Config) : Inlet := ⟨SerialLink.decoder config, config.role, []⟩

def push (i : Inlet) (buffers : List (Option Octets)) : Inlet :=
  { i with queue := i.queue ++ buffers }

/-- What has left the peer arrives. -/
def take (i : Inlet) : Outgoing → Inlet
  | .packets packets => i.push (packets.map some)
  | .stream octets =>
    let (decoder, frames) := SerialLink.receive i.role i.decoder octets
    { i with decoder := decoder }.push (frames.map some)

end Inlet
end Session
end CommandLink
