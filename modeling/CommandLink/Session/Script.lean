import CommandLink.Session.Schedule

/-! # The steps of a session

What can be asked of the endpoints of a session, and what a step comes to. Stream ids are as given:
a step fails if its id names no stream. -/

namespace CommandLink
namespace Session

/-- What a step comes to. -/
inductive Outcome
  | done
  | number (n : Nat)
  | flag (b : Bool)
  | octets (octets : Octets)
  /-- The length of a payload, or why there is none, and the caller's buffer. -/
  | filled (length : Except EndpointError Nat) (buffer : Octets)
  | synced (response : SyncResponse)
  | settings (config : AgentConfig)
  /-- The call has not returned. -/
  | blocked
  /-- The stream is not open in the session. -/
  | noHandle
  /-- No call goes by the name. -/
  | unknownName
  | failed (error : EndpointError)

/-- A command whose stream id is not checked. -/
structure Addressed where
  stream : UInt8
  id : CommandId
  payload : Octets

/-- The command, if its stream exists. -/
def Addressed.command (a : Addressed) : Except EndpointError Command :=
  match StreamId.ofOctet a.stream with
  | .ok stream => .ok ⟨stream, a.id, a.payload⟩
  | .error e => .error (.wire e)

/-- A call that runs on a thread of its own. -/
inductive ControllerErrand
  | receive (stream : UInt8) (id : CommandId)
  | awaitAgent
  | sync

inductive ControllerStep
  | idle
  | send (command : Addressed)
  /-- Waits for a response, with a buffer of `capacity` octets. -/
  | receive (stream : UInt8) (id : CommandId) (capacity : Nat) (timeout : Option Duration)
  | receiveBytes (stream : UInt8) (id : CommandId) (timeout : Duration)
  | cancel (stream : UInt8)
  | discard (stream : UInt8)
  | openStream (stream : UInt8)
  | release (stream : UInt8)
  | request (command : Addressed) (timeout : Option Duration)
  /-- A request that is given up after some time, or cancelled after some time. -/
  | requestAsync (command : Addressed) (timeout cancelAfter : Option Duration)
  | onBeacon
  | onStandbyExit
  | clearHandlers
  | onStart (command : Option Addressed)
  | awaitAgent (timeout : Duration)
  | sync (timeout : Option Duration)
  | reset
  | deinit
  | spawn (name : String) (errand : ControllerErrand)
  | poll (name : String)
  /-- A buffer arrives, or a receive without one. -/
  | inject (buffer : Option Octets)
  | switch (f : Switches → Switches)

/-- A call that runs on a thread of its own. -/
inductive AgentErrand
  | close (stream : UInt8)
  | deinit

inductive AgentStep
  | idle
  | openStream
  | close (stream : UInt8)
  | event (header : EventHeader) (args : Octets)
  | announce
  | onReset
  | gate (isOpen : Bool)
  | deinit
  | settings
  | spawn (name : String) (errand : AgentErrand)
  | poll (name : String)
  | inject (buffer : Option Octets)
  | switch (f : Switches → Switches)

def Outcome.ofUnit : Except EndpointError Unit → Outcome
  | .ok () => .done
  | .error e => .failed e

def Outcome.ofAnswer : Except EndpointError Controller.Answer → Outcome
  | .ok (.payload payload) => .octets payload
  | .ok .agentReady => .done
  | .ok (.synced answer) => .synced answer
  | .error e => .failed e

def Outcome.ofAgentAnswer : Except EndpointError Agent.Answer → Outcome
  | .ok (.opened stream) => .number stream.val
  | .ok .done => .done
  | .error e => .failed e

/-- What the caller of a wait with a buffer sees. -/
def Outcome.ofFill (buffer : Octets) : Except EndpointError Controller.Answer → Outcome
  | .ok (.payload payload) =>
    let (length, buffer) := Controller.deposit buffer (.ok payload)
    .filled length buffer
  | .ok _ => .filled (.ok 0) buffer
  | .error e =>
    let (length, buffer) := Controller.deposit buffer (.error e)
    .filled length buffer

end Session
end CommandLink
