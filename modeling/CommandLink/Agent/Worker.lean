import CommandLink.Agent.Transmit

/-! # The workers of an agent

A worker takes a command from its stream's slot, has it handled, and sends the response. A command
too short for a header is answered without a handler. A worker stops when it finds its slot closed
and empty. -/

namespace CommandLink
namespace Agent

/-- The payload of the response to a command. -/
def responsePayload (id : CommandId) (result : Except Status Octets) : Octets :=
  match result with
  | .ok payload => (ResponseHeader.of id .ok).encode ++ payload
  | .error status => (ResponseHeader.of id status).encode

/-- A worker takes up the command in its slot, or stops if the slot is closed. Nothing happens if
the slot is empty. -/
def takeUp (a : Agent L) (w : Worker) : Option (Agent L) :=
  match (a.slots.get w.stream).pop (a.slots.get w.stream).cancels with
  | .taken body slot =>
    let a := { a with slots := a.slots.set w.stream slot }
    match CommandHeader.decode body with
    | .ok header =>
      let invocation : Invocation := ⟨w.stream, header.id, body.drop payloadHeaderSize⟩
      some ((a.setPhase w.id (.handling invocation)).record (.invoked invocation))
    | .error _ =>
      some (a.setPhase w.id (.answering (responsePayload CommandId.zero (.error .error))))
  | .released _ => some (a.setPhase w.id .stopped)
  | .waiting => none

/-- The handler of a worker's command returns. -/
def handled (a : Agent L) (w : WorkerId) (invocation : Invocation)
    (result : Except Status Octets) : Agent L :=
  a.setPhase w (.answering (responsePayload invocation.id result))

/-- A worker sends its response and turns to the next command. A failure to send goes unnoticed. -/
def answer [Datalink L] (a : Agent L) (w : Worker) (payload : Octets) : Agent L :=
  (a.sendPayload .response w.stream.toOctet payload).2.setPhase w.id .waiting

end Agent
end CommandLink
