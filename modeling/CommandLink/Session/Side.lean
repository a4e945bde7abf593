import CommandLink.Agent.Call
import CommandLink.Agent.Receive
import CommandLink.Agent.Worker
import CommandLink.Controller.Call
import CommandLink.Controller.Receive
import CommandLink.Session.Conduct
import CommandLink.Session.Link
import CommandLink.Session.Task

/-! # The two sides of a session

An endpoint with its link, the calls under way on it, and what has arrived for it. Each function
that returns an `Option` is one step of one thread, and fails if the thread has nothing to do. -/

namespace CommandLink
namespace Session

/-- A frame sent to a controller in answer to its first frame of a step. -/
inductive Reply
  | frame (octets : Octets)
  /-- Holds the token of the last sync request, moved by some distance. -/
  | aroundToken (head : Octets) (distance : UInt32) (tail : Octets)

structure ControllerSide where
  endpoint : Controller Link
  inlet : Inlet
  /-- The streams opened in the session. -/
  opened : StreamTable Bool
  tasks : List (Task Controller.Call (Except EndpointError Controller.Answer))
  replies : List Reply
  /-- The token of the last sync request in an earlier step. -/
  earlierToken : UInt32

/-- The octets of a reply, given the token of the last sync request. -/
def Reply.octets (token : UInt32) : Reply → Octets
  | .frame octets => octets
  | .aroundToken head distance tail => head ++ Octets.ofWord32 (token + distance) ++ tail

namespace ControllerSide

/-- The token of a frame, if it is a sync request. -/
def syncToken? (frame : Octets) : Option UInt32 :=
  match Frame.decode frame with
  | .ok (header, payload) =>
    if FrameKind.ofCode? header.kind = some .syncRequest then
      match payload with
      | a :: b :: c :: d :: _ => some (Octets.word32 a b c d)
      | _ => none
    else none
  | .error _ => none

/-- The token of the last sync request so far. -/
def lastToken (s : ControllerSide) : UInt32 :=
  ((s.endpoint.link.sent.filterMap syncToken?).getLast?).getD s.earlierToken

/-- Forgets what the step before has recorded. -/
def forget (s : ControllerSide) : ControllerSide :=
  { s with
    earlierToken := s.lastToken
    endpoint := { s.endpoint with link := s.endpoint.link.forget, log := [] } }

/-- The replies arrive once the first frame of a step was sent. -/
def reply (s : ControllerSide) : ControllerSide :=
  if s.replies.isEmpty || s.endpoint.link.sent.isEmpty then s
  else
    { s with
      replies := []
      inlet := if s.endpoint.link.stopped then s.inlet else
        s.inlet.push (s.replies.map fun r => some (r.octets s.lastToken)) }

def stepReceiving (s : ControllerSide) : Option ControllerSide :=
  s.endpoint.deliver.map fun endpoint => { s with endpoint := endpoint }

def stepTasks (clock : Nat) (s : ControllerSide) : Option ControllerSide :=
  (Task.advance Controller.Call.step clock s.endpoint s.tasks).map fun (endpoint, tasks) =>
    { s with endpoint := endpoint, tasks := tasks }

def stepInlet (s : ControllerSide) : Option ControllerSide :=
  match s.endpoint.receiving, s.inlet.queue with
  | none, buffer :: rest =>
    some { s with
      endpoint := s.endpoint.receive buffer
      inlet := { s.inlet with queue := rest } }
  | _, _ => none

/-- The buffers that have arrived and are not processed. -/
def stuck (s : ControllerSide) : Nat :=
  s.inlet.queue.length + if s.endpoint.receiving.isSome then 1 else 0

/-- When the first of the waiting calls runs out of time. -/
def nextDeadline (s : ControllerSide) : Option Nat :=
  (s.tasks.filterMap fun t =>
    if t.result.isSome then none else t.call.limit.map (t.since + ·.nanos)).min?

/-- The calls whose time has run out go on without what they waited for. -/
def expire (clock : Nat) (s : ControllerSide) : ControllerSide :=
  { s with tasks := s.tasks.map fun t =>
      match t.result, t.call.limit with
      | none, some limit =>
        if t.since + limit.nanos ≤ clock then
          (t.note clock (Controller.Call.expire limit t.call)).getD t
        else t
      | _, _ => t }

end ControllerSide

structure AgentSide where
  endpoint : Agent Link
  inlet : Inlet
  conduct : Conduct
  gateOpen : Bool
  tasks : List (Task Agent.Call (Except EndpointError Agent.Answer))

namespace AgentSide

/-- Forgets what the step before has recorded. -/
def forget (s : AgentSide) : AgentSide :=
  { s with endpoint := { s.endpoint with link := s.endpoint.link.forget, log := [] } }

def stepReceiving (s : AgentSide) : Option AgentSide :=
  s.endpoint.deliver.map fun endpoint => { s with endpoint := endpoint }

def stepTasks (clock : Nat) (s : AgentSide) : Option AgentSide :=
  (Task.advance (fun a call => Agent.Call.step a none call) clock s.endpoint s.tasks).map
    fun (endpoint, tasks) => { s with endpoint := endpoint, tasks := tasks }

/-- One step of a worker. -/
def stepWorker (s : AgentSide) (w : Worker) : Option AgentSide :=
  match w.phase with
  | .waiting => (s.endpoint.takeUp w).map fun endpoint => { s with endpoint := endpoint }
  | .handling invocation =>
    let (gated, result) := s.conduct.answer invocation
    if gated && !s.gateOpen then none
    else some { s with endpoint := s.endpoint.handled w.id invocation result }
  | .answering payload => some { s with endpoint := s.endpoint.answer w payload }
  | .stopped => none

def stepWorkers (s : AgentSide) : Option AgentSide := s.endpoint.workers.findSome? s.stepWorker

def stepInlet (s : AgentSide) : Option AgentSide :=
  match s.endpoint.receiving, s.inlet.queue with
  | none, buffer :: rest =>
    some { s with
      endpoint := s.endpoint.receive buffer
      inlet := { s.inlet with queue := rest } }
  | _, _ => none

/-- The buffers that have arrived and are not processed. -/
def stuck (s : AgentSide) : Nat :=
  s.inlet.queue.length + if s.endpoint.receiving.isSome then 1 else 0

end AgentSide
end Session
end CommandLink
