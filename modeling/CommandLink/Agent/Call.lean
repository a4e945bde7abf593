import CommandLink.Agent.Transmit
import CommandLink.Endpoint.Slot

/-! # Calls on an agent that may wait

Opening and closing a stream and shutting down, each a sequence of steps between which other
threads can come in. A call made by a worker does not wait for that worker. -/

namespace CommandLink
namespace Agent

/-- What a caller that waits for workers does next. -/
inductive AfterJoin
  | finish
  | stopLink
  deriving DecidableEq

/-- A call under way, by what it does next. -/
inductive Call
  /-- Looks for the lowest stream that is not open. -/
  | openFind
  /-- Starts the worker of the stream that was found. -/
  | openStart (stream : StreamId)
  /-- Takes the worker of a stream out of the table. -/
  | closeTake (stream : StreamId)
  /-- Closes the slot of the worker that was taken. -/
  | closeSlot (stream : StreamId) (worker : WorkerId)
  /-- Lets nothing be sent any more. -/
  | shutdownBegin
  | shutdownClose
  /-- Takes every worker out of the table. -/
  | shutdownTake
  /-- Waits until the workers that were taken have stopped. -/
  | join (workers : List WorkerId) (after : AfterJoin)
  deriving DecidableEq

/-- What a call returns. -/
inductive Answer
  | opened (stream : StreamId)
  | done
  deriving DecidableEq

/-- The lowest stream that is not open. -/
def lowestFree (a : Agent L) : Option StreamId := StreamId.all.find? (!a.isOpen ·)

/-- Whether a worker has come to its end. -/
def hasStopped (a : Agent L) (id : WorkerId) : Bool :=
  match a.worker? id with
  | some w => w.phase == .stopped
  | none => true

namespace Call

/-- Opens the lowest free stream. -/
def openStream : Call := .openFind

/-- Closes a stream. A command that still waits on it is dropped. -/
def closeStream (stream : StreamId) : Call := .closeTake stream

/-- Stops every worker and the link. -/
def deinit : Call := .shutdownBegin

abbrev Result := Progress Call (Except EndpointError Answer)

/-- Takes a call one step further. `caller` is the worker that makes the call, if one does. -/
def step [Datalink L] (a : Agent L) (caller : Option WorkerId) : Call → Agent L × Result
  | .openFind =>
    match a.lowestFree with
    | some stream => (a, .next (.openStart stream))
    | none => (a, .done (.error .noFreeStream))
  | .openStart stream =>
    match a.startWorker stream with
    | .ok a' => (a', .done (.ok (.opened stream)))
    | .error e => (a, .done (.error e))
  | .closeTake stream =>
    if stream = StreamId.control then
      (a, .done (.error (.invalidArg "the control stream cannot be closed")))
    else
      match a.serving.get stream with
      | some worker =>
        ({ a with serving := a.serving.set stream none }, .next (.closeSlot stream worker))
      | none => (a, .done (.error (.streamClosed stream)))
  | .closeSlot stream worker =>
    ({ a with slots := a.slots.modify stream Slot.close }, .next (.join [worker] .finish))
  | .shutdownBegin =>
    if a.running then ({ a with running := false }, .next .shutdownClose)
    else (a, .done (.ok .done))
  | .shutdownClose => ({ a with slots := a.slots.map Slot.close }, .next .shutdownTake)
  | .shutdownTake =>
    ({ a with serving := .fill none },
      .next (.join (StreamId.all.filterMap a.serving.get) .stopLink))
  | .join workers after =>
    if workers.all fun w => some w = caller ∨ a.hasStopped w then
      match after with
      | .finish => (a, .done (.ok .done))
      | .stopLink => ({ a with link := Datalink.stop a.link }, .done (.ok .done))
    else (a, .blocked)

end Call
end Agent
end CommandLink
