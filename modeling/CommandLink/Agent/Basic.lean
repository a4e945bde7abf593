import CommandLink.Datalink.Buffer
import CommandLink.Endpoint.Error
import CommandLink.Endpoint.LinkStats
import CommandLink.Endpoint.Slot
import CommandLink.Wire.Frame
import CommandLink.Wire.Sync

/-! # The state of an agent

An agent is a value, like a controller. Each open stream has a worker that takes commands from the
stream's slot, one at a time. A worker is a program counter in `workers`; what the handler of a
command answers comes from outside. The table `serving` says which worker an open stream has; a
worker that was taken out of the table may still be at work. -/

namespace CommandLink

structure AgentConfig where
  /-- The version that an agent reports to those who ask. -/
  appVersion : String
  /-- Announce the agent at start and after each reset. -/
  announce : Bool

/-- Workers are numbered in the order in which they start. -/
abbrev WorkerId := Nat

/-- A command that a worker has taken up. -/
structure Invocation where
  stream : StreamId
  id : CommandId
  payload : Octets
  deriving DecidableEq

/-- What a worker does next. -/
inductive WorkerPhase
  /-- Takes the next command. -/
  | waiting
  /-- The handler runs. -/
  | handling (invocation : Invocation)
  /-- Sends the payload of a response. -/
  | answering (payload : Octets)
  | stopped
  deriving DecidableEq

structure Worker where
  id : WorkerId
  stream : StreamId
  phase : WorkerPhase
  deriving DecidableEq

/-- Something that an agent has told its owner. -/
inductive AgentNotice
  /-- A handler was invoked. -/
  | invoked (invocation : Invocation)
  /-- The controller has asked for a reset. -/
  | reset
  deriving DecidableEq

/-- A command on its way from the receive path into its stream's slot. -/
structure PendingCommand where
  stream : StreamId
  body : Octets
  seq : SeqNum

structure Agent (L : Type) where
  config : AgentConfig
  link : L
  running : Bool
  outbound : Outbound
  inbound : Inbound
  /-- The command that waits on each stream. -/
  slots : StreamTable (Slot Octets)
  /-- The worker of each open stream. -/
  serving : StreamTable (Option WorkerId)
  /-- Every worker that has been started. -/
  workers : List Worker
  /-- Whether the owner wants to hear of resets. -/
  onReset : Bool
  stats : LinkStats
  receiving : Option PendingCommand
  log : List AgentNotice

namespace Agent

/-- Records a notice. -/
def record (a : Agent L) (notice : AgentNotice) : Agent L :=
  { a with log := a.log ++ [notice] }

def isOpen (a : Agent L) (stream : StreamId) : Bool := (a.serving.get stream).isSome

/-- The open streams, in ascending order. -/
def openStreams (a : Agent L) : List StreamId := StreamId.all.filter a.isOpen

/-- The worker with the given number. -/
def worker? (a : Agent L) (id : WorkerId) : Option Worker := a.workers.find? (·.id == id)

/-- Moves a worker to another phase. -/
def setPhase (a : Agent L) (id : WorkerId) (phase : WorkerPhase) : Agent L :=
  { a with workers := a.workers.map fun w => if w.id = id then { w with phase := phase } else w }

/-- Starts a worker for a stream that has none, and lets its slot take commands. -/
def startWorker (a : Agent L) (stream : StreamId) : Except EndpointError (Agent L) :=
  if a.isOpen stream then .error (.streamBusy stream)
  else
    let id := a.workers.length
    .ok { a with
      slots := a.slots.modify stream Slot.reopen
      serving := a.serving.set stream (some id)
      workers := a.workers ++ [⟨id, stream, .waiting⟩] }

/-- An agent before its link has started: the control stream alone is open. -/
def fresh (link : L) (config : AgentConfig) : Agent L where
  config := config
  link := link
  running := true
  outbound := .fresh
  inbound := .fresh
  slots := .fill .empty
  serving := (StreamTable.fill none).set StreamId.control (some 0)
  workers := [⟨0, StreamId.control, .waiting⟩]
  onReset := false
  stats := .zero
  receiving := none
  log := []

end Agent
end CommandLink
