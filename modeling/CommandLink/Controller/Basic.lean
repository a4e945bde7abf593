import CommandLink.Datalink.Buffer
import CommandLink.Endpoint.Error
import CommandLink.Endpoint.LinkStats
import CommandLink.Endpoint.Slot
import CommandLink.Wire.Event
import CommandLink.Wire.Frame
import CommandLink.Wire.Sync

/-! # The state of a controller

A controller is a value. What is shared between its threads are the fields of `Controller`; what a
thread does between two waits is a function on them (`Transmit`, `Receive`), and a call that may
wait is a program counter (`Call`). Callbacks are recorded in `log` in the order in which they
run. -/

namespace CommandLink

structure ControllerConfig where
  /-- How long a wait for a response lasts; without a limit it lasts until something comes. -/
  responseTimeout : Option Duration
  /-- How long a sync waits for the agent's answer. -/
  syncTimeout : Duration

/-- What a controller knows about its agent's start. -/
inductive AgentState
  /-- No start notification since the last request to reset. -/
  | awaiting
  | ready
  deriving DecidableEq

structure Handshake where
  state : AgentState
  /-- The start notifications so far. -/
  starts : Nat
  deriving DecidableEq

namespace Handshake

/-- From now on a start notification is awaited. -/
def await (h : Handshake) : Handshake := { h with state := .awaiting }

/-- The agent has started. -/
def started (h : Handshake) : Handshake := ⟨.ready, h.starts + 1⟩

/-- The handshake after a failed request to reset: as before, unless the agent has started in the
meantime. -/
def restore (h : Handshake) (previous : AgentState) : Handshake :=
  if h.state = .awaiting then { h with state := previous } else h

end Handshake

/-- A command to be sent. -/
structure Command where
  stream : StreamId
  id : CommandId
  payload : Octets
  deriving DecidableEq

/-- What runs on each start notification, besides the record of it. -/
structure StartHook where
  /-- A command that the callback sends. -/
  command : Option Command

/-- A callback that has run, with what it was told. -/
inductive Callback
  | beacon (elements : Octets)
  | standbyExit (reason : StandbyExitReason)
  | agentStarted (handshake : Handshake)
  /-- The start callback has sent its command. -/
  | startCommand (result : Except EndpointError Unit)

/-- A response on its way from the receive path into its slot. The receive path is blocked until
the slot takes or refuses it. -/
structure PendingResponse where
  stream : StreamId
  body : Octets
  seq : SeqNum

structure Controller (L : Type) where
  config : ControllerConfig
  link : L
  running : Bool
  outbound : Outbound
  inbound : Inbound
  /-- The response that waits on each stream. -/
  slots : StreamTable (Slot Octets)
  /-- The streams held by someone. -/
  held : StreamTable Bool
  onBeacon : Bool
  onStandbyExit : Bool
  onStart : Option StartHook
  handshake : Handshake
  /-- A sync is under way. -/
  syncing : Bool
  syncSlot : Slot SyncResponse
  /-- The token that a sync response has to carry now; 0 if none is awaited. -/
  pendingToken : UInt32
  /-- The token handed out last. -/
  lastToken : UInt32
  stats : LinkStats
  receiving : Option PendingResponse
  log : List Callback

namespace Controller

/-- A controller on a link, before its first frame. -/
def start (link : L) (config : ControllerConfig) (seed : UInt32) : Controller L where
  config := config
  link := link
  running := true
  outbound := .fresh
  inbound := .fresh
  slots := .fill .empty
  held := .fill false
  onBeacon := false
  onStandbyExit := false
  onStart := none
  handshake := ⟨.awaiting, 0⟩
  syncing := false
  syncSlot := .empty
  pendingToken := 0
  lastToken := seed
  stats := .zero
  receiving := none
  log := []

/-- Records a callback. -/
def record (c : Controller L) (callback : Callback) : Controller L :=
  { c with log := c.log ++ [callback] }

/-- Ends the waits for a response on a stream. -/
def cancel (c : Controller L) (stream : StreamId) : Controller L :=
  { c with slots := c.slots.modify stream Slot.cancel }

/-- Drops a response that nobody waited for. -/
def discard (c : Controller L) (stream : StreamId) : Controller L :=
  { c with slots := c.slots.modify stream Slot.clear }

/-- Takes hold of a stream. -/
def openStream (c : Controller L) (stream : StreamId) : Except EndpointError (Controller L) :=
  if c.held.get stream then .error (.streamBusy stream)
  else .ok { c with held := c.held.set stream true }

/-- Lets go of a stream. -/
def releaseStream (c : Controller L) (stream : StreamId) : Controller L :=
  { c with held := c.held.set stream false }

def clearHandlers (c : Controller L) : Controller L :=
  { c with onBeacon := false, onStandbyExit := false }

/-- Shuts the controller down: every wait ends, and the link stops. -/
def deinit [Datalink L] (c : Controller L) : Controller L :=
  if c.running then
    { c with
      running := false
      slots := c.slots.map Slot.close
      syncSlot := c.syncSlot.close
      link := Datalink.stop c.link }
  else c

end Controller
end CommandLink
