import CommandLink.Controller.Transmit
import CommandLink.Endpoint.Slot

/-! # Calls on a controller that may wait

The wait for a response, a request with its response, the wait for the agent's start, and the sync
exchange. `Call.step` takes a call one step further; `Call.expire` says what becomes of a waiting
call when its time runs out. -/

namespace CommandLink
namespace Controller

/-- What a wait for a response looks for. -/
structure Listening where
  stream : StreamId
  expected : CommandId
  /-- The longest payload that the caller has room for. -/
  capacity : Option Nat
  timeout : Option Duration
  /-- The cancellations of the stream when the wait began, once it has begun. -/
  seen : Option Nat
  deriving DecidableEq

namespace Listening

/-- A wait that takes a payload of any length. -/
def forBytes (stream : StreamId) (expected : CommandId) (timeout : Option Duration) : Listening :=
  ⟨stream, expected, none, timeout, none⟩

/-- A wait that takes a payload of at most `capacity` octets. -/
def within (capacity : Nat) (stream : StreamId) (expected : CommandId)
    (timeout : Option Duration) : Listening :=
  ⟨stream, expected, some capacity, timeout, none⟩

/-- What a response comes to for the caller. -/
def read (l : Listening) (body : Octets) : Except EndpointError Octets :=
  match ResponseHeader.decode body with
  | .error e => .error (.wire e)
  | .ok header =>
    let payload := body.drop payloadHeaderSize
    let verdict : Except EndpointError Octets :=
      if header.result ≠ 0 then .error (.agent header.status)
      else if header.id ≠ l.expected then .error (.notFound l.expected header.id)
      else .ok payload
    match l.capacity with
    | some capacity =>
      if payload.length ≤ capacity then verdict
      else .error (.bufferTooSmall payload.length capacity)
    | none => verdict

end Listening

/-- A sync request with its buffer. -/
structure SyncAttempt where
  timeout : Duration
  request : SyncRequest
  payload : Buffer

/-- A call under way, by what it does next. -/
inductive Call
  /-- Waits for a response. -/
  | listen (wait : Listening)
  /-- Begins a request by dropping a response that came too late for an earlier one. -/
  | discard (command : Command) (timeout : Option Duration)
  /-- Sends the command of a request. -/
  | transmit (command : Command) (timeout : Option Duration)
  /-- Waits for the agent's start. -/
  | awaitAgent (timeout : Duration)
  /-- Begins a sync when no other is under way. -/
  | syncBegin (timeout : Duration)
  /-- Takes a token and a buffer. -/
  | syncPrepare (timeout : Duration)
  /-- Drops the answer to an earlier sync. -/
  | syncClear (attempt : SyncAttempt)
  /-- Makes the token the one that is awaited. -/
  | syncPublish (attempt : SyncAttempt)
  | syncTransmit (attempt : SyncAttempt)
  | syncListen (timeout : Duration) (seen : Option Nat)
  /-- Awaits no token any more, and returns. -/
  | syncWithdraw (result : Except EndpointError SyncResponse)

/-- What a call returns. -/
inductive Answer
  | payload (octets : Octets)
  | agentReady
  | synced (response : SyncResponse)

/-- The failure that the end of a wait on a stream stands for. -/
def releaseError (c : Controller L) (stream : StreamId) : Slot.Release → EndpointError
  | .cancelled => .cancelled
  | .closed => if c.running then .streamClosed stream else .shutdown

/-- The verdict on a sync response. -/
def readSync (response : SyncResponse) : Except EndpointError SyncResponse :=
  if response.version = protocolVersion then .ok response
  else .error (.protocolVersion protocolVersion response.version)

namespace Call

/-- A request: a command and the wait for its response. -/
def request (command : Command) (timeout : Option Duration) : Call := .discard command timeout

def sync (timeout : Duration) : Call := .syncBegin timeout

abbrev Result := Progress Call (Except EndpointError Answer)

/-- Takes a call one step further. -/
def step [Datalink L] (c : Controller L) : Call → Controller L × Result
  | .listen wait =>
    let slot := c.slots.get wait.stream
    let seen := wait.seen.getD slot.cancels
    match slot.pop seen with
    | .taken body slot' =>
      ({ c with slots := c.slots.set wait.stream slot' }, .done ((wait.read body).map .payload))
    | .released reason => (c, .done (.error (c.releaseError wait.stream reason)))
    | .waiting =>
      match wait.seen with
      | some _ => (c, .blocked)
      | none => (c, .next (.listen { wait with seen := some seen }))
  | .discard command timeout => (c.discard command.stream, .next (.transmit command timeout))
  | .transmit command timeout =>
    match c.send command with
    | (.ok (), c') => (c', .next (.listen (.forBytes command.stream command.id timeout)))
    | (.error e, c') => (c', .done (.error e))
  | .awaitAgent _ =>
    if c.handshake.state = .ready then (c, .done (.ok .agentReady))
    else if c.running then (c, .blocked)
    else (c, .done (.error .shutdown))
  | .syncBegin timeout =>
    if c.syncing then (c, .blocked) else ({ c with syncing := true }, .next (.syncPrepare timeout))
  | .syncPrepare timeout =>
    if c.running then
      let (token, c) := c.newToken
      match c.reserve SyncRequest.size with
      | .ok b =>
        (c, .next (.syncClear ⟨timeout, ⟨token⟩, b.append (SyncRequest.encode ⟨token⟩)⟩))
      | .error e => ({ c with syncing := false }, .done (.error e))
    else ({ c with syncing := false }, .done (.error .shutdown))
  | .syncClear attempt => ({ c with syncSlot := c.syncSlot.clear }, .next (.syncPublish attempt))
  | .syncPublish attempt =>
    ({ c with pendingToken := attempt.request.token }, .next (.syncTransmit attempt))
  | .syncTransmit attempt =>
    match c.sendSync attempt.payload with
    | (.ok (), c') => (c', .next (.syncListen attempt.timeout none))
    | (.error e, c') => (c', .next (.syncWithdraw (.error e)))
  | .syncListen timeout seen? =>
    let seen := seen?.getD c.syncSlot.cancels
    match c.syncSlot.pop seen with
    | .taken response slot' =>
      ({ c with syncSlot := slot' }, .next (.syncWithdraw (readSync response)))
    | .released reason =>
      (c, .next (.syncWithdraw (.error (c.releaseError StreamId.control reason))))
    | .waiting =>
      match seen? with
      | some _ => (c, .blocked)
      | none => (c, .next (.syncListen timeout (some seen)))
  | .syncWithdraw result =>
    ({ c with pendingToken := 0, syncing := false }, .done (result.map .synced))

/-- How long a waiting call waits at most. -/
def limit : Call → Option Duration
  | .listen wait => wait.timeout
  | .awaitAgent timeout => some timeout
  | .syncListen timeout _ => some timeout
  | _ => none

/-- What becomes of a waiting call when its time runs out. -/
def expire (timeout : Duration) : Call → Result
  | .listen _ => .done (.error (.timeout timeout))
  | .awaitAgent _ => .done (.error (.timeout timeout))
  | .syncListen _ _ => .next (.syncWithdraw (.error (.timeout timeout)))
  | _ => .blocked

end Call

/-- A caller's buffer after a payload was copied to its start. -/
def fill (buffer payload : Octets) : Octets := payload ++ buffer.drop payload.length

/-- What a caller with a buffer gets from a wait: the length of the payload, and the buffer. A
failed wait leaves the buffer alone. -/
def deposit (buffer : Octets) : Except EndpointError Octets → Except EndpointError Nat × Octets
  | .ok payload => (.ok payload.length, fill buffer payload)
  | .error e => (.error e, buffer)

end Controller
end CommandLink
