import CommandLink.Proofs.Session.Conversation
import CommandLink.Session.Perform

/-! # Calls of a controller and their results

However the threads of a pair take turns, a wait for the agent ends once its announcement is heard,
though it may have begun before (`leads_woken`). A request is answered on the control stream
(`leads_answered`), goes on waiting on every other stream (`leads_refused`), and fails if its
payload is too long (`leads_rejected`).

So the call returns with what every order leads to (`call_returns`). If it still waits then, time
passes to its deadline, and it returns with the timeout (`call_expires`). -/

namespace CommandLink
namespace Session

variable {conduct : Conduct} {clock since n : Nat} {c : Controller Link} {a : Agent Link}
  {call call' : Controller.Call} {result : Except EndpointError Controller.Answer}
  {outcome : Except EndpointError Controller.Answer → Outcome}

/-! ## Calls -/

theorem awaitOwn_of_result {s : Session} (h : s.controller.bind ownResult = some result) :
    s.awaitOwn none patience = (s, some result) := by
  show s.awaitOwn none (999 + 1) = _
  simp [awaitOwn, h]

theorem awaitOwn_of_elapse {s t : Session} (waits : s.controller.bind ownResult = none)
    (elapsed : s.elapse none = some t) (h : t.controller.bind ownResult = some result) :
    s.awaitOwn none patience = (t, some result) := by
  show s.awaitOwn none (998 + 1 + 1) = _
  simp [awaitOwn, waits, elapsed, h]

/-- What is left when the step's own call has been waited for. -/
def conclude (outcome : Except EndpointError Controller.Answer → Outcome)
    (awaited : Session × Option (Except EndpointError Controller.Answer)) : Session × Outcome :=
  (awaited.1.modifyController fun c => { c with tasks := c.tasks.tail },
    (awaited.2.map outcome).getD .blocked)

theorem call_pair {down : List Octets} :
    (pair conduct clock c [] down a []).call call none outcome =
      conclude outcome ((pair conduct clock c [begun call clock] down a []).settle.awaitOwn none
        patience) := rfl

theorem conclude_returned :
    conclude outcome (pair conduct clock c [returned call since result] [] a [], some result) =
      (pair conduct clock c [] [] a [], outcome result) := rfl

theorem advance_returned :
    Task.advance Controller.Call.step clock c [returned call since result] = none := rfl

/-- The call has returned, and the endpoints are as `P` says. -/
def Returned (conduct : Conduct) (clock : Nat) (P : Controller Link → Agent Link → Prop)
    (result : Except EndpointError Controller.Answer) (t : Session) : Prop :=
  ∃ c a call since, P c a ∧ t = pair conduct clock c [returned call since result] [] a []

/-- The call waits at `call`, and nothing is at hand. -/
def StillWaits (conduct : Conduct) (clock : Nat) (stream : StreamId) (call : Controller.Call)
    (t : Session) : Prop :=
  ∃ (c : Controller Link) (a : Agent Link), c.Vacant stream ∧ a.Vacant ∧
    t = pair conduct clock c [begun call clock] [] a []

/-- A call returns with what every order leads to. -/
theorem call_returns {P : Controller Link → Agent Link → Prop} {down : List Octets}
    (outcome : Except EndpointError Controller.Answer → Outcome) (I : Idle c a)
    (H : Leads (Returned conduct clock P result) n
      (pair conduct clock c [begun call clock] down a []))
    (le : n ≤ enough) :
    ∃ c' a', P c' a' ∧ (pair conduct clock c [] down a []).call call none outcome =
      (pair conduct clock c' [] [] a' [], outcome result) := by
  obtain ⟨c', a', call', since, p, settled⟩ := H.settle I le
  refine ⟨c', a', p, ?_⟩
  rw [call_pair, settled, awaitOwn_of_result rfl, conclude_returned]

/-- A call that goes on waiting returns when its time has run out. -/
theorem call_expires {stream : StreamId} {limit : Duration} (I : Idle c a)
    (H : Leads (StillWaits conduct clock stream call') n
      (pair conduct clock c [begun call clock] [] a []))
    (le : n ≤ enough) (limited : call'.limit = some limit)
    (expires : Controller.Call.expire limit call' = .done result) :
    ((pair conduct clock c [] [] a []).call call none outcome).2 = outcome result := by
  obtain ⟨d, b, D, B, settled⟩ := H.settle I le
  have quiet : Leads
      (· = pair conduct (clock + limit.nanos) d [returned call' clock result] [] b []) 0
      (pair conduct (clock + limit.nanos) d [returned call' clock result] [] b []) :=
    Quiet.leads (.of_vacant D B) advance_returned rfl
  have still := quiet.settle (.of_vacant D B) (Nat.zero_le _)
  have elapsed : (pair conduct clock d [begun call' clock] [] b []).elapse none =
      some (pair conduct (clock + limit.nanos) d [returned call' clock result] [] b []) := by
    rw [← still]
    simp [elapse, pair, ControllerSide.nextDeadline, begun, returned, limited, modifyController,
      ControllerSide.expire, expires, Task.note]
  rw [call_pair, settled, awaitOwn_of_elapse rfl elapsed rfl, conclude_returned]

/-! ## Requests -/

/-- Either end takes the other's next frame for a new one, and the agent misses none before it. -/
structure InStep (c : Controller Link) (a : Agent Link) : Prop where
  new : a.inbound.isRepeat c.outbound.peek = false
  next : a.inbound.isGap c.outbound.peek = false
  answer : c.inbound.isRepeat a.outbound.peek = false

variable {command : Command} {timeout : Option Duration}

/-- Every order leads from a request on the control stream to what the handler makes of its
command. -/
theorem leads_answered (timeout : Option Duration) (C : c.Vacant command.stream) (A : a.Vacant)
    (N : InStep c a)
    (control : command.stream = StreamId.control) (fits : command.payload.length ≤ payloadLimit)
    {result : Except Status Octets} (answered : conduct.answer command.invocation = (false, result))
    (short : ∀ payload, result = .ok payload → payload.length ≤ payloadLimit) :
    Leads (Returned conduct clock (fun d b => d.Vacant command.stream ∧ b.Vacant) (reply result)) 17
      (pair conduct clock c [begun (.request command timeout) clock] [] a []) := by
  rw [Command.invocation, control] at answered
  have carried : (Agent.responsePayload command.id result).length ≤ Frame.maxPayload :=
    Agent.length_responsePayload_le short
  refine leads_ask C A fits (leads_answer conduct clock C.sent A (c.commandPost command fits) rfl
    control rfl N.new N.next answered carried (fun b B => ?_) none (.inl rfl))
  refine leads_hear C.sent B (a.responsePost _ carried) rfl control.symm N.answer fun d seen D => ?_
  have read : Controller.reading command (a.responsePost _ carried).payload = reply result :=
    reading_responsePayload command result
  rw [read]
  exact Quiet.leads (n := 0) (.of_vacant D B) advance_returned ⟨d, b, _, clock, ⟨D, B⟩, rfl⟩

/-- Every order leads from a request on another stream to a wait without end. -/
theorem leads_refused (conduct : Conduct) (clock : Nat) (timeout : Option Duration)
    (C : c.Vacant command.stream) (A : a.Vacant) (N : InStep c a)
    (other : command.stream ≠ StreamId.control) (fits : command.payload.length ≤ payloadLimit) :
    Leads (StillWaits conduct clock command.stream
        (.listen ⟨command.stream, command.id, none, timeout, some 0⟩)) 7
      (pair conduct clock c [begun (.request command timeout) clock] [] a []) := by
  obtain ⟨b, B, refuses⟩ := onward_refuse conduct clock C.sent A (c.commandPost command fits) rfl
    other N.new N.next
  obtain ⟨d, D, ignores⟩ := onward_ignore conduct clock C.sent B (a.refusalPost command.stream) rfl
    N.answer
  refine leads_ask C A fits
    (refuses.leads_listening C.sent.slot ⟨C.link, A.link⟩ ?_ none (.inl rfl))
  refine ignores.leads_listening C.sent.slot ⟨C.link, B.link⟩ ?_
  exact leads_wait timeout D B ⟨d, b, D, B, rfl⟩

/-- Every order leads from a request with a payload that is too long to its failure. -/
theorem leads_rejected (conduct : Conduct) (clock : Nat) (timeout : Option Duration)
    (C : c.Vacant command.stream) (A : a.Vacant) (long : payloadLimit < command.payload.length) :
    ∃ reason, Leads (Returned conduct clock (fun d b => d = c.committed ∧ b = a)
        (.error (.invalidArg reason))) 2
      (pair conduct clock c [begun (.request command timeout) clock] [] a []) := by
  obtain ⟨reason, fails⟩ := leads_oversized conduct clock timeout C A long
  have D : c.committed.Vacant command.stream := ⟨C.link, C.running, C.free, C.slot⟩
  have K : Quiet conduct clock c.committed [] a [] := .of_vacant D A
  exact ⟨reason, fails (K.leads advance_returned ⟨_, a, _, _, ⟨rfl, rfl⟩, rfl⟩)⟩

/-- A request on the control stream returns what the handler makes of its command. -/
theorem request_answered (C : c.Vacant command.stream) (A : a.Vacant) (N : InStep c a)
    (control : command.stream = StreamId.control) (fits : command.payload.length ≤ payloadLimit)
    {result : Except Status Octets} (answered : conduct.answer command.invocation = (false, result))
    (short : ∀ payload, result = .ok payload → payload.length ≤ payloadLimit) :
    ((pair conduct clock c [] [] a []).call (.request command timeout) none outcome).2 =
      outcome (reply result) := by
  obtain ⟨d, b, -, called⟩ := call_returns outcome (.of_vacant C A)
    (leads_answered timeout C A N control fits answered short) (by decide)
  rw [called]

/-- A request on another stream returns when its time has run out. -/
theorem request_refused (C : c.Vacant command.stream) (A : a.Vacant) (N : InStep c a)
    (other : command.stream ≠ StreamId.control) (fits : command.payload.length ≤ payloadLimit)
    {limit : Duration} :
    ((pair conduct clock c [] [] a []).call (.request command (some limit)) none outcome).2 =
      outcome (.error (.timeout limit)) :=
  call_expires (.of_vacant C A) (leads_refused conduct clock _ C A N other fits) (by decide) rfl rfl

/-- A request with a payload that is too long fails at once. -/
theorem request_oversized (C : c.Vacant command.stream) (A : a.Vacant)
    (long : payloadLimit < command.payload.length) :
    ∃ reason, ((pair conduct clock c [] [] a []).call (.request command timeout) none outcome).2 =
      outcome (.error (.invalidArg reason)) := by
  obtain ⟨reason, fails⟩ := leads_rejected conduct clock timeout C A long
  obtain ⟨d, b, -, called⟩ := call_returns outcome (.of_vacant C A) fails (by decide)
  exact ⟨reason, by rw [called]⟩

/-! ## The agent announces itself -/

/-- A controller and an agent that have met: the agent's announcement has been heard. -/
structure Met (c : Controller Link) (a : Agent Link) : Prop where
  controller : ∀ stream, c.Vacant stream
  agent : a.Vacant
  inStep : InStep c a
  ready : c.handshake.state = .ready
  held : ∀ stream, c.held.get stream = false

/-- The agent of a pair as it is when it starts, but for the link. -/
def starter (config : AgentConfig) : Agent Link := (Agent.fresh (bearing .agent []) config).sent

theorem starter_vacant (config : AgentConfig) : (starter config).Vacant where
  link := rfl
  running := rfl
  free := rfl
  slot := StreamTable.get_fill ..
  workers := rfl
  serves stream := by
    simp only [Agent.isOpen, starter, Agent.sent, Agent.fresh, StreamTable.get_set,
      StreamTable.get_fill]
    by_cases h : stream = StreamId.control
    · simp [h]
    · simp [h, Ne.symm h]

/-- The announcement of an agent. -/
def startPost : Post := ⟨.agentStart, SeqNum.first, StreamId.control, [], Nat.zero_le _⟩

theorem start_bearing {config : AgentConfig} (announces : config.announce = true) :
    Agent.start (bearing .agent []) config =
      (.ok (), (starter config).withLink (bearing .agent [startPost.octets])) := by
  rw [Agent.start, if_pos announces]
  exact (Agent.fresh (bearing .agent []) config).sendPayload_bearing rfl rfl (Nat.zero_le _)

/-- The controller once it has heard the announcement. -/
def greeted (config : ControllerConfig) (seed : UInt32) : Controller Link :=
  (Controller.start (bearing .controller []) config seed).receive (some startPost.octets)

/-- It has heard nothing else. -/
theorem greeted_eq (config : ControllerConfig) (seed : UInt32) :
    greeted config seed =
      { Controller.start (bearing .controller []) config seed with
        inbound := ⟨some SeqNum.first⟩
        handshake := ⟨.ready, 1⟩
        stats := LinkStats.zero.countReceived } := by
  have kind : startPost.kind = .agentStart := rfl
  simp only [greeted, Controller.receive, Incoming.ofOctets_octets, Controller.accept,
    Post.ofCode?_header, kind]
  rfl

theorem met_of_start (config : ControllerConfig) (seed : UInt32) (agentConfig : AgentConfig) :
    Met (greeted config seed) (starter agentConfig) := by
  rw [greeted_eq]
  exact {
    controller := fun stream => ⟨rfl, rfl, rfl, StreamTable.get_fill ..⟩
    agent := starter_vacant agentConfig
    inStep := ⟨rfl, rfl, rfl⟩
    ready := rfl
    held := fun stream => StreamTable.get_fill .. }

/-! ## Waiting for the agent -/

/-- A call that waits for an agent that has started returns. -/
theorem leads_ready (conduct : Conduct) (clock since : Nat) (timeout : Duration) {stream : StreamId}
    (C : c.Vacant stream) (A : a.Vacant) (ready : c.handshake.state = .ready) :
    Leads (Returned conduct clock (fun d b => d = c ∧ b = a) (.ok .agentReady)) 1
      (pair conduct clock c [begun (.awaitAgent timeout) since] [] a []) := by
  have answered : (Controller.Call.awaitAgent timeout).step c = (c, .done (.ok .agentReady)) := by
    simp [Controller.Call.step, ready]
  exact leads_done (.of_vacant C A) (.of_vacant C A) answered
    (Quiet.leads (n := 0) (.of_vacant C A) advance_returned ⟨c, a, _, _, ⟨rfl, rfl⟩, rfl⟩)

/-- An agent that has started is not waited for. -/
theorem awaitAgent_ready {timeout : Duration} {stream : StreamId} (C : c.Vacant stream)
    (A : a.Vacant) (ready : c.handshake.state = .ready) :
    (pair conduct clock c [] [] a []).call (.awaitAgent timeout) none outcome =
      (pair conduct clock c [] [] a [], outcome (.ok .agentReady)) := by
  obtain ⟨d, b, ⟨rfl, rfl⟩, called⟩ := call_returns outcome (.of_vacant C A)
    (leads_ready conduct clock clock timeout C A ready) (by decide)
  exact called

/-! ### While the announcement is on its way -/

section
variable {config : ControllerConfig} {seed : UInt32} {agentConfig : AgentConfig}

/-- A controller and an agent that have just started. The agent's announcement is on its way. -/
def unheard (conduct : Conduct) (clock : Nat) (config : ControllerConfig) (seed : UInt32)
    (agentConfig : AgentConfig) (calls : List CallTask) : Session :=
  pair conduct clock (Controller.start (bearing .controller []) config seed) calls
    [startPost.octets] (starter agentConfig) []

theorem start_vacant (stream : StreamId) :
    (Controller.start (bearing .controller []) config seed).Vacant stream :=
  ⟨rfl, rfl, rfl, StreamTable.get_fill ..⟩

theorem idle_start : Idle (Controller.start (bearing .controller []) config seed)
    (starter agentConfig) :=
  .of_vacant (start_vacant StreamId.control) (starter_vacant agentConfig)

/-- The announcement is heard. -/
theorem onward_greet : Onward conduct clock (Controller.start (bearing .controller []) config seed)
    [startPost.octets] (starter agentConfig) [] (greeted config seed) [] (starter agentConfig) [] :=
  have M := met_of_start config seed agentConfig
  onward_hear rfl M.agent.free M.agent.workersWait fun _ =>
    exchange_idle (.of_vacant (M.controller StreamId.control) M.agent)

/-- Every order leads from a wait for the agent to its end, though the announcement is heard only
later. -/
theorem leads_woken (conduct : Conduct) (clock since : Nat) (config : ControllerConfig)
    (seed : UInt32) (agentConfig : AgentConfig) (timeout : Duration) :
    Leads (Returned conduct clock (fun c a => c = greeted config seed ∧ a = starter agentConfig)
        (.ok .agentReady)) 2
      (unheard conduct clock config seed agentConfig [begun (.awaitAgent timeout) since]) := by
  have M := met_of_start config seed agentConfig
  have C := M.controller StreamId.control
  exact onward_greet.leads rfl (leads_ready conduct clock since timeout C M.agent M.ready)

/-- A wait that begins before the announcement is heard ends as one that begins after. -/
theorem awaitAgent_woken {timeout : Duration} :
    (unheard conduct clock config seed agentConfig []).call (.awaitAgent timeout) none outcome =
      (pair conduct clock (greeted config seed) [] [] (starter agentConfig) [],
        outcome (.ok .agentReady)) := by
  obtain ⟨c, a, ⟨rfl, rfl⟩, called⟩ := call_returns outcome idle_start
    (leads_woken conduct clock clock config seed agentConfig timeout) (by decide)
  exact called

/-- The announcement of an agent that has just started is carried over. -/
theorem exchange_announced :
    (pair conduct clock (Controller.start (bearing .controller []) config seed) [] []
      ((starter agentConfig).withLink (bearing .agent [startPost.octets])) []).exchange =
      unheard conduct clock config seed agentConfig [] :=
  exchange_down idle_start (Post.length_octets_le _)

/-- Two endpoints that have just started meet. -/
theorem settle_unheard :
    (unheard conduct clock config seed agentConfig []).settle =
      pair conduct clock (greeted config seed) [] [] (starter agentConfig) [] := by
  have M := met_of_start config seed agentConfig
  have meets : Leads (· = pair conduct clock (greeted config seed) [] [] (starter agentConfig) []) 1
      (unheard conduct clock config seed agentConfig []) :=
    onward_greet.leads rfl
      (Quiet.leads (.of_vacant (M.controller StreamId.control) M.agent) rfl rfl)
  exact meets.settle idle_start (by decide)

end

end Session
end CommandLink
