import CommandLink.Session.Script

/-! # Taking the steps of a session

A step returns when its call has returned and the session is quiet. -/

namespace CommandLink
namespace Session

/-- A caller that gives a call up at some time, with what it then says. -/
structure Appointment where
  stream : StreamId
  time : Nat
  verdict : EndpointError

/-- How many times a step waits for time to pass at most. -/
def patience : Nat := 1000

/-- The result of the step's own call, which is the first of the tasks. -/
def ownResult (c : ControllerSide) : Option (Except EndpointError Controller.Answer) :=
  c.tasks.head?.bind (·.result)

/-- Waits for the step's own call to return. A call that is given up is cancelled until it
returns, and its result is the verdict. -/
def awaitOwn (s : Session) (appointment : Option Appointment) :
    Nat → Session × Option (Except EndpointError Controller.Answer)
  | 0 => (s, none)
  | fuel + 1 =>
    let due := appointment.filter (·.time ≤ s.clock)
    match s.controller.bind ownResult, due with
    | some _, some a => (s, some (.error a.verdict))
    | some result, none => (s, some result)
    | none, some a =>
      let cancelled := s.modifyController fun c =>
        { c with endpoint := c.endpoint.cancel a.stream }
      awaitOwn cancelled.settle appointment fuel
    | none, none =>
      match s.elapse (appointment.map (·.time)) with
      | some s' => awaitOwn s' appointment fuel
      | none => (s, none)

/-- Makes a call on the controller and waits for it. -/
def call (s : Session) (call : Controller.Call) (appointment : Option Appointment)
    (outcome : Except EndpointError Controller.Answer → Outcome) : Session × Outcome :=
  let task := ⟨none, call, s.clock, none⟩
  let begun := s.modifyController fun c => { c with tasks := task :: c.tasks }
  let (s, result) := begun.settle.awaitOwn appointment patience
  (s.modifyController fun c => { c with tasks := c.tasks.tail },
    (result.map outcome).getD .blocked)

/-- Makes a call on the agent and waits for it. -/
def callAgent (s : Session) (call : Agent.Call) : Session × Outcome :=
  let task := ⟨none, call, s.clock, none⟩
  let begun := s.modifyAgent fun a => { a with tasks := task :: a.tasks }
  let s := begun.settle
  let result := s.agent.bind fun a => a.tasks.head?.bind (·.result)
  (s.modifyAgent fun a => { a with tasks := a.tasks.tail },
    (result.map Outcome.ofAgentAnswer).getD .blocked)

/-- Starts a call on a thread of its own. An earlier call of that name loses its name. -/
def addTask (name : String) (call : κ) (clock : Nat) (tasks : List (Task κ ρ)) :
    List (Task κ ρ) :=
  (tasks.map fun t => if t.isNamed (some name) then { t with name := none } else t) ++
    [⟨some name, call, clock, none⟩]

/-- The result of a call that has returned, which is forgotten then. -/
def pollTask (name : String) (outcome : ρ → Outcome) (tasks : List (Task κ ρ)) :
    Outcome × List (Task κ ρ) :=
  match tasks.find? (Task.isNamed (some name)) with
  | none => (.unknownName, tasks)
  | some t =>
    match t.result with
    | none => (.blocked, tasks)
    | some result => (outcome result, tasks.filter fun t => !t.isNamed (some name))

/-- Does something with a stream, if it exists. -/
def withStream (s : Session) (stream : UInt8) (f : StreamId → Session × Outcome) :
    Session × Outcome :=
  match StreamId.ofOctet stream with
  | .ok id => f id
  | .error e => (s, .failed (.wire e))

/-- Changes the controller without waiting for anything. -/
def act (s : Session) (c : ControllerSide) (endpoint : Controller Link) (outcome : Outcome) :
    Session × Outcome :=
  ({ s with controller := some { c with endpoint := endpoint } }, outcome)

/-- How long a wait on a thread of its own lasts. -/
def errandLimit : Duration := Duration.ofSeconds 60

/-- The call of an errand, if its stream exists. -/
def ControllerErrand.call : ControllerErrand → Except EndpointError Controller.Call
  | .receive stream id =>
    match StreamId.ofOctet stream with
    | .ok stream => .ok (.listen (.forBytes stream id none))
    | .error e => .error (.wire e)
  | .awaitAgent => .ok (.awaitAgent errandLimit)
  | .sync => .ok (.sync errandLimit)

/-- One step for the controller's side, before the session settles. -/
def performController (s : Session) (c : ControllerSide) : ControllerStep → Session × Outcome
  | .idle => (s, .done)
  | .send command =>
    match command.command with
    | .ok command =>
      let (result, endpoint) := c.endpoint.send command
      s.act c endpoint (.ofUnit result)
    | .error e => (s, .failed e)
  | .receive stream id capacity timeout =>
    let buffer := List.replicate capacity 0xAA
    s.withStream stream fun stream =>
      s.call (.listen (.within capacity stream id (timeout <|> c.endpoint.config.responseTimeout)))
        none (.ofFill buffer)
  | .receiveBytes stream id timeout =>
    s.withStream stream fun stream =>
      s.call (.listen (.forBytes stream id (some timeout))) none .ofAnswer
  | .cancel stream => s.withStream stream fun stream => s.act c (c.endpoint.cancel stream) .done
  | .discard stream => s.withStream stream fun stream => s.act c (c.endpoint.discard stream) .done
  | .openStream stream =>
    s.withStream stream fun stream =>
      match c.endpoint.openStream stream with
      | .ok endpoint =>
        s.act { c with opened := c.opened.set stream true } endpoint (.number stream.val)
      | .error e => (s, .failed e)
  | .release stream =>
    s.withStream stream fun stream =>
      if c.opened.get stream then
        s.act { c with opened := c.opened.set stream false } (c.endpoint.releaseStream stream)
          (.flag true)
      else (s, .flag false)
  | .request command timeout =>
    match command.command with
    | .ok command =>
      if c.opened.get command.stream then
        s.call (.request command (timeout <|> c.endpoint.config.responseTimeout)) none .ofAnswer
      else (s, .noHandle)
    | .error e => (s, .failed e)
  | .requestAsync command timeout cancelAfter =>
    match command.command with
    | .ok command =>
      if c.opened.get command.stream then
        let cancelled := cancelAfter.map fun d =>
          Appointment.mk command.stream (s.clock + d.nanos) .cancelled
        let late := timeout.map fun d =>
          Appointment.mk command.stream (s.clock + d.nanos) (.timeout d)
        let first := match cancelled, late with
          | some a, some b => some (if b.time < a.time then b else a)
          | a, b => a <|> b
        s.call (.request command none) first .ofAnswer
      else (s, .noHandle)
    | .error e => (s, .failed e)
  | .onBeacon => s.act c { c.endpoint with onBeacon := true } .done
  | .onStandbyExit => s.act c { c.endpoint with onStandbyExit := true } .done
  | .clearHandlers => s.act c c.endpoint.clearHandlers .done
  | .onStart none => s.act c { c.endpoint with onStart := some ⟨none⟩ } .done
  | .onStart (some command) =>
    match command.command with
    | .ok command => s.act c { c.endpoint with onStart := some ⟨some command⟩ } .done
    | .error e => (s, .failed e)
  | .awaitAgent timeout => s.call (.awaitAgent timeout) none .ofAnswer
  | .sync timeout =>
    s.call (.sync (timeout.getD c.endpoint.config.syncTimeout)) none .ofAnswer
  | .reset =>
    let (result, endpoint) := c.endpoint.resetAgent
    s.act c endpoint (.ofUnit result)
  | .deinit => s.act c c.endpoint.deinit .done
  | .spawn name errand =>
    match errand.call with
    | .ok call =>
      ({ s with controller := some { c with tasks := addTask name call s.clock c.tasks } }, .done)
    | .error e => (s, .failed e)
  | .poll name =>
    let (outcome, tasks) := pollTask name .ofAnswer c.tasks
    ({ s with controller := some { c with tasks := tasks } }, outcome)
  | .inject buffer =>
    if c.endpoint.link.stopped then (s, .done)
    else ({ s with controller := some { c with inlet := c.inlet.push [buffer] } }, .done)
  | .switch f => s.act c { c.endpoint with link := c.endpoint.link.switch f } .done

/-- One step for the agent's side, before the session settles. -/
def performAgent (s : Session) (a : AgentSide) : AgentStep → Session × Outcome
  | .idle => (s, .done)
  | .openStream => s.callAgent .openStream
  | .close stream => s.withStream stream fun stream => s.callAgent (.closeStream stream)
  | .event header args =>
    let (result, endpoint) := a.endpoint.sendEvent header args
    ({ s with agent := some { a with endpoint := endpoint } }, .ofUnit result)
  | .announce =>
    let (result, endpoint) := a.endpoint.announce
    ({ s with agent := some { a with endpoint := endpoint } }, .ofUnit result)
  | .onReset =>
    ({ s with agent := some { a with endpoint := { a.endpoint with onReset := true } } }, .done)
  | .gate isOpen => ({ s with agent := some { a with gateOpen := isOpen } }, .done)
  | .deinit => s.callAgent .deinit
  | .settings => (s, .settings a.endpoint.config)
  | .spawn name (.close stream) =>
    s.withStream stream fun stream =>
      ({ s with agent := some { a with
        tasks := addTask name (.closeStream stream) s.clock a.tasks } }, .done)
  | .spawn name .deinit =>
    ({ s with agent := some { a with tasks := addTask name .deinit s.clock a.tasks } }, .done)
  | .poll name =>
    let (outcome, tasks) := pollTask name .ofAgentAnswer a.tasks
    ({ s with agent := some { a with tasks := tasks } }, outcome)
  | .inject buffer =>
    if a.endpoint.link.stopped then (s, .done)
    else ({ s with agent := some { a with inlet := a.inlet.push [buffer] } }, .done)
  | .switch f =>
    ({ s with agent := some { a with
      endpoint := { a.endpoint with link := a.endpoint.link.switch f } } }, .done)

/-- Takes a step for the controller, with the replies that its first frame brings. -/
def stepController (s : Session) (step : ControllerStep) (replies : List Reply) :
    Session × Outcome :=
  let s := s.forget.modifyController fun c => { c with replies := replies }
  match s.controller with
  | none => (s, .done)
  | some c =>
    let (s, outcome) := s.performController c step
    (s.settle.modifyController fun c => { c with replies := [] }, outcome)

/-- Takes a step for the agent. -/
def stepAgent (s : Session) (step : AgentStep) : Session × Outcome :=
  let s := s.forget
  match s.agent with
  | none => (s, .done)
  | some a =>
    let (s, outcome) := s.performAgent a step
    (s.settle, outcome)

end Session
end CommandLink
