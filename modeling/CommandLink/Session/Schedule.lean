import CommandLink.Session.Side

/-! # Sessions and their schedule

A session runs a controller, an agent, or both with a link between them. Threads take turns one
step at a time. Of the threads that can go on, those that pass on a received frame go first, then
the calls, the workers, and last the receive paths, so that a session is quiet only when nothing
can go on. Time passes only when all wait: then it jumps to the moment at which the first call
runs out of it. -/

namespace CommandLink

structure Session where
  controller : Option Session.ControllerSide
  agent : Option Session.AgentSide
  /-- The time in nanoseconds. -/
  clock : Nat

namespace Session

def modifyController (s : Session) (f : ControllerSide → ControllerSide) : Session :=
  { s with controller := s.controller.map f }

def modifyAgent (s : Session) (f : AgentSide → AgentSide) : Session :=
  { s with agent := s.agent.map f }

/-- Applies a step of the controller's side. -/
def onController (s : Session) (f : ControllerSide → Option ControllerSide) : Option Session :=
  s.controller.bind fun side => (f side).map fun side' => { s with controller := some side' }

/-- Applies a step of the agent's side. -/
def onAgent (s : Session) (f : AgentSide → Option AgentSide) : Option Session :=
  s.agent.bind fun side => (f side).map fun side' => { s with agent := some side' }

/-- Carries over what has left each link, and the news that an end has stopped. -/
def exchange (s : Session) : Session :=
  match s.controller, s.agent with
  | some c, some a =>
    let (fromController, controllerLink) := c.endpoint.link.collect
    let (fromAgent, agentLink) := a.endpoint.link.collect
    let controllerGone := controllerLink.stopped
    let agentGone := agentLink.stopped
    { s with
      controller := some { c with
        endpoint := { c.endpoint with
          link := if agentGone then controllerLink.losePeer else controllerLink }
        inlet := if controllerGone then { c.inlet with queue := [] } else c.inlet.take fromAgent }
      agent := some { a with
        endpoint := { a.endpoint with
          link := if controllerGone then agentLink.losePeer else agentLink }
        inlet := if agentGone then { a.inlet with queue := [] }
          else a.inlet.take fromController } }
  | some c, none => { s with controller := some c.reply }
  | none, _ => s

/-- One step of the first thread that can go on. -/
def step (s : Session) : Option Session :=
  let stepped :=
    s.onController (·.stepReceiving)
      <|> s.onAgent (·.stepReceiving)
      <|> s.onController (·.stepTasks s.clock)
      <|> s.onAgent (·.stepTasks s.clock)
      <|> s.onAgent (·.stepWorkers)
      <|> s.onController (·.stepInlet)
      <|> s.onAgent (·.stepInlet)
  stepped.map exchange

/-- Runs a session for at most `fuel` steps, until it is quiet. -/
def run (s : Session) : Nat → Session
  | 0 => s
  | fuel + 1 =>
    match s.step with
    | some s' => run s' fuel
    | none => s

/-- More steps than a session takes between two steps of its script. -/
def enough : Nat := 1000000

/-- Runs a session until it is quiet. -/
def settle (s : Session) : Session := s.exchange.run enough

/-- Forgets what the step before has recorded. -/
def forget (s : Session) : Session :=
  (s.modifyController ControllerSide.forget).modifyAgent AgentSide.forget

/-- Moves on to the moment at which the first waiting call runs out of time, or to `appointment`
if that comes first. -/
def elapse (s : Session) (appointment : Option Nat) : Option Session :=
  let deadline := s.controller.bind (·.nextDeadline)
  match (deadline.toList ++ appointment.toList).min? with
  | none => none
  | some clock =>
    some ({ s with clock := clock }.modifyController (ControllerSide.expire clock)).settle

end Session
end CommandLink
