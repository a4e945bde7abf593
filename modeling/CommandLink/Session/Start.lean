import CommandLink.Session.Schedule

/-! # How a session begins

One endpoint on a recording link, or both on a link between them; then the controller starts
first. -/

namespace CommandLink
namespace Session

structure ControllerSetup where
  config : ControllerConfig
  serial : SerialLink.Config

structure AgentSetup where
  config : AgentConfig
  conduct : Conduct
  serial : SerialLink.Config

/-- What lies between two endpoints. -/
inductive Medium
  | direct
  | serial
  deriving DecidableEq

/-- The failure of a recording link that is told not to start. -/
def startFailure : EndpointError := .link (.io (.ofKind .connectionRefused))

/-- The token before a controller's first. Any would do. -/
def seed : UInt32 := 0x2F6B9D41

def recording (switches : Switches) : Link := .recording ⟨switches, [], false⟩

def linkOn (medium : Medium) (config : SerialLink.Config) : Link :=
  match medium with
  | .direct => .direct ⟨[], false, false⟩
  | .serial => .serial (.ofConfig config)

def controllerSide (setup : ControllerSetup) (link : Link) : ControllerSide where
  endpoint := .start link setup.config seed
  inlet := .ofConfig setup.serial
  opened := .fill false
  tasks := []
  replies := []
  earlierToken := 0

/-- The agent's side, and how its start went. -/
def agentSide (setup : AgentSetup) (link : Link) : Except EndpointError Unit × AgentSide :=
  let (result, endpoint) := Agent.start link setup.config
  (result, {
    endpoint := endpoint
    inlet := .ofConfig setup.serial
    conduct := setup.conduct
    gateOpen := false
    tasks := [] })

/-- A controller on a recording link. -/
def ofController (setup : ControllerSetup) (switches : Switches) : Except EndpointError Session :=
  if switches.failStart then .error startFailure
  else .ok (Session.mk (some (controllerSide setup (recording switches))) none 0).settle

/-- An agent on a recording link. A failure comes with the frames sent before. -/
def ofAgent (setup : AgentSetup) (switches : Switches) :
    Except (EndpointError × List Octets) Session :=
  if switches.failStart then .error (startFailure, [])
  else
    match agentSide setup (recording switches) with
    | (.ok (), side) => .ok (Session.mk none (some side) 0).settle
    | (.error e, side) => .error (e, side.endpoint.link.sent)

/-- Both endpoints. -/
def ofPair (medium : Medium) (controller : ControllerSetup) (agent : AgentSetup) :
    Except EndpointError Session :=
  match agentSide agent (linkOn medium agent.serial) with
  | (.ok (), side) =>
    .ok (Session.mk (some (controllerSide controller (linkOn medium controller.serial)))
      (some side) 0).settle
  | (.error e, _) => .error e

end Session
end CommandLink
