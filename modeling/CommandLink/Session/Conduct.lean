import CommandLink.Agent.Basic

/-! # How commands are handled in a session

A list of rules, of which the first that fits a command answers it, or a small agent for
demonstrations that knows two commands. -/

namespace CommandLink

/-- The agent for demonstrations: it tells its version and echoes payloads. -/
structure DemoAgent where
  version : Octets

namespace DemoAgent

def versionCommand : UInt8 := 1

def echoCommand : UInt8 := 2

/-- What the agent answers. -/
def answer (d : DemoAgent) (invocation : Invocation) : Except Status Octets :=
  if invocation.id.subsystem = Subsystem.sys.code then
    if invocation.id.command = versionCommand then .ok d.version
    else if invocation.id.command = echoCommand then .ok invocation.payload
    else .error .invalidArg
  else .error .notSupported

end DemoAgent

namespace Session

/-- What a rule answers. -/
inductive RuleAnswer
  | fail (status : Status)
  | payload (octets : Octets)
  | echo

structure Rule where
  /-- The first octets of the commands that fit; a gap fits any octet. -/
  pattern : List (Option UInt8)
  /-- The answer waits until the gate is open. -/
  gated : Bool
  answer : RuleAnswer

namespace Rule

/-- Whether octets begin as a pattern says. -/
def fits : List (Option UInt8) → List UInt8 → Bool
  | [], _ => true
  | _ :: _, [] => false
  | none :: pattern, _ :: octets => fits pattern octets
  | some b :: pattern, b' :: octets => b == b' && fits pattern octets

def applies (r : Rule) (id : CommandId) : Bool :=
  fits r.pattern [id.subsystem, id.command, id.subcommand]

end Rule

inductive Conduct
  | rules (rules : List Rule)
  | demo (agent : DemoAgent)

/-- What a command is answered, and whether the answer waits for the gate. -/
def Conduct.answer (c : Conduct) (invocation : Invocation) : Bool × Except Status Octets :=
  match c with
  | .demo agent => (false, agent.answer invocation)
  | .rules list =>
    match list.find? (·.applies invocation.id) with
    | none => (false, .error .notSupported)
    | some rule =>
      (rule.gated,
        match rule.answer with
        | .fail status => .error status
        | .payload octets => .ok octets
        | .echo => .ok invocation.payload)

end Session
end CommandLink
