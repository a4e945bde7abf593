import CommandLink.Cli.CommandLine
import CommandLink.Cli.Decode
import CommandLink.Session.Perform
import CommandLink.Session.Start

/-! # Running a command

What a command prints and how it ends. Commands that reach for a socket are told by a `Socket` what
they find at its path. A command sent to an agent runs in a session of a controller and that agent
on a serial link. -/

namespace CommandLink
namespace Cli

/-- What is found at the path of a socket. -/
inductive Socket
  /-- Nothing. -/
  | absent
  /-- Nothing, nor the directory that would hold it. -/
  | noDirectory
  | directory
  /-- A file on which nobody listens. -/
  | deaf
  /-- The path is too long for a socket. -/
  | tooLong
  /-- A listener that says nothing. -/
  | silent
  /-- A listener with an agent that has opened some streams. -/
  | serving (agent : Session.AgentSetup) (opened : Nat)

/-- How a run ends. -/
inductive Outcome
  | exit (code : Nat) (stdout : Octets)
  | failed (failure : Failure)
  | arguments (error : ArgumentError)

def noSuchFile : IoError := ⟨.notFound, "No such file or directory (os error 2)"⟩

def refusedConnection : IoError := ⟨.connectionRefused, "Connection refused (os error 111)"⟩

def longPath : IoError := ⟨.other, "path must be shorter than SUN_LEN"⟩

def isDirectory : IoError := ⟨.other, "Is a directory (os error 21)"⟩

/-- The version of the program. -/
def programVersion : String := "0.1.0"

/-- What `version` prints. -/
def versionText (extended : Bool) : String :=
  let first := "mmagic " ++ programVersion ++ "\n"
  if extended then
    first ++ s!"protocol_version: {protocolVersion.toNat}\n" ++ "features: async=false, cli=true\n"
  else first

/-- The payload that the arguments give. -/
def SendArguments.payload (a : SendArguments) : Except Failure Octets :=
  match a.data, a.hex with
  | some text, _ => .ok text.toUTF8.toList
  | none, some text => Octets.parse text
  | none, none => .ok []

/-- Opens streams at an agent, as many as there are. -/
def openStreams (s : Session) : Nat → Session
  | 0 => s
  | n + 1 => openStreams (s.callAgent .openStream).1 n

/-- The session that a controller finds itself in when it connects. -/
def connect (timeout : Duration) : Socket → Except Failure Session
  | .absent | .noDirectory => .error (.ofIo "connect failed" noSuchFile)
  | .directory | .deaf => .error (.ofIo "connect failed" refusedConnection)
  | .tooLong => .error (.ofIo "connect failed" longPath)
  | .silent => .ok ⟨some (side timeout), none, 0⟩
  | .serving agent opened =>
    match Session.agentSide agent (Session.linkOn .serial agent.serial) with
    | (.ok (), agentSide) =>
      .ok (openStreams (Session.mk (some (side timeout)) (some agentSide) 0).settle (min opened 32))
    | (.error _, _) => .ok ⟨some (side timeout), none, 0⟩
where
  side (timeout : Duration) : Session.ControllerSide :=
    let serial := SerialLink.Config.default
    Session.controllerSide ⟨⟨some timeout, .ofSeconds 1⟩, serial⟩ (Session.linkOn .serial serial)

/-- Takes hold of a stream for the controller of a session. -/
def holdStream (s : Session) (stream : StreamId) : Except EndpointError Session :=
  match s.controller with
  | none => .error .shutdown
  | some c =>
    match c.endpoint.openStream stream with
    | .ok endpoint => .ok { s with controller := some { c with endpoint := endpoint } }
    | .error e => .error e

/-- Waits for the agent, takes hold of the stream and has the agent carry out a command. -/
def roundTrip (s : Session) (command : Command) (timeout : Duration) : Except Failure Octets :=
  match s.call (.awaitAgent timeout) none .ofAnswer with
  | (_, .failed e) => .error (.ofEndpoint "agent did not announce itself" e)
  | (s, _) =>
    match holdStream s command.stream with
    | .error e => .error (.ofEndpoint "open stream failed" e)
    | .ok s =>
      match s.call (.request command (some timeout)) none .ofAnswer with
      | (_, .octets payload) => .ok payload
      | (_, .failed e) => .error (.ofEndpoint "command failed" e)
      | (_, _) => .error (.ofEndpoint "command failed" .shutdown)

/-- Carries out `send`. -/
def send (a : SendArguments) (socket : Socket) : Except Failure CommandResult := do
  let timeout ← Duration.parse a.timeout
  let stream ← match StreamId.ofOctet a.stream with
    | .ok stream => .ok stream
    | .error e => .error (.usage s!"invalid --stream: {e.text}")
  let payload ← a.payload
  let session ← connect timeout socket
  let answer ← roundTrip session ⟨stream, a.id, payload⟩ timeout
  return ⟨a.stream, a.id, answer⟩

/-- The agent for demonstrations that meets a controller when it connects. -/
def AgentArguments.setup (a : AgentArguments) : Session.AgentSetup :=
  let version := a.appVersion.getD programVersion
  { config := ⟨version, a.announce⟩
    conduct := .demo ⟨version.toUTF8.toList⟩
    serial := { SerialLink.Config.default with role := .agent } }

/-- Why an agent cannot listen on a path, if it cannot. -/
def listenFailure : Socket → Option Failure
  | .noDirectory => some (.ofIo "bind failed" noSuchFile)
  | .directory => some (.ofIo "failed removing stale socket" isDirectory)
  | .tooLong => some (.ofIo "bind failed" longPath)
  | .absent | .deaf | .silent | .serving _ _ => none

/-- Runs a command line. An agent that can listen serves until it is stopped from outside. -/
def run (arguments : List String) (socketAt : String → Socket) : Outcome :=
  match CommandLine.ofArguments arguments with
  | .error e => .arguments e
  | .ok line =>
    match line.choice with
    | .version extended => .exit ExitCode.success (versionText extended).toUTF8.toList
    | .decode frame =>
      match Octets.parse frame with
      | .error e => .failed e
      | .ok octets =>
        match describe octets with
        | .ok report => .exit ExitCode.success (report.print line.format)
        | .error e => .failed e
    | .send a =>
      match send a (socketAt a.path) with
      | .ok result => .exit ExitCode.success (result.print line.format)
      | .error e => .failed e
    | .agent a =>
      match listenFailure (socketAt a.path) with
      | some e => .failed e
      | none => .exit ExitCode.success []

end Cli
end CommandLink
