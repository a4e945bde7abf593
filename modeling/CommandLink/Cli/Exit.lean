import CommandLink.Endpoint.Error

/-! # How the command line ends

The exit codes, and the failures that end a run with one of them and a message. -/

namespace CommandLink
namespace Cli

namespace ExitCode

def success : Nat := 0

def failure : Nat := 1

/-- The agent answered with a status other than success. -/
def agentError : Nat := 2

def linkError : Nat := 3

def permissionDenied : Nat := 50

def dataInvalid : Nat := 60

def usage : Nat := 64

def timeout : Nat := 124

def internal : Nat := 125

end ExitCode

structure Failure where
  code : Nat
  message : String
  deriving DecidableEq

namespace Failure

def usage (message : String) : Failure := ⟨ExitCode.usage, message⟩

/-- A message about what was being done when something failed. -/
def during (code : Nat) (context text : String) : Failure := ⟨code, context ++ ": " ++ text⟩

def ofIo (context : String) (e : IoError) : Failure :=
  let code := match e.kind with
    | .permissionDenied => ExitCode.permissionDenied
    | .timedOut | .wouldBlock => ExitCode.timeout
    | .notFound | .connectionRefused => ExitCode.failure
    | .interrupted | .brokenPipe | .invalidData | .other => ExitCode.internal
  during code context e.text

def ofLink (context : String) (e : LinkError) : Failure :=
  match e with
  | .io inner => ofIo context inner
  | .packetTooLarge _ _ => during ExitCode.dataInvalid context e.text
  | _ => during ExitCode.linkError context e.text

def ofWire (context : String) (e : WireError) : Failure :=
  during ExitCode.dataInvalid context e.text

def ofEndpoint (context : String) (e : EndpointError) : Failure :=
  match e with
  | .agent status =>
    during ExitCode.agentError context s!"agent returned {status.name} ({status.code.toNat})"
  | .link inner => ofLink context inner
  | .wire inner => ofWire context inner
  | .io inner => ofIo context inner
  | .timeout _ => during ExitCode.timeout context e.text
  | .invalidArg _ | .streamBusy _ => during ExitCode.usage context e.text
  | .notFound _ _ | .bufferTooSmall _ _ | .protocolVersion _ _ =>
    during ExitCode.dataInvalid context e.text
  | .shutdown => during ExitCode.linkError context e.text
  | .noMem | .cancelled | .streamClosed _ | .noFreeStream | .task _ =>
    during ExitCode.internal context e.text

end Failure
end Cli
end CommandLink
