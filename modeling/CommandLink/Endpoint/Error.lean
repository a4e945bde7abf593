import CommandLink.Datalink.Error
import CommandLink.Duration
import CommandLink.Wire.Command
import CommandLink.Wire.Stream

/-! # Failures of calls on an endpoint

Why a call on a controller or an agent fails, its text, and the status code that it stands for. -/

namespace CommandLink

inductive EndpointError
  /-- The agent answered with a status other than success. -/
  | agent (status : Status)
  /-- The response at hand belongs to a different command. -/
  | notFound (expected got : CommandId)
  /-- Wire data does not decode, or a stream id is out of range. -/
  | wire (error : WireError)
  /-- The response payload does not fit the caller's buffer. -/
  | bufferTooSmall (size capacity : Nat)
  /-- The datalink has no buffer for a frame. -/
  | noMem
  | invalidArg (reason : String)
  /-- The datalink did not start, or refused a frame. -/
  | link (error : LinkError)
  /-- Nothing came within the time allowed. -/
  | timeout (limit : Duration)
  /-- The wait was given up from outside. -/
  | cancelled
  /-- Someone else holds the stream. -/
  | streamBusy (stream : StreamId)
  | streamClosed (stream : StreamId)
  | noFreeStream
  /-- The peer speaks another version of the protocol. -/
  | protocolVersion (expected got : UInt8)
  /-- The endpoint is shut down. -/
  | shutdown
  /-- The background task of a request failed. -/
  | task (reason : String)
  /-- A worker did not start. -/
  | io (error : IoError)
  deriving DecidableEq

namespace EndpointError

def text : EndpointError → String
  | .agent status => s!"agent returned {status.name}"
  | .notFound expected got => s!"response for {got.text} while waiting for {expected.text}"
  | .wire error => error.text
  | .bufferTooSmall size capacity =>
    s!"response payload of {size} bytes exceeds buffer of {capacity} bytes"
  | .noMem => "datalink could not allocate a tx buffer"
  | .invalidArg reason => s!"invalid argument: {reason}"
  | .link error => s!"datalink error: {error.text}"
  | .timeout limit => s!"no response within {limit.text}"
  | .cancelled => "request cancelled"
  | .streamBusy stream => s!"stream {stream.val} is already in use"
  | .streamClosed stream => s!"stream {stream.val} is closed"
  | .noFreeStream => "no free stream"
  | .protocolVersion expected got =>
    s!"agent speaks protocol version {got.toNat}, expected {expected.toNat}"
  | .shutdown => "endpoint is shut down"
  | .task reason => s!"request task failed: {reason}"
  | .io error => s!"io error: {error.text}"

/-- The status code that a failure stands for. -/
def status : EndpointError → Status
  | .agent status => status
  | .notFound _ _ => .notFound
  | .wire (.invalidStream _) => .invalidStream
  | .wire _ => .error
  | .bufferTooSmall _ _ => .error
  | .noMem => .noMem
  | .invalidArg _ => .invalidArg
  | .link _ => .txError
  | .timeout _ => .timeout
  | .cancelled => .closed
  | .streamBusy _ => .unavailable
  | .streamClosed _ => .closed
  | .noFreeStream => .unavailable
  | .protocolVersion _ _ => .notSupported
  | .shutdown => .notRunning
  | .task _ => .error
  | .io _ => .error

end EndpointError
end CommandLink
