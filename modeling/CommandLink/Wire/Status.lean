import CommandLink.Octets

/-! # Status codes

The result of a command, in the last octet of a response header. An octet without a meaning reads
as the general error. -/

namespace CommandLink

inductive Status
  | ok
  | error
  | invalidArg
  | unavailable
  | timeout
  | invalidStream
  | notFound
  | notSupported
  | txError
  | noMem
  | closed
  | channelListNotSet
  | shutdownBlocked
  | channelInvalid
  | notRunning
  | noLink
  | unknownHost
  | socketFailed
  | socketConnectFailed
  | socketBindFailed
  | socketListenFailed
  deriving DecidableEq

namespace Status

/-- Every status, in the order of the codes. -/
def all : List Status :=
  [.ok, .error, .invalidArg, .unavailable, .timeout, .invalidStream, .notFound, .notSupported,
    .txError, .noMem, .closed, .channelListNotSet, .shutdownBlocked, .channelInvalid, .notRunning,
    .noLink, .unknownHost, .socketFailed, .socketConnectFailed, .socketBindFailed,
    .socketListenFailed]

def code : Status → UInt8
  | .ok => 0
  | .error => 1
  | .invalidArg => 2
  | .unavailable => 3
  | .timeout => 4
  | .invalidStream => 5
  | .notFound => 6
  | .notSupported => 7
  | .txError => 8
  | .noMem => 9
  | .closed => 10
  | .channelListNotSet => 11
  | .shutdownBlocked => 12
  | .channelInvalid => 13
  | .notRunning => 14
  | .noLink => 15
  | .unknownHost => 16
  | .socketFailed => 17
  | .socketConnectFailed => 18
  | .socketBindFailed => 19
  | .socketListenFailed => 20

/-- The status of a result octet. -/
def ofCode (b : UInt8) : Status := (all[b.toNat]?).getD .error

def name : Status → String
  | .ok => "OK"
  | .error => "ERROR"
  | .invalidArg => "INVALID_ARG"
  | .unavailable => "UNAVAILABLE"
  | .timeout => "TIMEOUT"
  | .invalidStream => "INVALID_STREAM"
  | .notFound => "NOT_FOUND"
  | .notSupported => "NOT_SUPPORTED"
  | .txError => "TX_ERROR"
  | .noMem => "NO_MEM"
  | .closed => "CLOSED"
  | .channelListNotSet => "CHANNEL_LIST_NOT_SET"
  | .shutdownBlocked => "SHUTDOWN_BLOCKED"
  | .channelInvalid => "CHANNEL_INVALID"
  | .notRunning => "NOT_RUNNING"
  | .noLink => "NO_LINK"
  | .unknownHost => "UNKNOWN_HOST"
  | .socketFailed => "SOCKET_FAILED"
  | .socketConnectFailed => "SOCKET_CONNECT_FAILED"
  | .socketBindFailed => "SOCKET_BIND_FAILED"
  | .socketListenFailed => "SOCKET_LISTEN_FAILED"

@[simp] theorem ofCode_code (s : Status) : ofCode s.code = s := by
  cases s <;> rfl

end Status
end CommandLink
