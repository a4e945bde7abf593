import CommandLink.Octets

/-! # Failures of a datalink -/

namespace CommandLink

/-- The kinds of failure of a byte stream or a file that anyone here tells apart. -/
inductive IoKind
  | interrupted
  | brokenPipe
  | wouldBlock
  | timedOut
  | notFound
  | permissionDenied
  | connectionRefused
  | invalidData
  | other
  deriving DecidableEq

/-- The text of a failure of which only the kind is known. -/
def IoKind.text : IoKind → String
  | .interrupted => "operation interrupted"
  | .brokenPipe => "broken pipe"
  | .wouldBlock => "operation would block"
  | .timedOut => "timed out"
  | .notFound => "entity not found"
  | .permissionDenied => "permission denied"
  | .connectionRefused => "connection refused"
  | .invalidData => "invalid data"
  | .other => "other error"

/-- A failure of a byte stream or a file. -/
structure IoError where
  kind : IoKind
  text : String
  deriving DecidableEq

/-- The failure of which only the kind is known. -/
def IoError.ofKind (kind : IoKind) : IoError := ⟨kind, kind.text⟩

/-- Why a datalink refuses a packet. -/
inductive LinkError
  /-- The headroom of a buffer does not hold what is put in front of its data. -/
  | insufficientHeadroom (needed available : Nat)
  /-- The packet is longer than the link carries. -/
  | packetTooLarge (size max : Nat)
  /-- An escape octet is followed by one that it cannot escape. -/
  | invalidEscape (byte : UInt8)
  /-- The byte stream below failed. -/
  | io (error : IoError)
  /-- The other end is gone. -/
  | disconnected
  /-- This end is shut down. -/
  | shutdown
  deriving DecidableEq

def LinkError.text : LinkError → String
  | .insufficientHeadroom needed available =>
    s!"insufficient headroom ({available} bytes, need {needed})"
  | .packetTooLarge size max => s!"packet too large ({size} bytes, max {max})"
  | .invalidEscape byte => s!"invalid SLIP escape sequence (0x{Octets.toHex [byte]})"
  | .io error => s!"datalink I/O error: {error.text}"
  | .disconnected => "datalink disconnected"
  | .shutdown => "datalink shut down"

end CommandLink
