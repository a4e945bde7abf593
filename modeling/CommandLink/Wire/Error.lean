import CommandLink.Octets

/-! # Malformed wire data

What can be wrong with octets that should hold a frame, a payload header or a body. -/

namespace CommandLink

/-- The enumerated fields of frames and bodies. -/
inductive WireField
  | subsystem
  | wlanEvent
  | standbyExitReason
  | syncToken
  deriving DecidableEq

/-- Why octets do not decode, or a value does not encode. -/
inductive WireError
  /-- Fewer octets than the structure needs. -/
  | truncated (needed available : Nat)
  /-- A stream id of 32 or more. -/
  | invalidStream (id : UInt8)
  /-- A frame kind without a meaning. -/
  | unknownKind (code : UInt8)
  /-- The header declares more payload than the frame carries. -/
  | lengthMismatch (declared available : Nat)
  /-- The payload does not fit a frame or a body. -/
  | payloadTooLarge (size max : Nat)
  /-- A field holds a value outside its enumeration. -/
  | invalidValue (field : WireField) (value : UInt32)
  deriving DecidableEq

def WireField.text : WireField → String
  | .subsystem => "subsystem"
  | .wlanEvent => "wlan event"
  | .standbyExitReason => "standby exit reason"
  | .syncToken => "sync token"

def WireError.text : WireError → String
  | .truncated needed available => s!"truncated data ({available} bytes, need {needed})"
  | .invalidStream id => s!"invalid stream id {id.toNat}"
  | .unknownKind code => s!"unknown packet type {code.toNat}"
  | .lengthMismatch declared available =>
    s!"declared length {declared} exceeds available {available} bytes"
  | .payloadTooLarge size max => s!"payload too large ({size} bytes, max {max})"
  | .invalidValue field value => s!"invalid {field.text} value {value.toNat}"

end CommandLink
