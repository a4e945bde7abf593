import CommandLink.Wire.Error

/-! # Kinds of frames

A frame's kind travels in the high four bits of its first octet. Ten of the sixteen codes have a
meaning. -/

namespace CommandLink

inductive FrameKind
  /-- Controller to agent: carry out a command. -/
  | command
  /-- Agent to controller: the answer to a command. -/
  | response
  /-- Agent to controller: an unsolicited event. -/
  | event
  /-- The sender could not process a frame. -/
  | error
  /-- Controller to agent: start over. -/
  | agentReset
  /-- Agent to controller: the agent has started. -/
  | agentStart
  /-- A frame addressed a stream that does not exist or is not open. -/
  | invalidStream
  /-- The sender noticed a gap in the sequence numbers it received. -/
  | packetLoss
  /-- Controller to agent: report what was received last. -/
  | syncRequest
  /-- Agent to controller: the answer to a sync request. -/
  | syncResponse
  deriving DecidableEq

namespace FrameKind

def code : FrameKind → UInt8
  | .command => 0
  | .response => 1
  | .event => 2
  | .error => 3
  | .agentReset => 4
  | .agentStart => 5
  | .invalidStream => 8
  | .packetLoss => 9
  | .syncRequest => 10
  | .syncResponse => 11

def name : FrameKind → String
  | .command => "COMMAND"
  | .response => "RESPONSE"
  | .event => "EVENT"
  | .error => "ERROR"
  | .agentReset => "AGENT_RESET"
  | .agentStart => "AGENT_START_NOTIFICATION"
  | .invalidStream => "INVALID_STREAM"
  | .packetLoss => "PACKET_LOSS_DETECTED"
  | .syncRequest => "SYNC_REQ"
  | .syncResponse => "SYNC_RESP"

/-- The kind of a code, if it has one. -/
def ofCode? (code : UInt8) : Option FrameKind :=
  match code with
  | 0 => some .command
  | 1 => some .response
  | 2 => some .event
  | 3 => some .error
  | 4 => some .agentReset
  | 5 => some .agentStart
  | 8 => some .invalidStream
  | 9 => some .packetLoss
  | 10 => some .syncRequest
  | 11 => some .syncResponse
  | _ => none

def ofCode (code : UInt8) : Except WireError FrameKind :=
  match ofCode? code with
  | some kind => .ok kind
  | none => .error (.unknownKind code)

@[simp] theorem ofCode?_code (kind : FrameKind) : ofCode? kind.code = some kind := by
  cases kind <;> rfl

theorem code_lt (kind : FrameKind) : kind.code.toNat < 16 := by
  cases kind <;> decide

end FrameKind
end CommandLink
