import CommandLink.Wire.Error
import CommandLink.Wire.Status

/-! # Commands and responses

A command is named by three octets: subsystem, command and subcommand. They head the payload of a
command frame, followed by a reserved octet, and the payload of a response frame, followed by the
result. An event frame is headed by subsystem and event and two reserved octets. -/

namespace CommandLink

/-- The subsystems that commands and events address. -/
inductive Subsystem
  | wlan
  | ip
  | ping
  | iperf
  | sys
  | tcp
  deriving DecidableEq

namespace Subsystem

def all : List Subsystem := [.wlan, .ip, .ping, .iperf, .sys, .tcp]

def code : Subsystem → UInt8
  | .wlan => 1
  | .ip => 2
  | .ping => 3
  | .iperf => 4
  | .sys => 5
  | .tcp => 6

def name : Subsystem → String
  | .wlan => "wlan"
  | .ip => "ip"
  | .ping => "ping"
  | .iperf => "iperf"
  | .sys => "sys"
  | .tcp => "tcp"

def ofCode? (b : UInt8) : Option Subsystem := all.find? (·.code == b)

def ofCode (b : UInt8) : Except WireError Subsystem :=
  match ofCode? b with
  | some s => .ok s
  | none => .error (.invalidValue .subsystem (UInt32.ofNat b.toNat))

theorem code_of_ofCode {b : UInt8} {s : Subsystem} (h : ofCode b = .ok s) : s.code = b := by
  unfold ofCode at h
  split at h
  · next found =>
    cases h
    have same : (s.code == b) = true :=
      List.find?_some (p := fun s : Subsystem => s.code == b) found
    exact eq_of_beq same
  · cases h

end Subsystem

/-- The name of one operation of an agent. -/
structure CommandId where
  subsystem : UInt8
  command : UInt8
  subcommand : UInt8
  deriving DecidableEq

namespace CommandId

/-- The name that stands in the answer to a command too short to have one. -/
def zero : CommandId := ⟨0, 0, 0⟩

def text (id : CommandId) : String :=
  s!"{id.subsystem.toNat}/{id.command.toNat}/{id.subcommand.toNat}"

end CommandId

/-- The octets of each payload header. -/
def payloadHeaderSize : Nat := 4

/-- The header of a command's payload. -/
structure CommandHeader where
  id : CommandId
  deriving DecidableEq

namespace CommandHeader

def encode (h : CommandHeader) : Octets :=
  [h.id.subsystem, h.id.command, h.id.subcommand, 0]

def decode (octets : Octets) : Except WireError CommandHeader :=
  match octets with
  | subsystem :: command :: subcommand :: _ :: _ => .ok ⟨⟨subsystem, command, subcommand⟩⟩
  | short => .error (.truncated payloadHeaderSize short.length)

@[simp] theorem length_encode (h : CommandHeader) : h.encode.length = payloadHeaderSize := rfl

@[simp] theorem decode_encode_append (h : CommandHeader) (rest : Octets) :
    decode (h.encode ++ rest) = .ok h := rfl

end CommandHeader

/-- The header of a response's payload. The result is kept as received. -/
structure ResponseHeader where
  id : CommandId
  result : UInt8
  deriving DecidableEq

namespace ResponseHeader

def of (id : CommandId) (status : Status) : ResponseHeader := ⟨id, status.code⟩

def status (h : ResponseHeader) : Status := Status.ofCode h.result

def encode (h : ResponseHeader) : Octets :=
  [h.id.subsystem, h.id.command, h.id.subcommand, h.result]

def decode (octets : Octets) : Except WireError ResponseHeader :=
  match octets with
  | subsystem :: command :: subcommand :: result :: _ =>
    .ok ⟨⟨subsystem, command, subcommand⟩, result⟩
  | short => .error (.truncated payloadHeaderSize short.length)

@[simp] theorem length_encode (h : ResponseHeader) : h.encode.length = payloadHeaderSize := rfl

@[simp] theorem decode_encode_append (h : ResponseHeader) (rest : Octets) :
    decode (h.encode ++ rest) = .ok h := rfl

end ResponseHeader

/-- The header of an event's payload. -/
structure EventHeader where
  subsystem : UInt8
  event : UInt8
  deriving DecidableEq

namespace EventHeader

def encode (h : EventHeader) : Octets := [h.subsystem, h.event, 0, 0]

def decode (octets : Octets) : Except WireError EventHeader :=
  match octets with
  | subsystem :: event :: _ :: _ :: _ => .ok ⟨subsystem, event⟩
  | short => .error (.truncated payloadHeaderSize short.length)

@[simp] theorem length_encode (h : EventHeader) : h.encode.length = payloadHeaderSize := rfl

@[simp] theorem decode_encode_append (h : EventHeader) (rest : Octets) :
    decode (h.encode ++ rest) = .ok h := rfl

end EventHeader
end CommandLink
