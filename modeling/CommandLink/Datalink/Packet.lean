import CommandLink.Datalink.Buffer
import CommandLink.Datalink.Crc16
import CommandLink.Datalink.Slip

/-! # Packets

A packet is one header octet and a frame, with a checksum of the frame if the top bit of the header
is set. The checksum stands between header and frame in what a controller sends, and behind the
frame in what an agent sends. The low four bits of the header tell the kind of packet; only data
packets, kind 0, hold frames. -/

namespace CommandLink

/-- An end of the link. -/
inductive LinkRole
  | controller
  | agent
  deriving DecidableEq

/-- The role at the other end. -/
def LinkRole.peer : LinkRole → LinkRole
  | .controller => .agent
  | .agent => .controller

namespace Packet

/-- The header of a data packet without checksum. -/
def plainHeader : UInt8 := 0x00

/-- The header of a data packet with checksum. -/
def checkedHeader : UInt8 := 0x80

/-- The octets of a packet header. -/
def headerSize : Nat := 1

/-- The octets of a checksum. -/
def checksumSize : Nat := 2

/-- What a packet adds to its frame at most. -/
def maxOverhead : Nat := headerSize + checksumSize

/-- The checksum of a frame as it stands in a packet. -/
def checksumOctets (frame : Octets) : Octets := Octets.ofWord16 (Crc16.checksum frame)

/-- Puts the checksum where the sending role puts it. -/
def addChecksum (b : Buffer) (role : LinkRole) : Except LinkError Buffer :=
  match role with
  | .controller => b.prepend (checksumOctets b.data)
  | .agent => .ok (b.append (checksumOctets b.data))

/-- The packet of the frame in a buffer. -/
def assemble (b : Buffer) (crc : Bool) (role : LinkRole) : Except LinkError Buffer :=
  if crc then
    match addChecksum b role with
    | .ok b' => b'.prepend [checkedHeader]
    | .error e => .error e
  else b.prepend [plainHeader]

/-- The octets on the byte stream for the frame in a buffer. -/
def encode (b : Buffer) (crc : Bool) (role : LinkRole) : Except LinkError Octets :=
  match assemble b crc role with
  | .ok b' => .ok (Slip.encode b'.data)
  | .error e => .error e

/-- Strips and checks the checksum that a peer of `role` has put in. -/
def checkChecksum (b : Buffer) (role : LinkRole) : Option Buffer :=
  let cut := match role with
    | .controller => b.removeEnd checksumSize
    | .agent => b.removeStart checksumSize
  match cut with
  | some (sum, b') => if sum = checksumOctets b'.data then some b' else none
  | none => none

/-- The frame in a packet received by `role`, if the packet is a sound data packet. -/
def decode (packet : Octets) (role : LinkRole) : Option Buffer :=
  match (Buffer.ofOctets packet).removeStart headerSize with
  | some ([header], b) =>
    let checked := if 128 ≤ header.toNat then checkChecksum b role else some b
    match checked with
    | some frame => if header.toNat % 16 = 0 then some frame else none
    | none => none
  | _ => none

end Packet
end CommandLink
