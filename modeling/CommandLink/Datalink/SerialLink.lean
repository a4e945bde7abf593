import CommandLink.Datalink.Buffer
import CommandLink.Datalink.Packet

/-! # The serial link

A serial link carries frames as packets on a byte stream in each direction. `SerialLink` is the
sending half, a `Datalink`; `SerialLink.receive` and `SerialLink.receiveAll` are the receiving
half. The size limit counts the octets of the frame alone on the way out; on the way in the
decoder leaves room for the packet's header and checksum. -/

namespace CommandLink

namespace SerialLink

/-- The longest frame of a link that is not told otherwise. -/
def defaultMaxFrame : Nat := 2048

structure Config where
  maxFrame : Nat
  /-- Outgoing packets carry a checksum. -/
  crc : Bool
  role : LinkRole
  deriving DecidableEq

def Config.default : Config := ⟨defaultMaxFrame, false, .controller⟩

end SerialLink

/-- The sending half of a serial link. -/
structure SerialLink where
  config : SerialLink.Config
  running : Bool
  /-- Why the byte stream takes no octets, if it takes none. -/
  broken : Option IoError
  /-- The octets that the byte stream has taken. -/
  written : Octets

namespace SerialLink

/-- A link before its first packet. -/
def ofConfig (config : Config) : SerialLink := ⟨config, true, none, []⟩

def reserve (_ : SerialLink) (header payload : Nat) : Option Buffer :=
  some (Buffer.alloc (header + Packet.maxOverhead) (payload + Packet.checksumSize))

def transmit (link : SerialLink) (b : Buffer) : Except LinkError Nat × SerialLink :=
  if !link.running then (.error .shutdown, link)
  else if link.config.maxFrame < b.data.length then
    (.error (.packetTooLarge b.data.length link.config.maxFrame), link)
  else
    match Packet.encode b link.config.crc link.config.role with
    | .error e => (.error e, link)
    | .ok wire =>
      match link.broken with
      | some e => (.error (.io e), link)
      | none => (.ok wire.length, { link with written := link.written ++ wire })

def stop (link : SerialLink) : SerialLink := { link with running := false }

instance : Datalink SerialLink where
  reserve := reserve
  transmit := transmit
  stop := stop

/-- The decoder of the receiving half, before the first octet. -/
def decoder (config : Config) : Slip.Decoder := .fresh (config.maxFrame + Packet.maxOverhead)

/-- The frames among what a decoder brought. -/
def framesOf (role : LinkRole) (outputs : List Slip.Decoder.Output) : List Octets :=
  outputs.filterMap fun
    | .packet p => (Packet.decode p role).map Buffer.data
    | _ => none

/-- The frames that a stretch of the byte stream completes. -/
def receive (role : LinkRole) (d : Slip.Decoder) (octets : Octets) :
    Slip.Decoder × List Octets :=
  let (d', outputs) := d.run octets
  (d', framesOf role outputs)

/-- What one read of the byte stream gives. No octets mean the end of the stream. -/
inductive Read
  | octets (octets : Octets)
  | failed (kind : IoKind)

/-- The frames received until the stream ends or fails. An interrupted read is tried again. -/
def receiveAll (role : LinkRole) (d : Slip.Decoder) : List Read → List Octets
  | [] => []
  | .failed .interrupted :: rest => receiveAll role d rest
  | .failed _ :: _ => []
  | .octets [] :: _ => []
  | .octets (b :: bs) :: rest =>
    let (d', frames) := receive role d (b :: bs)
    frames ++ receiveAll role d' rest

end SerialLink
end CommandLink
