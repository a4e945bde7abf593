import CommandLink.Datalink.Error

/-! # Packet delimiting on a byte stream

A packet on a byte stream stands between two END octets. Inside it END and ESC are each written as
ESC and a substitute. The decoder takes one octet at a time; after an error it drops the rest of
the packet up to the next END. -/

namespace CommandLink
namespace Slip

def endOctet : UInt8 := 0xC0

def escOctet : UInt8 := 0xDB

/-- Stands for END behind ESC. -/
def escEnd : UInt8 := 0xDC

/-- Stands for ESC behind ESC. -/
def escEsc : UInt8 := 0xDD

/-- The written form of one octet of a packet. -/
def escape (b : UInt8) : Octets :=
  if b = endOctet then [escOctet, escEnd]
  else if b = escOctet then [escOctet, escEsc]
  else [b]

/-- The written form of a packet. -/
def encode (packet : Octets) : Octets :=
  endOctet :: (packet.flatMap escape ++ [endOctet])

/-- A decoder in the middle of a stream. -/
structure Decoder where
  /-- The packet so far. -/
  held : Array UInt8
  /-- The longest packet accepted. -/
  maxLength : Nat
  /-- The last octet was an ESC. -/
  escaping : Bool
  /-- The packet at hand is lost. -/
  discarding : Bool
  deriving DecidableEq

namespace Decoder

def fresh (maxLength : Nat) : Decoder := ⟨#[], maxLength, false, false⟩

/-- The decoder before its first packet. -/
def reset (d : Decoder) : Decoder := fresh d.maxLength

/-- What one octet brings. -/
inductive Output
  | nothing
  | packet (octets : Octets)
  | failed (error : LinkError)
  deriving DecidableEq

/-- Loses the packet at hand. -/
def discard (d : Decoder) : Decoder := { d with held := #[], escaping := false, discarding := true }

/-- Adds one octet to the packet at hand, if it is not too long then. -/
def store (d : Decoder) (b : UInt8) : Decoder × Output :=
  if d.held.size < d.maxLength then
    ({ d with held := d.held.push b, escaping := false }, .nothing)
  else (d.discard, .failed (.packetTooLarge (d.maxLength + 1) d.maxLength))

/-- Takes one octet of the stream. -/
def push (d : Decoder) (b : UInt8) : Decoder × Output :=
  if b = endOctet then
    (d.reset,
      if d.discarding ∨ d.held.isEmpty then .nothing else .packet d.held.toList)
  else if d.discarding then (d, .nothing)
  else if d.escaping then
    if b = escEnd then d.store endOctet
    else if b = escEsc then d.store escOctet
    else (d.discard, .failed (.invalidEscape b))
  else if b = escOctet then ({ d with escaping := true }, .nothing)
  else d.store b

/-- Takes a stretch of the stream; the result holds what each octet brought. -/
def run (d : Decoder) : Octets → Decoder × List Output
  | [] => (d, [])
  | b :: rest =>
    let (d', out) := d.push b
    let (d'', outs) := d'.run rest
    (d'', out :: outs)

theorem run_append (d : Decoder) (s t : Octets) :
    d.run (s ++ t) = (((d.run s).1.run t).1, (d.run s).2 ++ ((d.run s).1.run t).2) := by
  induction s generalizing d with
  | nil => rfl
  | cons b s ih => simp [run, ih]

end Decoder
end Slip
end CommandLink
