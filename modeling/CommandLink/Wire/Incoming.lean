import CommandLink.Wire.Frame

/-! # Received buffers

What an endpoint makes of the octets that its link hands over, before it looks at kind and
sequence number: too short for a header, a stream that does not exist, more payload declared than
carried, or a frame with its payload cut to the declared length. -/

namespace CommandLink

inductive Incoming
  | short
  | badStream (header : Header)
  | overLength (header : Header) (stream : StreamId)
  | frame (header : Header) (stream : StreamId) (payload : Octets)

namespace Incoming

def ofOctets (octets : Octets) : Incoming :=
  match octets with
  | first :: stream :: lo :: hi :: body =>
    let header : Header :=
      ⟨UInt8.ofNat (first.toNat / 16), SeqNum.ofLowBits first, stream, Octets.word16 lo hi⟩
    match StreamId.ofOctet? stream with
    | none => .badStream header
    | some id =>
      if body.length < header.length.toNat then .overLength header id
      else .frame header id (body.take header.length.toNat)
  | _ => .short

end Incoming
end CommandLink
