import CommandLink.Wire.FrameKind
import CommandLink.Wire.Sequence
import CommandLink.Wire.Stream

/-! # Frames

A frame is a four-octet header followed by its payload. The header holds the kind and the sequence
number in one octet, the stream id, and the length of the payload as a 16-bit word. A frame is
never longer than 2048 octets. Octets behind the declared payload do not belong to the frame. -/

namespace CommandLink

/-- A frame header as it is on the wire: kind and stream are not checked. -/
structure Header where
  kind : UInt8
  seq : SeqNum
  stream : UInt8
  length : UInt16
  deriving DecidableEq

namespace Header

/-- The octets of a frame header. -/
def size : Nat := 4

/-- A header whose fields have a meaning. -/
def of (kind : FrameKind) (seq : SeqNum) (stream : StreamId) (length : UInt16) : Header :=
  ⟨kind.code, seq, stream.toOctet, length⟩

/-- The octet that holds kind and sequence number. Only four bits of the kind find room. -/
def first (h : Header) : UInt8 := UInt8.ofNat (16 * h.kind.toNat + h.seq.val)

def encode (h : Header) : Octets := h.first :: h.stream :: Octets.ofWord16 h.length

def decode (octets : Octets) : Except WireError Header :=
  match octets with
  | first :: stream :: lo :: hi :: _ =>
    .ok ⟨UInt8.ofNat (first.toNat / 16), SeqNum.ofLowBits first, stream, Octets.word16 lo hi⟩
  | short => .error (.truncated size short.length)

def frameKind (h : Header) : Except WireError FrameKind := FrameKind.ofCode h.kind

def streamId (h : Header) : Except WireError StreamId := StreamId.ofOctet h.stream

@[simp] theorem length_encode (h : Header) : h.encode.length = size := rfl

theorem decode_encode_append (h : Header) (hk : h.kind.toNat < 16) (rest : Octets) :
    decode (h.encode ++ rest) = .ok h := by
  obtain ⟨kind, seq, stream, length⟩ := h
  simp only [encode, decode, Octets.ofWord16, List.cons_append, List.nil_append, first,
    Octets.word16_ofWord16]
  simp only at hk
  have hkind : UInt8.ofNat ((UInt8.ofNat (16 * kind.toNat + seq.val)).toNat / 16) = kind := by
    apply UInt8.toNat_inj.mp
    simp
    omega
  have hseq : SeqNum.ofLowBits (UInt8.ofNat (16 * kind.toNat + seq.val)) = seq := by
    apply Fin.ext
    simp [SeqNum.ofLowBits]
  rw [hkind, hseq]

end Header

namespace Frame

/-- The longest frame, header included. -/
def maxSize : Nat := 2048

/-- The longest payload of a frame. -/
def maxPayload : Nat := maxSize - Header.size

/-- The length field of a payload of `n` octets. -/
def payloadLength (n : Nat) : Except WireError UInt16 :=
  if n ≤ maxPayload then .ok (UInt16.ofNat n) else .error (.payloadTooLarge n maxPayload)

/-- The octets of a frame. -/
def encode (kind : FrameKind) (seq : SeqNum) (stream : StreamId) (payload : Octets) :
    Except WireError Octets :=
  match payloadLength payload.length with
  | .ok length => .ok ((Header.of kind seq stream length).encode ++ payload)
  | .error e => .error e

/-- The header and the declared payload of a frame. -/
def decode (octets : Octets) : Except WireError (Header × Octets) :=
  match Header.decode octets with
  | .error e => .error e
  | .ok header =>
    let body := octets.drop Header.size
    if header.length.toNat ≤ body.length then .ok (header, body.take header.length.toNat)
    else .error (.lengthMismatch header.length.toNat body.length)

end Frame
end CommandLink
