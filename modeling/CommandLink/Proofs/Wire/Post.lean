import CommandLink.Wire.Incoming
import CommandLink.Wire.Sync

/-! # Frames that endpoints send

An endpoint sends frames of a known kind on a stream that exists, with the length of the payload
declared as it is. `Post` is such a frame before it is written; what an endpoint makes of its octets
is that frame again (`Incoming.ofOctets_octets`). -/

namespace CommandLink

/-- The longest payload that a command or a response can carry. -/
def payloadLimit : Nat := 2040

/-- A frame as an endpoint sends it. -/
structure Post where
  kind : FrameKind
  seq : SeqNum
  stream : StreamId
  payload : Octets
  fits : payload.length ≤ Frame.maxPayload
  deriving DecidableEq

namespace Post

def header (p : Post) : Header :=
  Header.of p.kind p.seq p.stream (UInt16.ofNat p.payload.length)

/-- The payload of a frame that is of a kind and on a stream. -/
def payloadOn (kind : FrameKind) (stream : StreamId) (p : Post) : Option Octets :=
  if p.kind = kind ∧ p.stream = stream then some p.payload else none

/-- If the frame is a sync request, it asks as a controller does: on the control stream, and not
with the token 0. -/
def SoundSync (p : Post) : Prop :=
  p.kind = .syncRequest → p.stream = StreamId.control ∧
    ∃ request : SyncRequest, request.token ≠ 0 ∧ p.payload = request.encode

/-- The octets of a frame as they travel. -/
def octets (p : Post) : Octets := p.header.encode ++ p.payload

@[simp] theorem seq_header (p : Post) : p.header.seq = p.seq := rfl

@[simp] theorem ofCode?_header (p : Post) : FrameKind.ofCode? p.header.kind = some p.kind :=
  FrameKind.ofCode?_code p.kind

theorem toNat_length (p : Post) : p.header.length.toNat = p.payload.length := by
  have := p.fits
  simp only [Frame.maxPayload, Frame.maxSize, Header.size] at this
  simp only [header, Header.of, UInt16.toNat_ofNat']
  omega

end Post

theorem Frame.payloadLength_ok {n : Nat} (h : n ≤ Frame.maxPayload) :
    Frame.payloadLength n = .ok (UInt16.ofNat n) := by
  simp [Frame.payloadLength, h]

theorem Frame.payloadLength_error {n : Nat} (h : ¬ n ≤ Frame.maxPayload) :
    Frame.payloadLength n = .error (.payloadTooLarge n Frame.maxPayload) := by
  simp [Frame.payloadLength, h]

/-- What an endpoint makes of the octets of a frame is that frame. -/
theorem Incoming.ofOctets_octets (p : Post) :
    Incoming.ofOctets p.octets = .frame p.header p.stream p.payload := by
  have head := Header.decode_encode_append p.header (FrameKind.code_lt p.kind) p.payload
  have length := p.toNat_length
  simp only [Header.encode, Octets.ofWord16, Header.decode, List.cons_append, List.nil_append,
    Octets.word16_ofWord16, Except.ok.injEq] at head
  have stream : StreamId.ofOctet? p.header.stream = some p.stream := StreamId.ofOctet?_toOctet _
  simp only [Post.octets, Header.encode, Octets.ofWord16, List.cons_append, List.nil_append,
    Incoming.ofOctets, stream, Octets.word16_ofWord16, head]
  rw [if_neg (by omega), length, List.take_length]

/-- The payload that an endpoint finds in the octets of a frame of a kind on a stream. -/
def payloadIn (kind : FrameKind) (stream : StreamId) (octets : Octets) : Option Octets :=
  match Incoming.ofOctets octets with
  | .frame header s payload =>
    if FrameKind.ofCode? header.kind = some kind ∧ s = stream then some payload else none
  | _ => none

@[simp] theorem payloadIn_octets (kind : FrameKind) (stream : StreamId) (p : Post) :
    payloadIn kind stream p.octets = p.payloadOn kind stream := by
  simp [payloadIn, Incoming.ofOctets_octets, Post.payloadOn]

/-- The kind of the frame that an endpoint finds in octets, if it knows it. -/
def kindIn (octets : Octets) : Option FrameKind :=
  match Incoming.ofOctets octets with
  | .frame header _ _ => FrameKind.ofCode? header.kind
  | _ => none

@[simp] theorem kindIn_octets (p : Post) : kindIn p.octets = some p.kind := by
  simp [kindIn, Incoming.ofOctets_octets]

/-- The frames of a kind among octets. -/
def framesOf (kind : FrameKind) (octets : List Octets) : List Octets :=
  octets.filter fun o => kindIn o = some kind

theorem framesOf_map_octets (kind : FrameKind) (posts : List Post) :
    framesOf kind (posts.map Post.octets) =
      (posts.filter fun p => p.kind = kind).map Post.octets := by
  simp [framesOf, List.filter_map, Function.comp_def]

theorem filterMap_payloadIn (kind : FrameKind) (stream : StreamId) (posts : List Post) :
    (posts.map Post.octets).filterMap (payloadIn kind stream) =
      posts.filterMap (Post.payloadOn kind stream) := by
  rw [List.filterMap_map]
  exact congrArg (List.filterMap · posts) (funext fun p => payloadIn_octets kind stream p)

end CommandLink
