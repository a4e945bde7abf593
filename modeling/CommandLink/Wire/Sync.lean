import CommandLink.Wire.Error
import CommandLink.Wire.Sequence

/-! # The sync exchange

A controller sends a token; the agent answers with the token, the sequence number it saw last and
the protocol version it speaks. Token 0 is reserved and no request carries it. -/

namespace CommandLink

/-- The version of the protocol. -/
def protocolVersion : UInt8 := 1

structure SyncRequest where
  token : UInt32
  deriving DecidableEq

namespace SyncRequest

/-- The octets of a sync request. -/
def size : Nat := 4

def encode (r : SyncRequest) : Octets := Octets.ofWord32 r.token

def decode (octets : Octets) : Except WireError SyncRequest :=
  match octets with
  | a :: b :: c :: d :: _ =>
    let token := Octets.word32 a b c d
    if token = 0 then .error (.invalidValue .syncToken 0) else .ok ⟨token⟩
  | short => .error (.truncated size short.length)

@[simp] theorem length_encode (r : SyncRequest) : r.encode.length = size := rfl

theorem decode_encode_append (r : SyncRequest) (h : r.token ≠ 0) (rest : Octets) :
    decode (r.encode ++ rest) = .ok r := by
  simp [encode, decode, Octets.ofWord32, Octets.word32_ofWord32, h]

end SyncRequest

structure SyncResponse where
  token : UInt32
  /-- The number of the frame that the agent saw last, if it saw one. -/
  lastSeen : Option SeqNum
  version : UInt8
  deriving DecidableEq

namespace SyncResponse

/-- The octets of a sync response. -/
def size : Nat := 6

/-- Stands for no sequence number. -/
def noSeq : UInt8 := 0xFF

def encode (r : SyncResponse) : Octets :=
  Octets.ofWord32 r.token ++ [(r.lastSeen.map SeqNum.toOctet).getD noSeq, r.version]

/-- Any octet above 15 stands for no sequence number. -/
def decode (octets : Octets) : Except WireError SyncResponse :=
  match octets with
  | a :: b :: c :: d :: seq :: version :: _ =>
    .ok ⟨Octets.word32 a b c d, SeqNum.ofOctet? seq, version⟩
  | short => .error (.truncated size short.length)

@[simp] theorem length_encode (r : SyncResponse) : r.encode.length = size := rfl

@[simp] theorem decode_encode_append (r : SyncResponse) (rest : Octets) :
    decode (r.encode ++ rest) = .ok r := by
  obtain ⟨token, lastSeen, version⟩ := r
  cases lastSeen with
  | none => simp [encode, decode, Octets.ofWord32, Octets.word32_ofWord32, noSeq, SeqNum.ofOctet?]
  | some s => simp [encode, decode, Octets.ofWord32, Octets.word32_ofWord32]

end SyncResponse
end CommandLink
