import CommandLink.Agent.Receive
import CommandLink.Controller.Receive
import CommandLink.Proofs.Datalink.BufferRegion
import CommandLink.Proofs.Datalink.FrameLink
import CommandLink.Proofs.Wire.Post

/-! # Readers of frames

Three pieces of code take a frame apart. `Frame.decode` cuts the octets of a frame at its positions.
A controller and an agent have a buffer instead: they strip the header off its front, look the
stream up, compare the declared length with what is left and truncate it (`Incoming.ofBuffer`). All
three find the same header and the same payload in it, or none does (`Frame.readers_agree`). The
only difference is the stream, which the endpoints look at before they look at the length: a frame
without a stream is refused for that, however long it says it is. -/

namespace CommandLink

variable {octets payload : Octets} {header : Header}

namespace Header

/-- What is read as a header is what the header is written as, and what follows. -/
theorem decode_eq_ok_iff :
    decode octets = .ok header ↔
      header.kind.toNat < 16 ∧ ∃ body, octets = header.encode ++ body := by
  constructor
  · intro h
    unfold decode at h
    split at h
    · next first stream lo hi body =>
      cases h
      have := first.toNat_lt
      have whole : UInt8.ofNat (16 * (UInt8.ofNat (first.toNat / 16)).toNat
          + (SeqNum.ofLowBits first).val) = first := by
        apply Octets.eq_ofNat_of_toNat
        simp only [SeqNum.ofLowBits, UInt8.toNat_ofNat']
        omega
      refine ⟨?_, body, ?_⟩
      · simp only [UInt8.toNat_ofNat']
        omega
      · simp only [encode, Header.first, whole, Octets.ofWord16_word16]
        rfl
    · cases h
  · rintro ⟨nibble, body, rfl⟩
    exact decode_encode_append header nibble body

end Header

namespace Frame

/-- What is read as a frame is a header that declares the length of the payload, the payload, and
any octets behind it. -/
theorem decode_eq_ok_iff :
    decode octets = .ok (header, payload) ↔
      header.kind.toNat < 16 ∧ header.length.toNat = payload.length ∧
        ∃ trailing, octets = header.encode ++ payload ++ trailing := by
  constructor
  · intro h
    unfold decode at h
    split at h
    · cases h
    · next read =>
      simp only at h
      split at h
      · next fits =>
        cases h
        obtain ⟨nibble, body, rfl⟩ := Header.decode_eq_ok_iff.mp read
        rw [List.drop_left' (Header.length_encode _)] at fits ⊢
        refine ⟨nibble, (List.length_take_of_le fits).symm, body.drop header.length.toNat, ?_⟩
        rw [List.append_assoc, List.take_append_drop]
      · cases h
  · rintro ⟨nibble, declared, trailing, rfl⟩
    rw [List.append_assoc, decode, Header.decode_encode_append header nibble]
    simp only [List.drop_left' (Header.length_encode header), List.length_append, declared,
      Nat.le_add_right, if_true, List.take_left]

theorem header_of_decode (h : decode octets = .ok (header, payload)) :
    Header.decode octets = .ok header := by
  obtain ⟨nibble, -, trailing, rfl⟩ := decode_eq_ok_iff.mp h
  rw [List.append_assoc]
  exact Header.decode_encode_append header nibble _

/-- Octets behind the declared payload are not looked at. -/
theorem decode_trailing (h : decode octets = .ok (header, payload)) (trailing : Octets) :
    decode (header.encode ++ payload ++ trailing) = .ok (header, payload) := by
  obtain ⟨nibble, declared, -⟩ := decode_eq_ok_iff.mp h
  exact decode_eq_ok_iff.mpr ⟨nibble, declared, trailing, rfl⟩

end Frame

namespace Incoming

/-! ## What an endpoint finds in a buffer -/

/-- Takes the frame out of a buffer: strips the header, looks the stream up, compares the declared
length with what is left, and truncates. -/
def ofBuffer (b : Buffer) : Incoming :=
  match b.removeStart Header.size with
  | none => .short
  | some (front, body) =>
    match Header.decode front with
    | .error _ => .short
    | .ok header =>
      match StreamId.ofOctet? header.stream with
      | none => .badStream header
      | some stream =>
        if body.data.length < header.length.toNat then .overLength header stream
        else .frame header stream (body.truncate header.length.toNat).data

theorem ofOctets_short (short : octets.length < Header.size) : ofOctets octets = .short := by
  match octets, short with
  | [], _ | [_], _ | [_, _], _ | [_, _, _], _ => rfl
  | _ :: _ :: _ :: _ :: _, short =>
    simp only [List.length_cons, Header.size] at short
    omega

/-- Nothing but the data of a buffer counts. -/
theorem ofBuffer_eq (b : Buffer) : ofBuffer b = ofOctets b.data := by
  unfold ofBuffer
  cases h : b.removeStart Header.size with
  | none => exact (ofOctets_short (Buffer.short_of_removeStart h)).symm
  | some cut =>
    obtain ⟨front, body⟩ := cut
    obtain ⟨-, rfl, after⟩ := Buffer.view_of_removeStart h
    have rest : body.data = b.data.drop Header.size := congrArg Buffer.View.data after
    have kept (n : Nat) : (body.truncate n).data = body.data.take n :=
      congrArg Buffer.View.data (body.view_truncate n)
    simp only [Buffer.view, kept, rest]
    rcases b.data with _ | ⟨first, _ | ⟨stream, _ | ⟨lo, _ | ⟨hi, body⟩⟩⟩⟩ <;> rfl

/-- What octets are to an endpoint, by what `Frame.decode` says of them. -/
inductive Reads (octets : Octets) : Incoming → Prop
  | short {e : WireError} : Header.decode octets = .error e → Frame.decode octets = .error e →
    Reads octets .short
  | badStream {header : Header} {e : WireError} : Header.decode octets = .ok header →
    header.streamId = .error e → Reads octets (.badStream header)
  | overLength {header : Header} {stream : StreamId} {e : WireError} :
    Header.decode octets = .ok header → header.streamId = .ok stream →
    Frame.decode octets = .error e → Reads octets (.overLength header stream)
  | frame {header : Header} {stream : StreamId} {payload : Octets} :
    Frame.decode octets = .ok (header, payload) → header.streamId = .ok stream →
    Reads octets (.frame header stream payload)

theorem reads_ofOctets (octets : Octets) : Reads octets (ofOctets octets) := by
  match octets with
  | [] | [_] | [_, _] | [_, _, _] => exact .short rfl rfl
  | first :: stream :: lo :: hi :: body =>
    simp only [ofOctets]
    cases found : StreamId.ofOctet? stream with
    | none => exact .badStream rfl (by rw [Header.streamId, StreamId.ofOctet, found])
    | some id =>
      have known : StreamId.ofOctet stream = .ok id := by rw [StreamId.ofOctet, found]
      simp only
      split
      · next narrow => exact .overLength rfl known (if_neg (Nat.not_le.mpr narrow))
      · next fits => exact .frame (if_pos (Nat.le_of_not_lt fits)) known

/-- The octets are no frame for an endpoint, although their stream may be one. -/
def Refused : Incoming → Prop
  | .short | .overLength .. => True
  | .badStream _ | .frame .. => False

/-- Unless the stream is bad, octets are refused exactly if `Frame.decode` refuses them. -/
theorem Reads.refused_iff {i : Incoming} (R : Reads octets i) (known : ∀ h, i ≠ .badStream h) :
    i.Refused ↔ ∃ e, Frame.decode octets = .error e := by
  cases R with
  | short _ failed | overLength _ _ failed => exact ⟨fun _ => ⟨_, failed⟩, fun _ => trivial⟩
  | badStream => exact (known _ rfl).elim
  | frame read =>
    constructor
    · intro refused
      exact refused.elim
    · rintro ⟨e, failed⟩
      rw [read] at failed
      cases failed

end Incoming

/-! ## What the endpoints do -/

section
variable {L : Type} [Datalink L]

/-- What a controller does with octets that `Frame.decode` takes apart. -/
def Controller.heed (c : Controller L) (octets : Octets) : Controller L :=
  let c := { c with stats := c.stats.countReceived }
  let dropped := { c with stats := c.stats.countDropped }
  match Frame.decode octets with
  | .error _ => dropped
  | .ok (header, payload) =>
    match header.streamId with
    | .error _ => dropped
    | .ok stream => c.accept header stream payload

/-- What an agent does with octets that `Frame.decode` takes apart. Without a header there is
nothing to tell. -/
def Agent.heed (a : Agent L) (octets : Octets) : Agent L :=
  let a := { a with stats := a.stats.countReceived }
  let dropped := { a with stats := a.stats.countDropped }
  match Frame.decode octets with
  | .error _ =>
    match Header.decode octets with
    | .error _ => dropped
    | .ok header =>
      match header.streamId with
      | .error _ => (dropped.notify .invalidStream header.stream).remember header.seq
      | .ok _ => (dropped.notify .error header.stream).remember header.seq
  | .ok (header, payload) =>
    match header.streamId with
    | .error _ => (dropped.notify .invalidStream header.stream).remember header.seq
    | .ok stream => a.accept header stream payload

theorem Controller.receive_eq_heed (c : Controller L) (octets : Octets) :
    c.receive (some octets) = c.heed octets := by
  have R := Incoming.reads_ofOctets octets
  simp only [receive, heed]
  generalize Incoming.ofOctets octets = i at R ⊢
  cases R with
  | short _ failed | overLength _ _ failed => simp only [failed]
  | frame read known => simp only [read, known]
  | badStream read missing =>
    cases h : Frame.decode octets with
    | error e => rfl
    | ok found =>
      have same := Frame.header_of_decode h
      rw [read] at same
      cases same
      simp only [missing]

theorem Agent.receive_eq_heed (a : Agent L) (octets : Octets) :
    a.receive (some octets) = a.heed octets := by
  have R := Incoming.reads_ofOctets octets
  simp only [receive, heed]
  generalize Incoming.ofOctets octets = i at R ⊢
  cases R with
  | short headless failed => simp only [failed, headless]
  | overLength read known failed => simp only [failed, read, known]
  | frame read known => simp only [read, known]
  | badStream read missing =>
    cases h : Frame.decode octets with
    | error e => simp only [read, missing]
    | ok found =>
      have same := Frame.header_of_decode h
      rw [read] at same
      cases same
      simp only [missing]

end

namespace Frame

/-- A frame that is written is read again, whatever stands behind it: each field of the header, and
exactly the payload. What is read stands in front of the octets as it would be written. The
endpoints find in a buffer what `Frame.decode` finds in its data, and do with it what they would do
with that; but for the stream, they refuse exactly what it refuses. Octets behind the declared
payload change nothing of what either endpoint does. -/
theorem readers_agree :
    (∀ (kind : FrameKind) (seq : SeqNum) (stream : StreamId) (payload trailing : Octets),
      payload.length ≤ maxPayload →
      ∃ frame header, encode kind seq stream payload = .ok frame ∧
        decode (frame ++ trailing) = .ok (header, payload) ∧
        header.frameKind = .ok kind ∧ header.seq = seq ∧ header.streamId = .ok stream ∧
        header.length.toNat = payload.length) ∧
    (∀ (octets payload : Octets) (header : Header), decode octets = .ok (header, payload) →
      header.encode ++ payload <+: octets) ∧
    (∀ b : Buffer, Incoming.ofBuffer b = Incoming.ofOctets b.data ∧
      Incoming.Reads b.data (Incoming.ofBuffer b) ∧
      ((∀ header, Incoming.ofBuffer b ≠ .badStream header) →
        ((Incoming.ofBuffer b).Refused ↔ ∃ e, decode b.data = .error e))) ∧
    ∀ (L : Type) [Datalink L] (c : Controller L) (a : Agent L) (octets : Octets),
      c.receive (some octets) = c.heed octets ∧ a.receive (some octets) = a.heed octets ∧
      ∀ (header : Header) (payload trailing : Octets), decode octets = .ok (header, payload) →
        c.receive (some (header.encode ++ payload ++ trailing)) = c.receive (some octets) ∧
        a.receive (some (header.encode ++ payload ++ trailing)) = a.receive (some octets) := by
  refine ⟨?_, ?_, ?_, ?_⟩
  · intro kind seq stream payload trailing fits
    let p : Post := ⟨kind, seq, stream, payload, fits⟩
    refine ⟨p.octets, p.header, ?_, ?_, ?_, rfl, ?_, p.toNat_length⟩
    · rw [encode, payloadLength_ok fits]
      rfl
    · exact decode_eq_ok_iff.mpr ⟨kind.code_lt, p.toNat_length, trailing, rfl⟩
    · rw [Header.frameKind, FrameKind.ofCode, p.ofCode?_header]
    · have known : StreamId.ofOctet? p.header.stream = some stream :=
        StreamId.ofOctet?_toOctet stream
      rw [Header.streamId, StreamId.ofOctet, known]
  · intro octets payload header read
    obtain ⟨-, -, trailing, rfl⟩ := decode_eq_ok_iff.mp read
    exact List.prefix_append ..
  · intro b
    have R := Incoming.reads_ofOctets b.data
    rw [Incoming.ofBuffer_eq]
    exact ⟨rfl, R, R.refused_iff⟩
  · intro L _ c a octets
    refine ⟨c.receive_eq_heed octets, a.receive_eq_heed octets, ?_⟩
    intro header payload trailing read
    have padded := decode_trailing read trailing
    constructor
    · simp only [Controller.receive_eq_heed, Controller.heed, read, padded]
    · simp only [Agent.receive_eq_heed, Agent.heed, read, padded]

/-- A command on stream 3 with an octet behind it, which neither endpoint heeds, and one that
declares an octet more than it has. -/
theorem readers_agree_padded :
    let c := Controller.start (⟨[], []⟩ : ScriptedLink) ⟨none, .ofMillis 20⟩ 0
    let a := (Agent.start (⟨[], []⟩ : ScriptedLink) ⟨"1.0", true⟩).2
    (∃ frame header, encode .command 5 3 [7, 8] = .ok frame ∧
      decode (frame ++ [9]) = .ok (header, [7, 8]) ∧ header.streamId = .ok 3) ∧
    (Header.of .command 5 3 2).encode ++ [7, 8] <+: [0x05, 3, 2, 0, 7, 8, 9] ∧
    (∃ e, decode [0x05, 3, 3, 0, 7, 8] = .error e) ∧
    c.receive (some [0x05, 3, 2, 0, 7, 8, 9]) = c.receive (some [0x05, 3, 2, 0, 7, 8]) ∧
    a.receive (some [0x05, 3, 2, 0, 7, 8, 9]) = a.receive (some [0x05, 3, 2, 0, 7, 8]) := by
  intro c a
  obtain ⟨written, front, found, acted⟩ := readers_agree
  obtain ⟨frame, header, sent, read, -, -, known, -⟩ :=
    written .command 5 3 [7, 8] [9] (by decide)
  have padded : decode [0x05, 3, 2, 0, 7, 8, 9] = .ok (Header.of .command 5 3 2, [7, 8]) := rfl
  have refused := (found (.ofOctets [0x05, 3, 3, 0, 7, 8])).2.2 (fun _ bad => by cases bad)
  obtain ⟨-, -, padding⟩ := acted ScriptedLink c a [0x05, 3, 2, 0, 7, 8, 9]
  obtain ⟨controller, agent⟩ := padding _ _ [] padded
  exact ⟨⟨frame, header, sent, read, known⟩, front _ _ _ padded, refused.mp trivial,
    controller.symm, agent.symm⟩

end Frame
end CommandLink
