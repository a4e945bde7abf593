import CommandLink.Datalink.SerialLink
import CommandLink.Proofs.Datalink.PacketRoundTrip
import CommandLink.Proofs.Datalink.SlipRoundTrip

/-! # The serial link is a queue of frames

Whatever frames go into one end come out of the other, in order and nothing else, however the byte
stream cuts what it carries (`SerialLink.receiveAll_postAll`). A frame goes in as the layers above
send it: a buffer from the link, the payload behind its start, the header in front.

The receiving half is a run of the decoder, so that it does not matter where a read ends; and a
decoder that has taken whole packets stands where it began, so that frames do not interfere. -/

namespace CommandLink
namespace SerialLink

/-! ## Sending -/

/-- A frame to be sent, with the room asked for it. More payload than asked for is no harm, but the
header has to fit. -/
structure Draft where
  headerRoom : Nat
  payloadRoom : Nat
  header : Octets
  payload : Octets
  header_le : header.length ≤ headerRoom

namespace Draft

def frame (d : Draft) : Octets := d.header ++ d.payload

end Draft

/-- The buffer of a frame. -/
def load (link : SerialLink) (d : Draft) : Option Buffer :=
  (link.reserve d.headerRoom d.payloadRoom).bind fun b =>
    ((b.append d.payload).prepend d.header).toOption

/-- Sends one frame, if there is a buffer for it. -/
def post (link : SerialLink) (d : Draft) : Option (Except LinkError Nat) × SerialLink :=
  match link.load d with
  | some b =>
    let (result, link) := link.transmit b
    (some result, link)
  | none => (none, link)

/-- Sends frames one after the other. -/
def postAll (link : SerialLink) : List Draft → List (Option (Except LinkError Nat)) × SerialLink
  | [] => ([], link)
  | d :: rest =>
    let (result, link) := link.post d
    let (results, link) := link.postAll rest
    (result :: results, link)

/-- The octets of a frame on the byte stream. -/
def wire (config : Config) (frame : Octets) : Octets :=
  Slip.encode (Packet.layout config.crc config.role frame)

/-- A buffer from the link has room for the header and for what the packet adds. -/
theorem load_ok (link : SerialLink) (d : Draft) :
    ∃ b, link.load d = some b ∧ b.data = d.frame ∧ Packet.maxOverhead ≤ b.start := by
  have room : d.header.length ≤
      ((Buffer.alloc (d.headerRoom + Packet.maxOverhead)
        (d.payloadRoom + Packet.checksumSize)).append d.payload).start := by
    have := d.header_le
    simp
    omega
  obtain ⟨b, hb, hd, hs⟩ := Buffer.prepend_ok _ _ room
  refine ⟨b, by simp [load, reserve, hb, Except.toOption], by simp [hd, Draft.frame], ?_⟩
  have := d.header_le
  simp only [Buffer.start_append, Buffer.start_alloc] at hs
  omega

theorem transmit_cases (link : SerialLink) (b : Buffer) :
    (∃ e, link.transmit b = (.error e, link)) ∨
    link.transmit b = (.ok (wire link.config b.data).length,
      { link with written := link.written ++ wire link.config b.data }) := by
  unfold transmit
  split
  · exact .inl ⟨_, rfl⟩
  · split
    · exact .inl ⟨_, rfl⟩
    · unfold Packet.encode
      split
      · exact .inl ⟨_, rfl⟩
      · next octets ha =>
        split at ha
        · next b' hb =>
          cases ha
          cases link.broken with
          | some e => exact .inl ⟨_, rfl⟩
          | none => exact .inr (by rw [Packet.data_of_assemble hb]; rfl)
        · cases ha

theorem transmit_ok {link : SerialLink} {b : Buffer} (hr : link.running = true)
    (hb : link.broken = none) (hle : b.data.length ≤ link.config.maxFrame)
    (hs : Packet.maxOverhead ≤ b.start) :
    link.transmit b = (.ok (wire link.config b.data).length,
      { link with written := link.written ++ wire link.config b.data }) := by
  rcases link.transmit_cases b with ⟨e, he⟩ | h
  · obtain ⟨b', ha⟩ := Packet.assemble_ok hs link.config.crc link.config.role
    have short : ¬ link.config.maxFrame < b.data.length := Nat.not_lt.mpr hle
    simp only [transmit, hr, hb, short, Packet.encode, ha, Bool.not_true, Bool.false_eq_true,
      if_false] at he
    cases he
  · exact h

theorem post_ok {link : SerialLink} {d : Draft} (hr : link.running = true)
    (hb : link.broken = none) (hle : d.frame.length ≤ link.config.maxFrame) :
    link.post d = (some (.ok (wire link.config d.frame).length),
      { link with written := link.written ++ wire link.config d.frame }) := by
  obtain ⟨b, hl, hd, hs⟩ := link.load_ok d
  simp only [post, hl, transmit_ok hr hb (hd ▸ hle) hs, hd]

/-- Each of the frames is taken, and the byte stream carries them one behind the other. -/
theorem postAll_ok (link : SerialLink) (hr : link.running = true) (hb : link.broken = none)
    {drafts : List Draft} (hle : ∀ d ∈ drafts, d.frame.length ≤ link.config.maxFrame) :
    link.postAll drafts =
      (drafts.map fun d => some (.ok (wire link.config d.frame).length),
        { link with
          written := link.written ++ drafts.flatMap fun d => wire link.config d.frame }) := by
  induction drafts generalizing link with
  | nil => simp [postAll]
  | cons d rest ih =>
    have first := post_ok hr hb (hle d (List.mem_cons_self ..))
    have others := ih { link with written := link.written ++ wire link.config d.frame }
      hr hb fun e he => hle e (List.mem_cons_of_mem _ he)
    simp [postAll, first, others]

/-! ## Receiving -/

theorem framesOf_append (role : LinkRole) (xs ys : List Slip.Decoder.Output) :
    framesOf role (xs ++ ys) = framesOf role xs ++ framesOf role ys :=
  List.filterMap_append

theorem framesOf_replicate_nothing (role : LinkRole) (n : Nat) :
    framesOf role (List.replicate n .nothing) = [] := by
  induction n with
  | zero => rfl
  | succ n ih => exact ih

@[simp] theorem receive_nil (role : LinkRole) (d : Slip.Decoder) :
    receive role d [] = (d, []) := rfl

/-- A stretch of the byte stream may be cut anywhere. -/
theorem receive_append (role : LinkRole) (d : Slip.Decoder) (s t : Octets) :
    receive role d (s ++ t) =
      ((receive role (receive role d s).1 t).1,
        (receive role d s).2 ++ (receive role (receive role d s).1 t).2) := by
  simp [receive, Slip.Decoder.run_append, framesOf_append]

/-- The octets of a frame complete that frame and nothing else. -/
theorem receive_wire {sender receiver : Config} (hrole : receiver.role = sender.role.peer)
    {frame : Octets} (hle : frame.length ≤ receiver.maxFrame) :
    receive receiver.role (decoder receiver) (wire sender frame) =
      (decoder receiver, [frame]) := by
  have fits : (Packet.layout sender.crc sender.role frame).length ≤
      receiver.maxFrame + Packet.maxOverhead :=
    Nat.le_trans (Packet.length_layout_le ..) (Nat.add_le_add_right hle _)
  have decoded := Packet.decode_layout sender.crc sender.role frame
  have run := Slip.Decoder.run_encode (Packet.layout_ne_nil sender.crc sender.role frame) fits
  simp only [receive, decoder, wire, run, framesOf_append, framesOf_replicate_nothing,
    List.nil_append, hrole]
  simp [framesOf, decoded]

theorem receive_wires {sender receiver : Config} (hrole : receiver.role = sender.role.peer)
    (frames : List Octets) (hle : ∀ f ∈ frames, f.length ≤ receiver.maxFrame) :
    receive receiver.role (decoder receiver) (frames.flatMap (wire sender)) =
      (decoder receiver, frames) := by
  induction frames with
  | nil => rfl
  | cons f rest ih =>
    have first := receive_wire hrole (hle f (List.mem_cons_self ..))
    have others := ih fun g hg => hle g (List.mem_cons_of_mem _ hg)
    rw [List.flatMap_cons, receive_append, first, others]
    rfl

/-! ## Reads -/

namespace Read

/-- The octets of the byte stream that a read takes. -/
def carried : Read → Octets
  | .octets taken => taken
  | .failed _ => []

/-- A read that neither ends nor breaks the byte stream. -/
def Sound : Read → Prop
  | .octets taken => taken ≠ []
  | .failed kind => kind = .interrupted

end Read

/-- What is received does not depend on where the reads end and how often they are interrupted. -/
theorem receiveAll_append {reads : List Read} (h : ∀ r ∈ reads, r.Sound) (role : LinkRole)
    (d : Slip.Decoder) (rest : List Read) :
    receiveAll role d (reads ++ rest) =
      (receive role d (reads.flatMap Read.carried)).2 ++
        receiveAll role (receive role d (reads.flatMap Read.carried)).1 rest := by
  induction reads generalizing d with
  | nil => simp
  | cons r reads ih =>
    have sound : r.Sound := h r (List.mem_cons_self ..)
    have tail := ih fun s hs => h s (List.mem_cons_of_mem _ hs)
    match r, sound with
    | .failed .interrupted, _ => simp [receiveAll, Read.carried, tail]
    | .octets (b :: bs), _ =>
      simp only [List.cons_append, receiveAll, tail, List.flatMap_cons, Read.carried]
      rw [← List.cons_append, receive_append, List.append_assoc]

/-- Frames that are short enough for both ends all get into the link, and come out at the other end
in the order in which they were sent and nothing else with them, however the byte stream is cut into
reads; then the receiving end is as if it had just begun. -/
theorem receiveAll_postAll (sender receiver : Config) (drafts : List Draft)
    (hrole : receiver.role = sender.role.peer)
    (hsend : ∀ d ∈ drafts, d.frame.length ≤ sender.maxFrame)
    (hreceive : ∀ d ∈ drafts, d.frame.length ≤ receiver.maxFrame) :
    (∀ r ∈ ((ofConfig sender).postAll drafts).1, ∃ n, r = some (.ok n)) ∧
    ∀ reads : List Read, (∀ r ∈ reads, r.Sound) →
      reads.flatMap Read.carried = ((ofConfig sender).postAll drafts).2.written →
      ∀ rest, receiveAll receiver.role (decoder receiver) (reads ++ rest) =
        drafts.map Draft.frame ++ receiveAll receiver.role (decoder receiver) rest := by
  have sent := postAll_ok (ofConfig sender) rfl rfl hsend
  rw [sent]
  constructor
  · intro r hr
    obtain ⟨d, -, rfl⟩ := List.mem_map.mp hr
    exact ⟨_, rfl⟩
  · intro reads hreads hcut rest
    have cut : reads.flatMap Read.carried = (drafts.map Draft.frame).flatMap (wire sender) := by
      rw [hcut]
      simp [ofConfig, List.flatMap_map]
    have received := receive_wires hrole (drafts.map Draft.frame) (by
      intro f hf
      obtain ⟨d, hd, rfl⟩ := List.mem_map.mp hf
      exact hreceive d hd)
    rw [receiveAll_append hreads, cut, received]

/-- An empty frame and a frame of END and ESC octets, read octet by octet with an interruption
before each. -/
theorem receiveAll_postAll_octetwise :
    let sender : Config := ⟨4, true, .controller⟩
    let receiver : Config := ⟨8, false, .agent⟩
    let drafts : List Draft :=
      [⟨0, 0, [], [], Nat.le_refl _⟩,
        ⟨2, 1, [Slip.endOctet], [Slip.escOctet, Slip.endOctet, Slip.escEnd], by decide⟩]
    let written := ((ofConfig sender).postAll drafts).2.written
    (∀ d ∈ drafts, d.frame.length ≤ sender.maxFrame ∧ d.frame.length ≤ receiver.maxFrame) ∧
      receiveAll receiver.role (decoder receiver)
        (written.flatMap fun b => [.failed .interrupted, .octets [b]]) =
          [[], [Slip.endOctet, Slip.escOctet, Slip.endOctet, Slip.escEnd]] := by
  intro sender receiver drafts written
  have short : ∀ d ∈ drafts,
      d.frame.length ≤ sender.maxFrame ∧ d.frame.length ≤ receiver.maxFrame := by decide
  refine ⟨short, ?_⟩
  have H := (receiveAll_postAll sender receiver drafts rfl (fun d hd => (short d hd).1)
    (fun d hd => (short d hd).2)).2 (written.flatMap fun b => [.failed .interrupted, .octets [b]])
  have sound : ∀ r ∈ written.flatMap fun b => [Read.failed .interrupted, .octets [b]],
      r.Sound := by
    intro r hr
    obtain ⟨b, -, hb⟩ := List.mem_flatMap.mp hr
    rcases List.mem_cons.mp hb with rfl | hb
    · rfl
    · cases List.mem_singleton.mp hb
      exact List.cons_ne_nil _ _
  have cut : (written.flatMap fun b => [Read.failed .interrupted, .octets [b]]).flatMap
      Read.carried = written := by
    simp [List.flatMap_assoc, Read.carried]
  have received := H sound cut []
  rwa [List.append_nil] at received

end SerialLink
end CommandLink
