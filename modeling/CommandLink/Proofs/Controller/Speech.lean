import CommandLink.Controller.Transmit
import CommandLink.Proofs.Datalink.FrameLink
import CommandLink.Proofs.Wire.Numbering

/-! # What a controller's attempts to send come to

A caller asks for a command, a reset or a sync request to be sent. Whatever becomes of the attempt,
it touches nothing but the sending half of the controller, in one of three ways (`Speech`): no
buffer was to be had and nothing has happened; the number is used up and no frame has left; or the
frame has left under that number. -/

namespace CommandLink

/-- The payload of a command's frame. -/
def Command.body (c : Command) : Octets := CommandHeader.encode ⟨c.id⟩ ++ c.payload

/-- A failure before a sequence number is taken. -/
def EndpointError.spares : EndpointError → Bool
  | .noMem | .shutdown => true
  | _ => false

namespace Controller

/-- What a caller asks a controller to send. -/
inductive Message
  | command (command : Command)
  | reset
  | sync
  deriving DecidableEq

namespace Message

/-- The number under which a message goes. -/
def seq (t : Outbound) : Message → SeqNum
  | .command _ | .reset => t.peek
  | .sync => t.lastSent.getD SeqNum.first

/-- Whether a frame is a message's frame. -/
def Carried (p : Post) : Message → Prop
  | .command c => p.kind = .command ∧ p.stream = c.stream ∧ p.payload = c.body
  | .reset => p.kind = .agentReset
  | .sync => p.kind = .syncRequest

def kind : Message → FrameKind
  | .command _ => .command
  | .reset => .agentReset
  | .sync => .syncRequest

theorem Carried.kind {p : Post} {m : Message} (h : m.Carried p) : p.kind = m.kind := by
  cases m with
  | command c => exact h.1
  | reset => exact h
  | sync => exact h

/-- The payload of a command on a stream. -/
def bodyOn (stream : StreamId) : Message → Option Octets
  | .command c => if c.stream = stream then some c.body else none
  | .reset | .sync => none

theorem Carried.payloadOn {p : Post} {m : Message} (h : m.Carried p) (stream : StreamId) :
    p.payloadOn .command stream = m.bodyOn stream := by
  have kind := h.kind
  cases m with
  | command c => simp [Post.payloadOn, bodyOn, h.1, h.2.1, h.2.2]
  | reset => simp [Post.payloadOn, bodyOn, kind, Message.kind]
  | sync => simp [Post.payloadOn, bodyOn, kind, Message.kind]

theorem mem_of_bodyOn {stream : StreamId} {m : Message} {body : Octets}
    (h : m.bodyOn stream = some body) :
    ∃ c, m = .command c ∧ c.stream = stream ∧ c.body = body := by
  cases m with
  | command c =>
    simp only [bodyOn, Option.ite_none_right_eq_some, Option.some.injEq] at h
    exact ⟨c, rfl, h.1, h.2⟩
  | reset => cases h
  | sync => cases h

end Message

/-- A message with what became of it. -/
structure Attempt where
  message : Message
  outcome : Except EndpointError Unit

variable {L : Type} [FrameLink L]

/-- How `c'` follows from `c` when the controller has made the attempts `attempts` and its link has
taken the frames `posts`, at most one each. -/
inductive Speech (c c' : Controller L) : List Attempt → List Post → Prop
  | silent (link : FrameLink.taken c'.link = FrameLink.taken c.link)
      (outbound : c'.outbound = c.outbound) (sent : c'.stats.sent = c.stats.sent) :
      Speech c c' [] []
  | spared (m : Message) {e : EndpointError} (he : e.spares = true)
      (link : FrameLink.taken c'.link = FrameLink.taken c.link)
      (outbound : c'.outbound = c.outbound) (sent : c'.stats.sent = c.stats.sent) :
      Speech c c' [⟨m, .error e⟩] []
  | lost (m : Message) {e : EndpointError} (he : e.spares = false)
      (link : FrameLink.taken c'.link = FrameLink.taken c.link)
      (outbound : c'.outbound = c.outbound.commit (m.seq c.outbound))
      (sent : c'.stats.sent = c.stats.sent) :
      Speech c c' [⟨m, .error e⟩] []
  | said (m : Message) (p : Post) (hm : m.Carried p) (hs : p.seq = m.seq c.outbound)
      (link : FrameLink.taken c'.link = FrameLink.taken c.link ++ [p.octets])
      (outbound : c'.outbound = c.outbound.commit p.seq)
      (sent : c'.stats.sent = c.stats.sent + 1) :
      Speech c c' [⟨m, .ok ()⟩] [p]

theorem Speech.taken {c c' : Controller L} {attempts : List Attempt} {posts : List Post}
    (H : Speech c c' attempts posts) :
    FrameLink.taken c'.link = FrameLink.taken c.link ++ posts.map Post.octets := by
  cases H with
  | said m p hm hs link => exact link
  | _ => next link _ _ => rw [link, List.map_nil, List.append_nil]

/-- What is attempted with success keeps an agent in step. -/
theorem Speech.inStep {c c' : Controller L} {attempts : List Attempt} {posts : List Post}
    (H : Speech c c' attempts posts) (ok : ∀ a ∈ attempts, a.outcome = .ok ()) {r : Inbound}
    {said : List Post} (h : Discipline.agent.InStepFrom r said c.outbound) :
    Discipline.agent.InStepFrom r (said ++ posts) c'.outbound := by
  cases H with
  | silent _ outbound => rwa [List.append_nil, outbound]
  | spared m => exact nomatch ok _ (List.mem_singleton_self _)
  | lost m => exact nomatch ok _ (List.mem_singleton_self _)
  | said m p hm hs _ outbound =>
    rw [outbound]
    cases m with
    | command command => exact h.post hs
    | reset => exact h.post hs
    | sync =>
      have hk : p.kind = .syncRequest := hm
      exact h.exempt (by rw [hk]; rfl) (by rw [hk]; rfl) _

/-! ## One frame -/

/-- A frame either leaves as it should, or leaves no trace. -/
theorem sendFrame_cases (c : Controller L) (kind : FrameKind) (seq : SeqNum) (stream : StreamId)
    (b : Buffer) :
    (∃ e link, c.sendFrame kind seq stream b = (.error e, { c with link := link }) ∧
      e.spares = false ∧ FrameLink.taken link = FrameLink.taken c.link) ∨
    (∃ (fits : b.data.length ≤ Frame.maxPayload) (link : L),
      c.sendFrame kind seq stream b =
        (.ok (), { c with link := link, stats := c.stats.countSent }) ∧
      FrameLink.taken link =
        FrameLink.taken c.link ++ [(⟨kind, seq, stream, b.data, fits⟩ : Post).octets]) := by
  unfold sendFrame
  by_cases fits : b.data.length ≤ Frame.maxPayload
  · rw [Frame.payloadLength_ok fits]
    split
    · next h => cases h
    · next length h =>
      cases h
      cases hp : b.prepend (Header.of kind seq stream (UInt16.ofNat b.data.length)).encode with
      | error e => exact .inl ⟨_, c.link, rfl, rfl, rfl⟩
      | ok frame =>
        have data := (Buffer.data_prepend hp).1
        simp only
        cases ht : Datalink.transmit c.link frame with
        | mk result link =>
          cases result with
          | error e => exact .inl ⟨_, link, rfl, rfl, FrameLink.taken_of_error ht⟩
          | ok n =>
            refine .inr ⟨fits, link, rfl, ?_⟩
            rw [FrameLink.taken_of_ok ht, data]
            rfl
  · rw [Frame.payloadLength_error fits]
    exact .inl ⟨_, c.link, rfl, rfl, rfl⟩

theorem sendFrame_eq (c : Controller L) (kind : FrameKind) (seq : SeqNum) (stream : StreamId)
    (b : Buffer) :
    ∃ link sent, (c.sendFrame kind seq stream b).2 =
      { c with link := link, stats := { c.stats with sent := sent } } := by
  rcases c.sendFrame_cases kind seq stream b with ⟨e, link, h, -⟩ | ⟨-, link, h, -⟩
  · exact ⟨link, c.stats.sent, by rw [h]⟩
  · exact ⟨link, c.stats.sent + 1, by rw [h]; rfl⟩

/-- A frame sent once its number is taken. -/
theorem sendFrame_speech (c c' : Controller L) (m : Message) (hlink : c'.link = c.link)
    (hout : c'.outbound = c.outbound.commit (m.seq c.outbound)) (hstats : c'.stats = c.stats)
    (kind : FrameKind) (stream : StreamId) (b : Buffer)
    (hm : ∀ p : Post, p.kind = kind → p.stream = stream → p.payload = b.data → m.Carried p) :
    ∃ posts, Speech c (c'.sendFrame kind (m.seq c.outbound) stream b).2
      [⟨m, (c'.sendFrame kind (m.seq c.outbound) stream b).1⟩] posts := by
  rcases c'.sendFrame_cases kind (m.seq c.outbound) stream b with
    ⟨e, link, h, he, ht⟩ | ⟨fits, link, h, ht⟩
  · rw [h]
    exact ⟨[], .lost m he (by rw [ht, hlink]) hout (by rw [hstats])⟩
  · rw [h]
    exact ⟨_, .said m ⟨kind, m.seq c.outbound, stream, b.data, fits⟩ (hm _ rfl rfl rfl) rfl
      (by rw [ht, hlink]) hout (by simp [LinkStats.countSent, hstats])⟩

/-- A link that is ready takes every frame that is not too long. -/
theorem sendFrame_of_ready {c : Controller L} (hr : FrameLink.Ready c.link) (kind : FrameKind)
    (seq : SeqNum) (stream : StreamId) {b : Buffer} (fits : b.data.length ≤ Frame.maxPayload)
    (room : Header.size + FrameLink.overhead L ≤ b.start) :
    (c.sendFrame kind seq stream b).1 = .ok () ∧
      FrameLink.Ready (c.sendFrame kind seq stream b).2.link := by
  obtain ⟨frame, hp, hd, hs⟩ := b.prepend_ok
    (Header.of kind seq stream (UInt16.ofNat b.data.length)).encode
    (by rw [Header.length_encode]; omega)
  have short : frame.data.length ≤ Frame.maxSize := by
    rw [hd, List.length_append, Header.length_encode]
    simp only [Frame.maxPayload, Frame.maxSize, Header.size] at fits ⊢
    omega
  rw [Header.length_encode] at hs
  obtain ⟨n, link, ht, hl⟩ := FrameLink.transmit_of_ready hr short (by omega)
  simp only [sendFrame, Frame.payloadLength_ok fits, hp, ht]
  exact ⟨trivial, hl⟩

/-! ## Commands -/

theorem reserve_cases (c : Controller L) (size : Nat) :
    (∃ e, c.reserve size = .error e ∧ e.spares = true) ∨
      ∃ b, c.reserve size = .ok b ∧ b.data = [] := by
  unfold reserve
  split
  · split
    · next b hb => exact .inr ⟨b, rfl, FrameLink.data_reserve hb⟩
    · exact .inl ⟨_, rfl, rfl⟩
  · exact .inl ⟨_, rfl, rfl⟩

theorem reserve_of_ready {c : Controller L} (hrun : c.running = true)
    (hr : FrameLink.Ready c.link) (size : Nat) :
    ∃ b, c.reserve size = .ok b ∧ b.data = [] ∧ Header.size + FrameLink.overhead L ≤ b.start := by
  obtain ⟨b, hb, hs⟩ := FrameLink.reserve_of_ready hr Header.size size
  exact ⟨b, by simp [reserve, hrun, hb], FrameLink.data_reserve hb, hs⟩

/-- The buffer of a command's frame. -/
def commandBuffer (b : Buffer) (command : Command) : Buffer :=
  (b.append (CommandHeader.encode ⟨command.id⟩)).append command.payload

theorem data_commandBuffer {b : Buffer} (h : b.data = []) (command : Command) :
    (commandBuffer b command).data = command.body := by
  simp [commandBuffer, Command.body, h]

theorem send_of_reserve {c : Controller L} {command : Command} {b : Buffer}
    (h : c.reserve (payloadHeaderSize + command.payload.length) = .ok b) :
    c.send command = sendFrame { c with outbound := c.outbound.commit c.outbound.peek } .command
      c.outbound.peek command.stream (commandBuffer b command) := by
  simp only [send, h, Outbound.advance, commandBuffer]

theorem send_eq (c : Controller L) (command : Command) :
    ∃ link outbound sent, (c.send command).2 =
      { c with link := link, outbound := outbound, stats := { c.stats with sent := sent } } := by
  rcases c.reserve_cases (payloadHeaderSize + command.payload.length) with ⟨e, he, -⟩ | ⟨b, hb, -⟩
  · exact ⟨c.link, c.outbound, c.stats.sent, by simp only [send, he]⟩
  · obtain ⟨link, sent, h⟩ := sendFrame_eq { c with outbound := c.outbound.commit c.outbound.peek }
      .command c.outbound.peek command.stream (commandBuffer b command)
    rw [send_of_reserve hb, h]
    exact ⟨link, c.outbound.commit c.outbound.peek, sent, rfl⟩

theorem send_speech (c : Controller L) (command : Command) :
    ∃ posts, Speech c (c.send command).2 [⟨.command command, (c.send command).1⟩] posts := by
  rcases c.reserve_cases (payloadHeaderSize + command.payload.length) with
    ⟨e, he, hs⟩ | ⟨b, hb, hd⟩
  · simp only [send, he]
    exact ⟨[], .spared _ hs rfl rfl rfl⟩
  · rw [send_of_reserve hb]
    exact sendFrame_speech c { c with outbound := c.outbound.commit c.outbound.peek }
      (.command command) rfl rfl rfl _ _ _ fun p hk hs hp =>
        ⟨hk, hs, hp.trans (data_commandBuffer hd command)⟩

theorem send_of_ready {c : Controller L} (hrun : c.running = true) (hr : FrameLink.Ready c.link)
    {command : Command} (hle : payloadHeaderSize + command.payload.length ≤ Frame.maxPayload) :
    (c.send command).1 = .ok () ∧ FrameLink.Ready (c.send command).2.link := by
  obtain ⟨b, hb, hd, hs⟩ := c.reserve_of_ready hrun hr (payloadHeaderSize + command.payload.length)
  rw [send_of_reserve hb]
  refine sendFrame_of_ready (by exact hr) _ _ _ ?_ (by simpa [commandBuffer] using hs)
  rw [data_commandBuffer hd, Command.body, List.length_append, CommandHeader.length_encode]
  exact hle

/-! ## Requests to reset -/

theorem resetAgent_eq (c : Controller L) :
    ∃ link outbound sent handshake, c.resetAgent.2 =
      { c with
        link := link, outbound := outbound, handshake := handshake
        stats := { c.stats with sent := sent } } := by
  rcases c.reserve_cases 0 with ⟨e, he, -⟩ | ⟨b, hb, -⟩
  · exact ⟨c.link, c.outbound, c.stats.sent, c.handshake, by simp only [resetAgent, he]⟩
  · simp only [resetAgent, hb, Outbound.advance]
    obtain ⟨link, sent, h⟩ := sendFrame_eq
      { c with outbound := c.outbound.commit c.outbound.peek, handshake := c.handshake.await }
      .agentReset c.outbound.peek StreamId.control b
    split
    · next c' hc =>
      rw [hc] at h
      exact ⟨link, c.outbound.commit c.outbound.peek, sent, c.handshake.await, h⟩
    · next e c' hc =>
      rw [hc] at h
      refine ⟨link, c.outbound.commit c.outbound.peek, sent,
        c'.handshake.restore c.handshake.state, ?_⟩
      simp only at h
      rw [h]

theorem Speech.handshake {c c' : Controller L} {attempts : List Attempt} {posts : List Post}
    (H : Speech c c' attempts posts) (handshake : Handshake) :
    Speech c { c' with handshake := handshake } attempts posts := by
  cases H with
  | silent link outbound sent => exact .silent link outbound sent
  | spared m he link outbound sent => exact .spared m he link outbound sent
  | lost m he link outbound sent => exact .lost m he link outbound sent
  | said m p hm hs link outbound sent => exact .said m p hm hs link outbound sent

theorem resetAgent_speech (c : Controller L) :
    ∃ posts, Speech c c.resetAgent.2 [⟨.reset, c.resetAgent.1⟩] posts := by
  rcases c.reserve_cases 0 with ⟨e, he, hs⟩ | ⟨b, hb, -⟩
  · simp only [resetAgent, he]
    exact ⟨[], .spared _ hs rfl rfl rfl⟩
  · simp only [resetAgent, hb, Outbound.advance]
    obtain ⟨posts, H⟩ := sendFrame_speech c
      { c with outbound := c.outbound.commit c.outbound.peek, handshake := c.handshake.await }
      .reset rfl rfl rfl .agentReset StreamId.control b fun p hk _ _ => hk
    simp only [Message.seq] at H
    split
    · next c' hc =>
      rw [hc] at H
      exact ⟨posts, H⟩
    · next e c' hc =>
      rw [hc] at H
      exact ⟨posts, H.handshake _⟩

/-! ## Sync requests -/

theorem sendSync_eq (c : Controller L) (b : Buffer) :
    ∃ link outbound sent, (c.sendSync b).2 =
      { c with link := link, outbound := outbound, stats := { c.stats with sent := sent } } := by
  obtain ⟨link, sent, h⟩ := sendFrame_eq
    { c with outbound := c.outbound.commit (c.outbound.lastSent.getD SeqNum.first) } .syncRequest
    (c.outbound.lastSent.getD SeqNum.first) StreamId.control b
  exact ⟨link, c.outbound.commit (c.outbound.lastSent.getD SeqNum.first), sent, h⟩

theorem sendSync_speech (c : Controller L) (b : Buffer) :
    ∃ posts, Speech c (c.sendSync b).2 [⟨.sync, (c.sendSync b).1⟩] posts :=
  sendFrame_speech c
    { c with outbound := c.outbound.commit (c.outbound.lastSent.getD SeqNum.first) } .sync
    rfl rfl rfl _ _ _ fun _ hk _ _ => hk

theorem sendSync_of_ready {c : Controller L} (hr : FrameLink.Ready c.link) {b : Buffer}
    (fits : b.data.length ≤ Frame.maxPayload)
    (room : Header.size + FrameLink.overhead L ≤ b.start) :
    (c.sendSync b).1 = .ok () ∧ FrameLink.Ready (c.sendSync b).2.link :=
  sendFrame_of_ready (by exact hr) _ _ _ fits room

end Controller
end CommandLink
