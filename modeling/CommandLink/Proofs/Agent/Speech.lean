import CommandLink.Agent.Receive
import CommandLink.Agent.Worker
import CommandLink.Proofs.Datalink.FrameLink
import CommandLink.Proofs.Wire.Numbering

/-! # What an agent sends

An agent sends each frame under the next number and uses the number up only when the link has taken
the frame, so that all that an agent sends between two restarts stays in step with its controller
(`Agent.Speech`). A restart begins the numbers anew, and the announcement that follows is exempt. -/

namespace CommandLink
namespace Agent

variable {L : Type} [FrameLink L]

/-- `b` follows from `a` by sending frames of the kinds `K`, of which the link has taken `posts`. -/
structure Speech (K : FrameKind → Prop) (a b : Agent L) (posts : List Post) : Prop where
  link : FrameLink.taken b.link = FrameLink.taken a.link ++ posts.map Post.octets
  sent : b.stats.sent = a.stats.sent + posts.length
  kinds : ∀ p ∈ posts, K p.kind
  ready : FrameLink.Ready a.link → FrameLink.Ready b.link

/-- The same, with numbers that follow on from `a`'s. -/
structure Smooth (K : FrameKind → Prop) (a b : Agent L) (posts : List Post) : Prop
    extends Speech K a b posts where
  inStep : ∀ {up}, Discipline.controller.InStep up a.outbound →
    Discipline.controller.InStep (up ++ posts) b.outbound

variable {K K' : FrameKind → Prop} {a b c : Agent L} {ps qs : List Post}

theorem Speech.mono (H : Speech K a b ps) (h : ∀ k, K k → K' k) : Speech K' a b ps :=
  ⟨H.link, H.sent, fun p hp => h _ (H.kinds p hp), H.ready⟩

theorem Smooth.mono (H : Smooth K a b ps) (h : ∀ k, K k → K' k) : Smooth K' a b ps :=
  ⟨H.toSpeech.mono h, H.inStep⟩

theorem Speech.trans (H : Speech K a b ps) (H' : Speech K b c qs) : Speech K a c (ps ++ qs) where
  link := by rw [H'.link, H.link, List.map_append, List.append_assoc]
  sent := by rw [H'.sent, H.sent, List.length_append, Nat.add_assoc]
  kinds p hp := (List.mem_append.mp hp).elim (H.kinds p) (H'.kinds p)
  ready h := H'.ready (H.ready h)

theorem Smooth.trans (H : Smooth K a b ps) (H' : Smooth K b c qs) : Smooth K a c (ps ++ qs) :=
  ⟨H.toSpeech.trans H'.toSpeech, fun h => by
    rw [← List.append_assoc]
    exact H'.inStep (H.inStep h)⟩

theorem Smooth.refl (hl : b.link = a.link) (ho : b.outbound = a.outbound)
    (hs : b.stats.sent = a.stats.sent) : Smooth K a b [] where
  link := by simp [hl]
  sent := hs
  kinds p hp := (List.not_mem_nil hp).elim
  ready h := hl ▸ h
  inStep h := by rwa [List.append_nil, ho]

/-! ## One frame -/

/-- What becomes of a frame, also on a stream that does not exist. -/
theorem sendPayload_sends (a : Agent L) (kind : FrameKind) (stream : UInt8) (payload : Octets) :
    (∃ e link, a.sendPayload kind stream payload = (.error e, { a with link := link }) ∧
      FrameLink.taken link = FrameLink.taken a.link) ∨
    (payload.length ≤ Frame.maxPayload ∧ ∃ link : L,
      a.sendPayload kind stream payload = (.ok (),
        { a with
          link := link, outbound := a.outbound.commit a.outbound.peek
          stats := a.stats.countSent }) ∧
      FrameLink.taken link = FrameLink.taken a.link ++
        [(a.nextHeader kind stream (UInt16.ofNat payload.length)).encode ++ payload]) := by
  unfold sendPayload
  split
  · by_cases fits : payload.length ≤ Frame.maxPayload
    · rw [Frame.payloadLength_ok fits]
      simp only
      split
      · exact .inl ⟨_, a.link, rfl, rfl⟩
      · next b hb =>
        have empty := FrameLink.data_reserve hb
        split
        · exact .inl ⟨_, a.link, rfl, rfl⟩
        · next frame hp =>
          have data := (Buffer.data_prepend hp).1
          split
          · next e link ht => exact .inl ⟨_, link, rfl, FrameLink.taken_of_error ht⟩
          · next n link ht =>
            refine .inr ⟨fits, link, rfl, ?_⟩
            rw [FrameLink.taken_of_ok ht, data, Buffer.data_append, empty, List.nil_append]
    · rw [Frame.payloadLength_error fits]
      exact .inl ⟨_, a.link, rfl, rfl⟩
  · exact .inl ⟨_, a.link, rfl, rfl⟩

theorem sendPayload_cases (a : Agent L) (kind : FrameKind) (stream : StreamId)
    (payload : Octets) :
    (∃ e link, a.sendPayload kind stream.toOctet payload = (.error e, { a with link := link }) ∧
      FrameLink.taken link = FrameLink.taken a.link) ∨
    (∃ (fits : payload.length ≤ Frame.maxPayload) (link : L),
      a.sendPayload kind stream.toOctet payload = (.ok (),
        { a with
          link := link, outbound := a.outbound.commit a.outbound.peek
          stats := a.stats.countSent }) ∧
      FrameLink.taken link = FrameLink.taken a.link ++
        [(⟨kind, a.outbound.peek, stream, payload, fits⟩ : Post).octets]) := by
  rcases a.sendPayload_sends kind stream.toOctet payload with ⟨e, link, h, ht⟩ | ⟨fits, link, h, ht⟩
  · exact .inl ⟨e, link, h, ht⟩
  · exact .inr ⟨fits, link, h, ht⟩

/-- Whatever the stream is, sending touches nothing but the sending half. -/
theorem sendPayload_touches (a : Agent L) (kind : FrameKind) (stream : UInt8) (payload : Octets) :
    ∃ link outbound sent, (a.sendPayload kind stream payload).2 =
      { a with link := link, outbound := outbound, stats := { a.stats with sent := sent } } := by
  rcases a.sendPayload_sends kind stream payload with ⟨e, link, h, -⟩ | ⟨-, link, h, -⟩
  · exact ⟨link, a.outbound, a.stats.sent, by rw [h]⟩
  · exact ⟨link, a.outbound.commit a.outbound.peek, a.stats.sent + 1, by rw [h]; rfl⟩

theorem sendPayload_eq (a : Agent L) (kind : FrameKind) (stream : StreamId) (payload : Octets) :
    ∃ link outbound sent, (a.sendPayload kind stream.toOctet payload).2 =
      { a with link := link, outbound := outbound, stats := { a.stats with sent := sent } } :=
  a.sendPayload_touches kind stream.toOctet payload

/-- Whether its response is sent or not, the worker turns to the next command. -/
theorem answer_eq (a : Agent L) (w : Worker) (payload : Octets) :
    ∃ link outbound sent, a.answer w payload =
      { a with
        link := link, outbound := outbound, stats := { a.stats with sent := sent }
        workers := (a.setPhase w.id .waiting).workers } := by
  obtain ⟨link, outbound, sent, eq⟩ := a.sendPayload_eq .response w.stream payload
  exact ⟨link, outbound, sent, by rw [answer, eq]; rfl⟩

/-- A link that is ready takes every frame that is not too long, and stays ready in any case. -/
theorem sendPayload_of_ready {a : Agent L} (hr : FrameLink.Ready a.link) (kind : FrameKind)
    (stream : UInt8) (payload : Octets) :
    FrameLink.Ready (a.sendPayload kind stream payload).2.link ∧
      (a.running = true → payload.length ≤ Frame.maxPayload →
        (a.sendPayload kind stream payload).1 = .ok ()) := by
  unfold sendPayload
  split
  · by_cases fits : payload.length ≤ Frame.maxPayload
    · rw [Frame.payloadLength_ok fits]
      obtain ⟨b, hb, room⟩ := FrameLink.reserve_of_ready hr Header.size payload.length
      have empty := FrameLink.data_reserve hb
      obtain ⟨frame, hp, hd, hs⟩ := (b.append payload).prepend_ok
        (a.nextHeader kind stream (UInt16.ofNat payload.length)).encode
        (by rw [Header.length_encode, Buffer.start_append]; omega)
      rw [Header.length_encode, Buffer.start_append] at hs
      have short : frame.data.length ≤ Frame.maxSize := by
        rw [hd, List.length_append, Header.length_encode, Buffer.data_append, empty]
        simp only [Frame.maxPayload, Frame.maxSize, Header.size, List.nil_append] at fits ⊢
        omega
      obtain ⟨n, link, ht, hl⟩ := FrameLink.transmit_of_ready hr short (by omega)
      simp only [hb, hp, ht]
      exact ⟨hl, fun _ _ => trivial⟩
    · rw [Frame.payloadLength_error fits]
      exact ⟨hr, fun _ h => absurd h fits⟩
  · next hrun => exact ⟨hr, fun h => absurd h hrun⟩

/-- An attempt to send a frame puts the frame on the link, or fails and puts nothing there. -/
theorem sendPayload_smooth (a : Agent L) (kind : FrameKind) (stream : StreamId)
    (payload : Octets) :
    (∃ e, (a.sendPayload kind stream.toOctet payload).1 = .error e) ∧
      Smooth (· = kind) a (a.sendPayload kind stream.toOctet payload).2 [] ∨
    ∃ fits, Smooth (· = kind) a (a.sendPayload kind stream.toOctet payload).2
      [⟨kind, a.outbound.peek, stream, payload, fits⟩] := by
  have ready : FrameLink.Ready a.link →
      FrameLink.Ready (a.sendPayload kind stream.toOctet payload).2.link :=
    fun h => (sendPayload_of_ready h _ _ _).1
  rcases a.sendPayload_cases kind stream payload with ⟨e, link, h, ht⟩ | ⟨fits, link, h, ht⟩
  · rw [h] at ready ⊢
    exact .inl ⟨⟨e, rfl⟩, ⟨by simp [ht], rfl, fun p hp => (List.not_mem_nil hp).elim, ready⟩,
      fun hi => by rwa [List.append_nil]⟩
  · rw [h] at ready ⊢
    refine .inr ⟨fits, ⟨⟨by simpa using ht, rfl, ?_, ready⟩, fun hi => hi.post rfl⟩⟩
    intro p hp
    rw [List.mem_singleton.mp hp]

theorem sendPayload_smooth_of_ready {a : Agent L} (hr : FrameLink.Ready a.link)
    (hrun : a.running = true) (kind : FrameKind) (stream : StreamId) {payload : Octets}
    (fits : payload.length ≤ Frame.maxPayload) :
    Smooth (· = kind) a (a.sendPayload kind stream.toOctet payload).2
      [⟨kind, a.outbound.peek, stream, payload, fits⟩] := by
  rcases a.sendPayload_smooth kind stream payload with ⟨⟨e, he⟩, -⟩ | ⟨_, h⟩
  · rw [(sendPayload_of_ready hr kind stream.toOctet payload).2 hrun fits] at he
    cases he
  · exact h

/-- Whether or not an attempt fails, it goes on in step. -/
theorem sendPayload_posts (a : Agent L) (kind : FrameKind) (stream : StreamId)
    (payload : Octets) :
    ∃ posts, Smooth (· = kind) a (a.sendPayload kind stream.toOctet payload).2 posts := by
  rcases a.sendPayload_smooth kind stream payload with ⟨-, h⟩ | ⟨_, h⟩
  · exact ⟨_, h⟩
  · exact ⟨_, h⟩

theorem notify_smooth (a : Agent L) (kind : FrameKind) (stream : StreamId) :
    ∃ posts, Smooth (· = kind) a (a.notify kind stream.toOctet) posts :=
  a.sendPayload_posts kind stream []

theorem notify_eq (a : Agent L) (kind : FrameKind) (stream : StreamId) :
    ∃ link outbound sent, a.notify kind stream.toOctet =
      { a with link := link, outbound := outbound, stats := { a.stats with sent := sent } } :=
  a.sendPayload_eq kind stream []

end Agent
end CommandLink
