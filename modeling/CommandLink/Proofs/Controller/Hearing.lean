import CommandLink.Controller.Receive
import CommandLink.Proofs.Endpoint.Ear

/-! # What a controller makes of its agent's frames

A frame of the agent changes the receiving half of the controller as its ear says, and for the rest
no more than what callbacks and waits for the agent look at. A response is held until its slot takes
it. There is no callback that sends when the agent starts: that would be one more caller. -/

namespace CommandLink
namespace Controller

variable {L : Type}

/-- The receiving half of a controller. -/
def ear (c : Controller L) : Ear := .of c.inbound (c.receiving.map PendingResponse.seq) c.stats

theorem dispatchEvent_eq (c : Controller L) (stream : StreamId) (payload : Octets) :
    ∃ told, c.dispatchEvent stream payload = { c with log := c.log ++ told } := by
  have same : ∃ told, c = { c with log := c.log ++ told } := ⟨[], by rw [List.append_nil]⟩
  unfold dispatchEvent
  split
  · split
    · exact same
    · simp only
      split
      · split
        · split
          · exact ⟨_, rfl⟩
          · exact same
        · exact same
      · split
        · split
          · exact ⟨_, rfl⟩
          · exact same
        · exact same
      · exact same
  · exact same

theorem acceptSync_eq (c : Controller L) (payload : Octets) :
    ∃ slot, c.acceptSync payload = { c with syncSlot := slot } := by
  have same : ∃ slot, c = { c with syncSlot := slot } := ⟨c.syncSlot, rfl⟩
  unfold acceptSync
  split
  · exact same
  · split
    · split
      · exact ⟨_, rfl⟩
      · exact same
    · exact same

variable [Datalink L]

theorem dispatch_eq {c : Controller L} (hs : c.onStart = none) (kind : Option FrameKind)
    (stream : StreamId) (payload : Octets) :
    ∃ handshake slot log, c.dispatch kind stream payload =
      { c with handshake := handshake, syncSlot := slot, log := log } := by
  unfold dispatch
  split
  · obtain ⟨told, h⟩ := c.dispatchEvent_eq stream payload
    exact ⟨c.handshake, c.syncSlot, c.log ++ told, h⟩
  · exact ⟨c.handshake.started, c.syncSlot, c.log, by simp only [agentStarted, hs]⟩
  · obtain ⟨slot, h⟩ := c.acceptSync_eq payload
    exact ⟨c.handshake, slot, c.log, h⟩
  · exact ⟨c.handshake, c.syncSlot, c.log, rfl⟩

/-- Whether a controller keeps a frame until its slot takes it. -/
def holds (c : Controller L) (p : Post) : Bool :=
  p.kind == .response && Discipline.controller.verdict c.inbound p != .again

/-- What a controller does with a frame of its agent. -/
theorem receive_octets {c : Controller L} (hr : c.receiving = none) (hs : c.onStart = none)
    (p : Post) :
    ∃ handshake slot log, c.receive (some p.octets) =
      { c with
        inbound := (c.ear.hear .controller p (p.kind == .response)).inbound
        stats := (c.ear.hear .controller p (p.kind == .response)).stats c.stats.sent
        receiving := if c.holds p then some ⟨p.stream, p.payload, p.seq⟩ else none
        handshake := handshake, syncSlot := slot, log := log } := by
  simp only [receive, Incoming.ofOctets_octets, accept, Post.seq_header, Post.ofCode?_header]
  by_cases h : Discipline.controller.verdict c.inbound p = .again
  · have again := Discipline.verdict_eq_again_iff.mp h
    have remembers := Discipline.after_of_again h
    have start : p.kind ≠ .agentStart := by simpa [Discipline.controller] using again.2
    refine ⟨c.handshake, c.syncSlot, c.log, ?_⟩
    simp [holds, ear, Ear.of, Ear.hear, Ear.settle, Ear.stats, h, remembers, hr, again.1, start,
      LinkStats.countRepeat, LinkStats.countReceived]
  · have fresh : ¬(c.inbound.isRepeat p.seq = true ∧ some p.kind ≠ some .agentStart) := by
      intro hrep
      exact h (Discipline.verdict_eq_again_iff.mpr (by simpa [Discipline.controller] using hrep))
    rw [if_neg fresh]
    by_cases hk : p.kind = .response
    · refine ⟨c.handshake, c.syncSlot, c.log, ?_⟩
      simp [holds, ear, Ear.of, Ear.hear, Ear.stats, h, hk, LinkStats.countReceived]
    · obtain ⟨handshake, slot, log, hd⟩ := dispatch_eq
        (c := { c with stats := c.stats.countReceived }) hs (some p.kind) p.stream p.payload
      refine ⟨handshake, slot, log, ?_⟩
      have gap : Discipline.controller.verdict c.inbound p = .gap ↔
          c.inbound.isGap p.seq = true ∧ p.kind ≠ .agentStart := by
        rw [Discipline.verdict_eq_gap_iff h]
        simp [Discipline.controller]
      have remembers : Discipline.controller.after c.inbound p = c.inbound.record p.seq := rfl
      simp only [Option.some.injEq, hk, if_false, hd, finish]
      by_cases hg : c.inbound.isGap p.seq = true ∧ p.kind ≠ .agentStart
      · simp [holds, hk, ear, Ear.of, Ear.hear, Ear.settle, Ear.stats, hg, gap.mpr hg, hr,
          remembers, LinkStats.countReceived, LinkStats.countGap]
      · simp [holds, hk, ear, Ear.of, Ear.hear, Ear.settle, Ear.stats, hg, mt gap.mp hg, hr,
          remembers, LinkStats.countReceived, h]

theorem ear_receive {c : Controller L} (hr : c.receiving = none) (hs : c.onStart = none)
    (p : Post) :
    (c.receive (some p.octets)).ear = c.ear.hear .controller p (p.kind == .response) := by
  obtain ⟨handshake, slot, log, h⟩ := c.receive_octets hr hs p
  have free : c.ear.pending = none := by simp [ear, Ear.of, hr]
  have pending : (if c.holds p then some (⟨p.stream, p.payload, p.seq⟩ : PendingResponse)
      else none).map PendingResponse.seq =
      (c.ear.hear .controller p (p.kind == .response)).pending := by
    have inbound : c.ear.inbound = c.inbound := rfl
    rw [Ear.pending_hear free, holds, inbound]
    cases p.kind == .response && Discipline.controller.verdict c.inbound p != .again <;> rfl
  rw [h, ear, pending]
  rfl

omit [Datalink L]

/-- What a controller does with the response that it holds. -/
theorem deliver_cases {c c' : Controller L} (h : c.deliver = some c') :
    ∃ response, c.receiving = some response ∧
      ((c.slots.get response.stream).closed = true ∨
        (c.slots.get response.stream).closed = false ∧
        (c.slots.get response.stream).item = none) ∧
      c' = { c with
        inbound := c.ear.pass.inbound
        stats := c.ear.pass.stats c.stats.sent
        receiving := none
        slots := if (c.slots.get response.stream).closed then c.slots
          else c.slots.set response.stream
            { c.slots.get response.stream with item := some response.body } } := by
  unfold deliver at h
  split at h
  · cases h
  · next response hr =>
    refine ⟨response, hr, ?_⟩
    have stats : (if c.inbound.isGap response.seq = true ∧
        some FrameKind.response ≠ some .agentStart then c.stats.countGap else c.stats) =
        c.ear.pass.stats c.stats.sent := by
      simp only [ear, Ear.of, hr, Option.map_some, Ear.pass, Ear.stats]
      by_cases hg : c.inbound.isGap response.seq = true <;> simp [hg, LinkStats.countGap]
    have inbound : c.inbound.record response.seq = c.ear.pass.inbound := by
      simp [ear, Ear.of, hr, Ear.pass]
    cases hc : (c.slots.get response.stream).closed with
    | true =>
      simp only [Slot.push, hc, if_true, Option.some.injEq, finish] at h
      rw [stats, inbound] at h
      exact ⟨.inl rfl, by rw [← h]; simp⟩
    | false =>
      cases hi : (c.slots.get response.stream).item with
      | some body => simp [Slot.push, hc, hi] at h
      | none =>
        simp only [Slot.push, hc, hi, Option.isSome_none, Bool.false_eq_true, if_false,
          Option.some.injEq, finish] at h
        rw [stats, inbound] at h
        exact ⟨.inr ⟨rfl, rfl⟩, by rw [← h]; simp [hc]⟩

theorem ear_deliver {c c' : Controller L} (h : c.deliver = some c') : c'.ear = c.ear.pass := by
  obtain ⟨response, -, -, rfl⟩ := deliver_cases h
  rw [← Ear.of_stats c.ear.pass c.stats.sent, Ear.pending_pass]
  rfl

end Controller
end CommandLink
