import CommandLink.Proofs.Controller.Intake
import CommandLink.Proofs.Controller.Malformed

/-! # Whatever arrives at a controller

What a link hands over to a controller need not be a frame of an agent, and a callback may send when
the agent starts. Either way the ear of the controller becomes what the octets alone say
(`Ear.arrive`), and after a run it is what all that has been heard says
(`Controller.Host.ear_perform`). -/

namespace CommandLink

/-- Takes in whatever has arrived, and passes it on if need be. -/
def Ear.arrive (e : Ear) (octets : Octets) : Ear :=
  match Incoming.ofOctets octets with
  | .frame header _ _ =>
    if FrameKind.ofCode? header.kind = some .agentStart then
      { e with inbound := e.inbound.record header.seq, received := e.received + 1 }
    else e.absorb header.seq
  | _ => { e with received := e.received + 1, dropped := e.dropped + 1 }

namespace Controller

variable {L : Type}

theorem ear_recount (t : Tally) (c : Controller L) :
    (c.recount t).ear =
      { c.ear with
        received := c.ear.received + t.received, dropped := c.ear.dropped + t.dropped } := rfl

theorem ear_finish_start (c : Controller L) (seq : SeqNum) :
    (c.finish (some .agentStart) seq).ear = { c.ear with inbound := c.inbound.record seq } := by
  simp [finish, ear, Ear.of]

variable [FrameLink L]

theorem ear_agentStarted (c : Controller L) : c.agentStarted.ear = c.ear := by
  unfold agentStarted
  simp only
  split
  · rfl
  · split
    · rfl
    · next command _ =>
      obtain ⟨link, outbound, sent, h⟩ := send_eq
        (({ c with handshake := c.handshake.started } : Controller L).record
          (.agentStarted c.handshake.started)) command
      rw [record, h]
      rfl

/-- A start notification, also under the number seen last. -/
theorem ear_receive_start (c : Controller L) {octets : Octets} {header : Header}
    {stream : StreamId} {payload : Octets}
    (sound : Incoming.ofOctets octets = .frame header stream payload)
    (hk : FrameKind.ofCode? header.kind = some .agentStart) :
    (c.receive (some octets)).ear =
      { c.ear with
        inbound := c.inbound.record header.seq, received := c.ear.received + 1 } := by
  have started := ear_agentStarted ({ c with stats := c.stats.countReceived } : Controller L)
  have kept := congrArg Ear.inbound started
  have acted : c.receive (some octets) =
      (({ c with stats := c.stats.countReceived } : Controller L).agentStarted).finish
        (some .agentStart) header.seq := by
    simp [receive, sound, accept, hk, dispatch]
  rw [acted, ear_finish_start, started]
  rfl

/-- Whatever arrives at a receive path that is free. -/
theorem ear_receive_any {c : Controller L} (hr : c.receiving = none) (octets : Octets) :
    (c.receive (some octets)).ear.pass = c.ear.arrive octets := by
  have free : c.ear.pending = none := by simp [ear, Ear.of, hr]
  have unsound :
      (∀ header stream payload, Incoming.ofOctets octets ≠ .frame header stream payload) →
      (c.receive (some octets)).ear.pass =
        { c.ear with received := c.ear.received + 1, dropped := c.ear.dropped + 1 } := by
    intro h
    rw [c.receive_malformed (malformed_iff.mpr h), ear_recount, Ear.pass_of_none (by exact free)]
    rfl
  cases found : Incoming.ofOctets octets with
  | frame header stream payload =>
    simp only [Ear.arrive, found]
    split
    · next hk =>
      rw [c.ear_receive_start found hk, Ear.pass_of_none (by exact free)]
      rfl
    · next hk => exact ear_receive_frame (f := ⟨octets, header, stream, payload, found⟩) hr hk
  | _ =>
    simp only [Ear.arrive, found]
    exact unsound (by simp [found])

namespace Host

/-- Takes steps one after the other, if each of them can be taken. -/
def perform (incoming : List Octets) (h : Host L) (actions : List Action) : Option (Host L) :=
  actions.foldlM (fun h action => h.act incoming action) h

variable {h h' : Host L} {incoming : List Octets}

/-- What a step has heard, and what it comes to. -/
theorem ear_act {action : Action} (ha : h.act incoming action = some h') :
    (h'.heard = h.heard ∧ h'.endpoint.ear.pass = h.endpoint.ear.pass) ∨
      ∃ octets, incoming[h.heard]? = some octets ∧ h'.heard = h.heard + 1 ∧
        h'.endpoint.ear.pass = h.endpoint.ear.pass.arrive octets := by
  cases act_effect ha with
  | spoke attempts posts speech kept tried heard => exact .inl ⟨heard, by rw [kept.ear]⟩
  | heard octets next free eq =>
    have pending : h.endpoint.ear.pending = none := by simp [ear, Ear.of, free]
    refine .inr ⟨octets, next, by rw [eq], ?_⟩
    rw [eq, Ear.pass_of_none pending]
    exact ear_receive_any free octets
  | passed c delivered eq =>
    refine .inl ⟨by rw [eq], ?_⟩
    rw [eq]
    exact (congrArg Ear.pass (ear_deliver delivered)).trans (Ear.pass_pass _)

/-- After a run the ear is what all that has been heard says. -/
theorem ear_perform {c : Controller L} {actions : List Action} {h : Host L}
    (run : (ofController c).perform incoming actions = some h) :
    h.endpoint.ear.pass = (incoming.take h.heard).foldl Ear.arrive c.ear.pass := by
  refine foldlM_preserves (I := fun h : Host L => h.endpoint.ear.pass =
    (incoming.take h.heard).foldl Ear.arrive c.ear.pass) ?_ run rfl
  intro h action h' before ha
  rcases ear_act ha with ⟨heard, same⟩ | ⟨octets, next, heard, arrived⟩
  · rw [heard, same, before]
  · rw [heard, arrived, before, take_succ_of_getElem? next, List.foldl_append]
    rfl

end Host
end Controller
end CommandLink
