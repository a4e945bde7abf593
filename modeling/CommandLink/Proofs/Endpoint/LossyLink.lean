import CommandLink.Proofs.Agent.Intake
import CommandLink.Proofs.Controller.Intake

/-! # Both ends of a link that loses and repeats frames

Over a link that keeps the order, loses no more than fourteen frames in a row and repeats frames
back to back, a controller and an agent act upon each frame that gets through exactly once, in
order, and count precisely what the link has done (`Passage.dispatched_once`). The counters and the
frames that are kept are those of a `Reception`; what is left is that an endpoint which is at rest
has heard, passed on and handed over everything. -/

namespace CommandLink

/-- What a controller comes to by a passage: it has acted once upon each frame that got through, and
the responses among them have been taken from their slots. -/
structure Controller.Dispatched {L : Type} [FrameLink L] (c : Controller L) (ps : Passage)
    (d : Intake (Controller L)) : Prop where
  received : d.endpoint.stats.received = c.stats.received + ps.arrivals.length
  repeats : d.endpoint.stats.repeats = c.stats.repeats + ps.extras
  gaps : d.endpoint.stats.gaps = c.stats.gaps + ps.bursts
  acted : ∃ inbound stats slots, d.endpoint =
    { c.dispatchAll ps.survivors with
      inbound := inbound, stats := stats, receiving := none, slots := slots }
  responses : ∀ stream, (c.slots.get stream).closed = false →
    Intake.on stream d.drained = (c.slots.get stream).item.toList ++
      ps.survivors.filterMap (SoundFrame.payloadOn .response stream)

/-- What an agent comes to by a passage of commands: those that got through have been taken from
their slots, or refused if their stream takes none, and it has told of each burst of lost frames. -/
structure Agent.Dispatched {L : Type} [FrameLink L] (a : Agent L) (ps : Passage)
    (d : Intake (Agent L)) : Prop where
  received : d.endpoint.stats.received = a.stats.received + ps.arrivals.length
  repeats : d.endpoint.stats.repeats = a.stats.repeats + ps.extras
  gaps : d.endpoint.stats.gaps = a.stats.gaps + ps.bursts
  commands : ∀ stream, a.accepts stream →
    Intake.on stream d.drained = (a.slots.get stream).item.toList ++
      ps.survivors.filterMap (SoundFrame.payloadOn .command stream)
  told : ∃ posts : List Post,
    FrameLink.taken d.endpoint.link = FrameLink.taken a.link ++ posts.map Post.octets ∧
    posts.countP (·.kind = .packetLoss) = ps.bursts ∧
    ∀ stream, ¬ a.accepts stream →
      posts.countP (fun p => p.kind = .invalidStream ∧ p.stream = stream) =
        (ps.survivors.filterMap (SoundFrame.payloadOn .command stream)).length

namespace Passage

/-- What arrives, as it travels. -/
def octets (ps : Passage) : List Octets := ps.arrivals.map SoundFrame.octets

/-- A frame that arrives is one of those that were sent. -/
theorem mem_arrivals {ps : Passage} {f : SoundFrame} (h : f ∈ ps.arrivals) :
    ∃ x ∈ ps, x.frame = f := by
  obtain ⟨x, hx, hf⟩ := List.mem_flatMap.mp h
  exact ⟨x, hx, (List.eq_of_mem_replicate hf).symm⟩

variable {ps : Passage} {first : Nat}

theorem controller_dispatched {L : Type} [FrameLink L] (numbered : ps.NumberedFrom first)
    (short : ps.LosesAtMost 14) {c : Controller L}
    (kinds : ∀ x ∈ ps, x.frame.kind ≠ some .agentStart) (unheard : c.inbound = .fresh)
    (idle : c.receiving = none) {moves : List Intake.Move} {d : Intake (Controller L)}
    (run : (Intake.ofEndpoint c).perform ps.octets moves = some d)
    (rest : ∀ move, d.act ps.octets move = none) : c.Dispatched ps d := by
  obtain ⟨free, all, empty⟩ := Intake.rests rest
  have T := Controller.Took.run (fun f hf => by
    obtain ⟨x, hx, rfl⟩ := mem_arrivals hf
    exact kinds x hx) unheard idle run
  rw [octets, List.length_map] at all
  rw [List.take_of_length_le all] at T
  obtain ⟨inbound, reception⟩ := reception numbered short
  have hr : d.endpoint.receiving = none := Option.map_eq_none_iff.mp free
  have ear := T.free hr
  rw [reception] at ear
  refine ⟨congrArg Ear.received ear, congrArg Ear.repeats ear, congrArg Ear.gaps ear, ?_,
    fun stream ho => ?_⟩
  · obtain ⟨inbound', stats, receiving, slots, -, e⟩ := T.acted
    rw [reception] at e
    refine ⟨inbound', stats, slots, ?_⟩
    rw [e] at hr ⊢
    exact congrArg (fun r => ({ c.dispatchAll ps.survivors with
      inbound := inbound', stats := stats, receiving := r, slots := slots } : Controller L)) hr
  · have reached := (T.responses stream ho).2
    rw [reception, Intake.reached, free, empty stream] at reached
    simpa [Intake.on] using reached

theorem agent_dispatched {L : Type} [FrameLink L] (numbered : ps.NumberedFrom first)
    (short : ps.LosesAtMost 14) {a : Agent L}
    (kinds : ∀ x ∈ ps, x.frame.kind = some .command) (unheard : a.inbound = .fresh)
    (idle : a.receiving = none) (running : a.running = true) (ready : FrameLink.Ready a.link)
    {moves : List Intake.Move} {d : Intake (Agent L)}
    (run : (Intake.ofEndpoint a).perform ps.octets moves = some d)
    (rest : ∀ move, d.act ps.octets move = none) : a.Dispatched ps d := by
  obtain ⟨free, all, empty⟩ := Intake.rests rest
  have T := Agent.Took.run (fun f hf => by
    obtain ⟨x, hx, rfl⟩ := mem_arrivals hf
    exact kinds x hx) running ready unheard idle run
  rw [octets, List.length_map] at all
  rw [List.take_of_length_le all] at T
  obtain ⟨inbound, reception⟩ := reception numbered short
  have hr : d.endpoint.receiving = none := Option.map_eq_none_iff.mp free
  have ear := T.ear
  rw [reception, Ear.pass_of_none (by simp [Agent.ear, Ear.of, hr])] at ear
  have gaps : d.endpoint.stats.gaps = a.stats.gaps + ps.bursts := congrArg Ear.gaps ear
  refine ⟨congrArg Ear.received ear, congrArg Ear.repeats ear, gaps, fun stream ho => ?_, ?_⟩
  · have reached := T.commands stream ho
    rw [reception, Intake.reached, free, empty stream] at reached
    simpa [Intake.on] using reached
  · obtain ⟨told, ⟨posts, speech, rfl⟩, counted, refused⟩ := T.told
    refine ⟨posts, speech.link, ?_, fun stream hs => ?_⟩
    · rw [List.countP_map] at counted
      have lost : posts.countP (·.kind = .packetLoss) = ps.bursts :=
        Nat.add_left_cancel (counted.symm.trans gaps)
      exact lost
    · have here := refused stream hs
      rw [reception, free, List.count, List.countP_map] at here
      refine Eq.trans (List.countP_congr fun p _ => ?_) here
      simp

/-- A run of the receive path has no more steps than there are to take. -/
theorem length_le {E : Type} [ReceivePath E] {e : E} {moves : List Intake.Move} {d : Intake E}
    (idle : ReceivePath.pending e = none)
    (run : (Intake.ofEndpoint e).perform ps.octets moves = some d) :
    moves.length ≤ 3 * ps.arrivals.length +
      (ReceivePath.slots e).total (·.item.toList.length) := by
  have bound := Intake.length_le_of_perform run
  simpa [Intake.effort, Intake.ofEndpoint, idle, octets] using bound

/-- A sender numbers its frames consecutively; the link loses no more than fourteen of them in a
row, and delivers each of the others once or several times back to back. A controller takes in
frames of any kind but start notifications, an agent commands; neither has heard anything before,
and the agent runs on a link that takes its notices. However the steps of the receive path and those
of whoever empties the slots come about, they come to an end, and then each frame that got through
has been acted upon once, in order, the copies beyond the first are counted as repeats, and each
burst of lost frames between two that got through is counted as a gap, and told of once by the
agent. -/
theorem dispatched_once {L M : Type} [FrameLink L] [FrameLink M] (ps : Passage) (first : Nat)
    (numbered : ps.NumberedFrom first) (short : ps.LosesAtMost 14) :
    (∀ (c : Controller L) (moves : List Intake.Move) (d : Intake (Controller L)),
      (∀ x ∈ ps, x.frame.kind ≠ some .agentStart) → c.inbound = .fresh → c.receiving = none →
      (Intake.ofEndpoint c).perform ps.octets moves = some d →
        moves.length ≤ 3 * ps.arrivals.length + c.slots.total (·.item.toList.length) ∧
        ((∀ move, d.act ps.octets move = none) → c.Dispatched ps d)) ∧
    (∀ (a : Agent M) (moves : List Intake.Move) (d : Intake (Agent M)),
      (∀ x ∈ ps, x.frame.kind = some .command) → a.inbound = .fresh → a.receiving = none →
      a.running = true → FrameLink.Ready a.link →
      (Intake.ofEndpoint a).perform ps.octets moves = some d →
        moves.length ≤ 3 * ps.arrivals.length + a.slots.total (·.item.toList.length) ∧
        ((∀ move, d.act ps.octets move = none) → a.Dispatched ps d)) := by
  constructor
  · intro c moves d kinds unheard idle run
    have free : ReceivePath.pending c = none := Option.map_eq_none_iff.mpr idle
    exact ⟨length_le free run, controller_dispatched numbered short kinds unheard idle run⟩
  · intro a moves d kinds unheard idle running ready run
    have free : ReceivePath.pending a = none := Option.map_eq_none_iff.mpr idle
    exact ⟨length_le free run,
      agent_dispatched numbered short kinds unheard idle running ready run⟩

/-! ## A passage across the wrap of the numbers -/

/-- A frame of a known kind, as it travels. -/
def ofPost (p : Post) : SoundFrame :=
  ⟨p.octets, p.header, p.stream, p.payload, Incoming.ofOctets_octets p⟩

/-- Frames 15 to 2 on the control stream: the first arrives twice, the next two are lost, and the
last arrives once. -/
def acrossWrap (kind : FrameKind) : Passage :=
  [⟨ofPost ⟨kind, ⟨15, by decide⟩, StreamId.control, [1], by decide⟩, 2⟩,
    ⟨ofPost ⟨kind, .first, StreamId.control, [2], by decide⟩, 0⟩,
    ⟨ofPost ⟨kind, SeqNum.first.next, StreamId.control, [3], by decide⟩, 0⟩,
    ⟨ofPost ⟨kind, SeqNum.first.next.next, StreamId.control, [4], by decide⟩, 1⟩]

theorem acrossWrap_numbered (kind : FrameKind) : (acrossWrap kind).NumberedFrom 15 := by
  simp only [acrossWrap, numberedFrom_cons]
  exact ⟨rfl, rfl, rfl, rfl, numberedFrom_nil _⟩

/-- Everything is heard, passed on and taken, and one frame is a repeat. -/
def thorough : List Intake.Move :=
  [.hear, .pass, .hear, .hear, .drain StreamId.control, .pass, .drain StreamId.control]

/-- Nothing is left to be done. -/
def atRest {E : Type} [ReceivePath E] (arrivals : List Octets) (d : Intake E) : Bool :=
  (d.act arrivals .hear).isNone && (d.act arrivals .pass).isNone &&
    StreamId.all.all fun stream => (d.act arrivals (.drain stream)).isNone

theorem atRest_iff {E : Type} [ReceivePath E] {arrivals : List Octets} {d : Intake E} :
    atRest arrivals d = true ↔ ∀ move, d.act arrivals move = none := by
  simp only [atRest, Bool.and_eq_true, List.all_eq_true, Option.isNone_iff_eq_none]
  constructor
  · rintro ⟨⟨hear, pass⟩, drain⟩ move
    cases move with
    | hear => exact hear
    | pass => exact pass
    | drain stream => exact drain stream (StreamId.mem_all stream)
  · intro h
    exact ⟨⟨h .hear, h .pass⟩, fun stream _ => h (.drain stream)⟩

theorem dispatched_once_across_wrap :
    ∃ (dc : Intake (Controller ScriptedLink)) (da : Intake (Agent ScriptedLink)),
      (Intake.ofEndpoint (Controller.start ⟨[], []⟩ ⟨none, .ofMillis 20⟩ 0)).perform
        (acrossWrap .response).octets thorough = some dc ∧
      (Intake.ofEndpoint (Agent.start ⟨[], []⟩ ⟨"1.0", false⟩).2).perform
        (acrossWrap .command).octets thorough = some da ∧
      dc.endpoint.stats.repeats = 1 ∧ dc.endpoint.stats.gaps = 1 ∧
      Intake.on StreamId.control dc.drained = [[1], [4]] ∧
      da.endpoint.stats.repeats = 1 ∧ da.endpoint.stats.gaps = 1 ∧
      Intake.on StreamId.control da.drained = [[1], [4]] := by
  obtain ⟨dc, hc, restc⟩ : ∃ dc : Intake (Controller ScriptedLink),
      (Intake.ofEndpoint (Controller.start ⟨[], []⟩ ⟨none, .ofMillis 20⟩ 0)).perform
        (acrossWrap .response).octets thorough = some dc ∧
      atRest (acrossWrap .response).octets dc = true := ⟨_, rfl, rfl⟩
  obtain ⟨da, ha, resta⟩ : ∃ da : Intake (Agent ScriptedLink),
      (Intake.ofEndpoint (Agent.start ⟨[], []⟩ ⟨"1.0", false⟩).2).perform
        (acrossWrap .command).octets thorough = some da ∧
      atRest (acrossWrap .command).octets da = true := ⟨_, rfl, rfl⟩
  have kinds : ∀ kind, ∀ x ∈ acrossWrap kind, x.frame.kind = some kind := by
    intro kind x hx
    simp only [acrossWrap, List.mem_cons, List.not_mem_nil, or_false] at hx
    rcases hx with rfl | rfl | rfl | rfl <;> exact FrameKind.ofCode?_code kind
  have once := fun kind => dispatched_once (L := ScriptedLink) (M := ScriptedLink) (acrossWrap kind)
    15 (acrossWrap_numbered kind) (.of_length (by simp [acrossWrap]))
  have C := ((once .response).1 _ thorough dc (fun x hx => by rw [kinds .response x hx]; decide) rfl
    rfl hc).2 (atRest_iff.mp restc)
  have A := ((once .command).2 _ thorough da (kinds .command) rfl rfl rfl rfl ha).2
    (atRest_iff.mp resta)
  exact ⟨dc, da, hc, ha, C.repeats, C.gaps, C.responses StreamId.control rfl, A.repeats, A.gaps,
    A.commands StreamId.control ⟨rfl, rfl⟩⟩

end Passage
end CommandLink
