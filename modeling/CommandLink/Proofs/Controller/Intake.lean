import CommandLink.Proofs.Controller.Host
import CommandLink.Proofs.Endpoint.Intake
import CommandLink.Proofs.Wire.Passage

/-! # A controller that takes in what arrives

The receive path of a controller on its own, while someone empties the slots. After any frames but
start notifications the controller is what it would be, had it acted once upon each frame that it
kept (`Controller.dispatchAll`), and every response that it kept is in its slot, has been taken from
it or is about to get there (`Controller.Took`). -/

namespace CommandLink
namespace Controller

variable {L : Type} [FrameLink L]

/-- Acts upon frames, one after the other. -/
def dispatchAll (c : Controller L) (fs : List SoundFrame) : Controller L :=
  fs.foldl (fun c f => c.dispatch f.kind f.stream f.payload) c

theorem dispatchAll_concat (c : Controller L) (fs : List SoundFrame) (f : SoundFrame) :
    c.dispatchAll (fs ++ [f]) = (c.dispatchAll fs).dispatch f.kind f.stream f.payload := by
  simp [dispatchAll]

/-- Acting upon a frame neither looks at nor changes what the receive path keeps for itself. -/
theorem dispatch_with (c : Controller L) {kind : Option FrameKind} (hk : kind ≠ some .agentStart)
    (stream : StreamId) (payload : Octets) (inbound : Inbound) (stats : LinkStats)
    (receiving : Option PendingResponse) (slots : StreamTable (Slot Octets)) :
    dispatch { c with inbound := inbound, stats := stats, receiving := receiving, slots := slots }
        kind stream payload =
      { c.dispatch kind stream payload with
        inbound := inbound, stats := stats, receiving := receiving, slots := slots } := by
  unfold dispatch
  split
  · simp only [dispatchEvent]
    (repeat' split) <;> rfl
  · exact absurd rfl hk
  · simp only [acceptSync]
    (repeat' split) <;> rfl
  · rfl

theorem agentStarted_keeps (c : Controller L) :
    c.agentStarted.slots = c.slots ∧ c.agentStarted.receiving = c.receiving := by
  unfold agentStarted
  simp only
  split
  · exact ⟨rfl, rfl⟩
  · split
    · exact ⟨rfl, rfl⟩
    · next command _ =>
      obtain ⟨link, outbound, sent, h⟩ := send_eq
        (({ c with handshake := c.handshake.started } : Controller L).record
          (.agentStarted c.handshake.started)) command
      rw [record, h]
      exact ⟨rfl, rfl⟩

/-- Acting upon a frame leaves to the receive path what it keeps for itself. -/
theorem dispatch_keeps (c : Controller L) (kind : Option FrameKind) (stream : StreamId)
    (payload : Octets) : (c.dispatch kind stream payload).slots = c.slots ∧
      (c.dispatch kind stream payload).receiving = c.receiving := by
  unfold dispatch
  split
  · obtain ⟨told, h⟩ := c.dispatchEvent_eq stream payload
    rw [h]
    exact ⟨rfl, rfl⟩
  · exact c.agentStarted_keeps
  · obtain ⟨slot, h⟩ := c.acceptSync_eq payload
    rw [h]
    exact ⟨rfl, rfl⟩
  · exact ⟨rfl, rfl⟩

theorem receive_slots (c : Controller L) (octets : Octets) :
    (c.receive (some octets)).slots = c.slots := by
  simp only [receive]
  split
  · simp only [accept]
    split
    · rfl
    · split
      · rfl
      · exact (dispatch_keeps _ _ _ _).1
  · rfl

/-- What the receive path holds next is a response that it finds in the octets, if it is anything
new. -/
theorem receive_receiving (c : Controller L) (octets : Octets) :
    (c.receive (some octets)).receiving = c.receiving ∨
      ∃ response, (c.receive (some octets)).receiving = some response ∧ ∀ stream,
        payloadIn .response stream octets =
          if response.stream = stream then some response.body else none := by
  simp only [receive]
  split
  · next header stream payload sound =>
    simp only [accept]
    split
    · exact .inl rfl
    · split
      · next hk => exact .inr ⟨_, rfl, fun s => by simp [payloadIn, sound, hk]⟩
      · exact .inl (dispatch_keeps _ _ _ _).2
  · exact .inl rfl

instance : ReceivePath (Controller L) where
  slots c := c.slots
  setSlots c slots' := { c with slots := slots' }
  pending c := c.receiving.map fun r => (r.stream, r.body)
  receive c octets := c.receive (some octets)
  deliver := deliver
  slots_setSlots _ _ := rfl
  pending_setSlots _ _ := rfl
  slots_receive := receive_slots
  deliver_cases {c c'} h := by
    obtain ⟨response, hr, room, rfl⟩ := deliver_cases h
    refine ⟨response.stream, response.body, by rw [hr]; rfl, rfl, ?_⟩
    rcases room with hc | ⟨hc, hi⟩
    · exact .inl ⟨hc, by simp [hc]⟩
    · exact .inr ⟨hc, hi, by simp [hc]⟩
  deliver_of_room {c stream body} hp hi := by
    obtain ⟨response, hr, e⟩ := Option.map_eq_some_iff.mp hp
    cases e
    cases hc : (c.slots.get response.stream).closed with
    | true => exact ⟨_, by simp [deliver, hr, Slot.push, hc]; rfl⟩
    | false => exact ⟨_, by simp [deliver, hr, Slot.push, hc, hi]; rfl⟩

/-! ## What the receive path makes of a frame -/

/-- A frame that is no start notification is counted as a repeat, held, or acted upon. -/
theorem receive_frame (c : Controller L) {f : SoundFrame} (hk : f.kind ≠ some .agentStart) :
    c.receive (some f.octets) =
      if c.inbound.isRepeat f.seq then
        { c with stats := c.stats.countReceived.countRepeat, inbound := c.inbound.record f.seq }
      else if f.kind = some .response then
        { c with
          stats := c.stats.countReceived, receiving := some ⟨f.stream, f.payload, f.seq⟩ }
      else
        { c.dispatch f.kind f.stream f.payload with
          stats := if c.inbound.isGap f.seq then c.stats.countReceived.countGap
            else c.stats.countReceived
          inbound := c.inbound.record f.seq, receiving := c.receiving, slots := c.slots } := by
  have moved := c.dispatch_with hk f.stream f.payload c.inbound c.stats.countReceived c.receiving
    c.slots
  simp only [receive, f.sound, accept]
  by_cases again : c.inbound.isRepeat f.seq = true
  · rw [if_pos again, if_pos ⟨again, hk⟩]
    rfl
  · rw [if_neg again, if_neg fun h => again h.1]
    by_cases hr : f.kind = some .response
    · rw [if_pos hr]
      exact if_pos hr
    · rw [if_neg hr]
      refine (if_neg hr).trans ?_
      have acted : ({ c with stats := c.stats.countReceived } : Controller L).dispatch
          (FrameKind.ofCode? f.header.kind) f.stream f.payload = _ := moved
      have finished : ∀ c' : Controller L, c'.inbound = c.inbound → c'.finish f.kind f.seq =
          { c' with
            stats := if c.inbound.isGap f.seq then c'.stats.countGap else c'.stats
            inbound := c.inbound.record f.seq } := by
        intro c' hi
        simp [finish, hi, hk, Inbound.record]
      rw [acted]
      exact finished _ rfl

/-- After the frames `fs` from `c`, with slots that have been emptied now and then. -/
structure Took (c : Controller L) (fs : List SoundFrame) (d : Intake (Controller L)) : Prop where
  ear : d.endpoint.ear.pass = (Reception.ofFrames fs).ear c.ear fs.length
  acted : ∃ inbound stats receiving slots, stats.sent = c.stats.sent ∧ d.endpoint =
    { c.dispatchAll (Reception.ofFrames fs).kept with
      inbound := inbound, stats := stats, receiving := receiving, slots := slots }
  responses : ∀ stream, (c.slots.get stream).closed = false →
    (d.endpoint.slots.get stream).closed = false ∧
      d.reached stream = (c.slots.get stream).item.toList ++
        (Reception.ofFrames fs).kept.filterMap (SoundFrame.payloadOn .response stream)

variable {c : Controller L} {fs : List SoundFrame} {d d' : Intake (Controller L)}

theorem Took.start (hi : c.inbound = .fresh) (hr : c.receiving = none) :
    Took c [] (.ofEndpoint c) where
  ear := by
    simp [Intake.ofEndpoint, Ear.pass, Controller.ear, Ear.of, hi, hr, Reception.ear,
      Reception.fresh]
  acted := ⟨c.inbound, c.stats, c.receiving, c.slots, rfl, rfl⟩
  responses stream ho := ⟨ho, by
    simp [Intake.ofEndpoint, Intake.reached, Intake.on, ReceivePath.pending, ReceivePath.slots, hr,
      Reception.fresh]⟩

theorem ear_receive_frame {c : Controller L} (hr : c.receiving = none) {f : SoundFrame}
    (hk : f.kind ≠ some .agentStart) :
    (c.receive (some f.octets)).ear.pass = c.ear.absorb f.seq := by
  rw [c.receive_frame hk]
  by_cases again : c.inbound.isRepeat f.seq = true
  · simp [again, Controller.ear, Ear.of, hr, Ear.pass, Ear.absorb, LinkStats.countReceived,
      LinkStats.countRepeat]
  · by_cases held : f.kind = some .response
    · simp [again, held, Controller.ear, Ear.of, hr, Ear.pass, Ear.absorb,
        LinkStats.countReceived]
    · by_cases gap : c.inbound.isGap f.seq = true <;>
        simp [again, held, gap, Controller.ear, Ear.of, hr, Ear.pass, Ear.absorb,
          LinkStats.countReceived, LinkStats.countGap]

/-- The frames kept for the slot of a stream. -/
theorem on_pending_receive {c : Controller L} (hr : c.receiving = none) {f : SoundFrame}
    (hk : f.kind ≠ some .agentStart) (stream : StreamId) :
    Intake.on stream (ReceivePath.pending (c.receive (some f.octets))).toList =
      if c.inbound.isRepeat f.seq then [] else (f.payloadOn .response stream).toList := by
  rw [c.receive_frame hk]
  by_cases again : c.inbound.isRepeat f.seq = true
  · simp [again, ReceivePath.pending, hr, Intake.on]
  · by_cases held : f.kind = some .response
    · by_cases hs : f.stream = stream <;>
        simp [again, held, hs, ReceivePath.pending, Intake.on, SoundFrame.payloadOn]
    · simp [again, held, ReceivePath.pending, hr, Intake.on, SoundFrame.payloadOn]

theorem Took.free (T : Took c fs d) (hr : d.endpoint.receiving = none) :
    d.endpoint.ear = (Reception.ofFrames fs).ear c.ear fs.length := by
  rw [← T.ear, Ear.pass_of_none (by simp [Controller.ear, Ear.of, hr])]

/-- One more frame is taken in. -/
theorem Took.hear (T : Took c fs d) {f : SoundFrame} (hk : f.kind ≠ some .agentStart)
    {arrivals : List Octets} (hf : arrivals[d.heard]? = some f.octets)
    (h : d.act arrivals .hear = some d') : Took c (fs ++ [f]) d' := by
  have stays := Intake.closed_act h
  have reached := Intake.reached_hear h
  obtain ⟨octets, next, free, rfl⟩ := Intake.act_hear h
  rw [hf] at next
  cases next
  have hr : d.endpoint.receiving = none := Option.map_eq_none_iff.mp free
  have ear := T.free hr
  have unheard : d.endpoint.inbound = (Reception.ofFrames fs).inbound := congrArg Ear.inbound ear
  constructor
  · show (d.endpoint.receive (some f.octets)).ear.pass = _
    rw [ear_receive_frame hr hk, ear, Reception.ofFrames_concat, List.length_append,
      List.length_singleton, Reception.ear_hear]
  · obtain ⟨inbound, stats, receiving, slots, sent, e⟩ := T.acted
    show ∃ inbound stats receiving slots, _ ∧ d.endpoint.receive (some f.octets) = _
    rw [d.endpoint.receive_frame hk, Reception.ofFrames_concat, Reception.kept_hear, ← unheard]
    by_cases again : d.endpoint.inbound.isRepeat f.seq = true
    · rw [if_pos again, if_pos again, e]
      refine ⟨_, _, _, _, ?_, rfl⟩
      exact sent
    · rw [if_neg again, if_neg again, dispatchAll_concat]
      by_cases held : f.kind = some .response
      · rw [if_pos held, held, e]
        refine ⟨_, _, _, _, ?_, rfl⟩
        exact sent
      · rw [if_neg held, e, dispatch_with _ hk]
        refine ⟨_, _, _, _, ?_, rfl⟩
        split <;> exact sent
  · intro stream ho
    obtain ⟨hd, before⟩ := T.responses stream ho
    refine ⟨(stays stream).trans hd, ?_⟩
    rw [reached stream, before, Reception.ofFrames_concat, Reception.kept_hear, ← unheard,
      List.append_assoc]
    refine congrArg (_ ++ ·) ((congrArg (_ ++ ·) (on_pending_receive hr hk stream)).trans ?_)
    by_cases again : d.endpoint.inbound.isRepeat f.seq = true
    · rw [if_pos again, if_pos again, List.append_nil]
    · rw [if_neg again, if_neg again, List.filterMap_append]
      cases hf : f.payloadOn .response stream <;> simp [hf]

/-- What is held is passed on, or what is in a slot is taken. -/
theorem Took.move (T : Took c fs d) {arrivals : List Octets} {move : Intake.Move}
    (hm : move ≠ .hear) (h : d.act arrivals move = some d') : Took c fs d' := by
  have responses : ∀ stream, (c.slots.get stream).closed = false →
      (d'.endpoint.slots.get stream).closed = false ∧
        d'.reached stream = (c.slots.get stream).item.toList ++
          (Reception.ofFrames fs).kept.filterMap (SoundFrame.payloadOn .response stream) := by
    intro stream ho
    obtain ⟨hd, before⟩ := T.responses stream ho
    exact ⟨(Intake.closed_act h stream).trans hd, (Intake.reached_act h hm hd).trans before⟩
  obtain ⟨inbound, stats, receiving, slots, sent, e⟩ := T.acted
  cases move with
  | hear => exact absurd rfl hm
  | pass =>
    obtain ⟨c', hc, rfl⟩ := Option.map_eq_some_iff.mp h
    have ear := ear_deliver hc
    obtain ⟨response, -, -, eq⟩ := deliver_cases hc
    refine ⟨?_, ?_, responses⟩
    · show c'.ear.pass = _
      rw [ear, Ear.pass_pass, T.ear]
    · show ∃ inbound stats receiving slots, _ ∧ c' = _
      rw [eq, e]
      refine ⟨_, _, _, _, ?_, rfl⟩
      exact sent
  | drain stream =>
    obtain ⟨body, -, rfl⟩ := Intake.act_drain h
    exact ⟨T.ear, ⟨inbound, stats, receiving, _, sent, by rw [e]; rfl⟩, responses⟩

/-- A run takes in the frames that it hears. -/
theorem Took.run (hk : ∀ f ∈ fs, f.kind ≠ some .agentStart) (hi : c.inbound = .fresh)
    (hr : c.receiving = none) {moves : List Intake.Move}
    (run : (Intake.ofEndpoint c).perform (fs.map SoundFrame.octets) moves = some d) :
    Took c (fs.take d.heard) d :=
  Intake.takes (fun hf T next h => T.hear (hk _ hf) next h) (fun hm T h => T.move hm h)
    (.start hi hr) run

end Controller
end CommandLink
