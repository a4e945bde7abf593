import CommandLink.Proofs.Agent.Emissions
import CommandLink.Proofs.Controller.Events
import CommandLink.Proofs.Dialogue.Agreement

/-! # Events reach their handlers

As long as both handlers are registered and the agent announces its restarts, the handlers are told
what the agent's events say, once each and in order, whatever else the two ends do
(`Dialogue.events_delivered`). An event that says nothing, and an event that is too long to be sent,
runs no handler. -/

namespace CommandLink

/-- What the event in octets says. -/
def reportIn (octets : Octets) : Option Callback :=
  (payloadIn .event StreamId.control octets).bind fun payload =>
    (Event.ofPayload? payload).bind Event.report?

theorem reportIn_of_kind {p : Post} (h : p.kind ≠ .event) : reportIn p.octets = none := by
  simp [reportIn, Post.payloadOn, h]

/-- What an event says is found in its frame. -/
theorem reportIn_event (e : Event) (seq : SeqNum)
    (fits : (e.header.encode ++ e.args).length ≤ Frame.maxPayload) :
    reportIn (Post.octets ⟨.event, seq, StreamId.control, e.header.encode ++ e.args, fits⟩) =
      e.report? := by
  have read : Event.ofPayload? (e.header.encode ++ e.args) = some e :=
    Event.ofPayload?_eq_some_iff.mpr ⟨0, 0, rfl⟩
  simp only [reportIn, payloadIn_octets, Post.payloadOn, and_self, if_true, Option.bind_some, read]

/-- A frame says something if it is an event on the control stream that does. -/
theorem reportIn_octets_iff {p : Post} {callback : Callback} :
    reportIn p.octets = some callback ↔ (p.kind = .event ∧ p.stream = StreamId.control) ∧
      ∃ e, Event.ofPayload? p.payload = some e ∧ e.Reports callback := by
  simp only [reportIn, payloadIn_octets, Post.payloadOn, Option.bind_eq_some_iff,
    Event.report?_eq_some_iff]
  constructor
  · rintro ⟨payload, found, e, rest⟩
    obtain ⟨here, same⟩ := Option.ite_none_right_eq_some.mp found
    cases same
    exact ⟨here, e, rest⟩
  · rintro ⟨here, e, rest⟩
    exact ⟨p.payload, if_pos here, e, rest⟩

namespace Controller

variable {L : Type}

/-- A controller where both event handlers are registered. -/
def attentive (c : Controller L) : Controller L :=
  { c with onBeacon := true, onStandbyExit := true }

/-- A controller with both handlers is told what the event says, unless it is a repeat. -/
theorem calls_iff {c : Controller L} (beacon : c.onBeacon = true)
    (standbyExit : c.onStandbyExit = true) {p : Post} (fresh : c.inbound.isRepeat p.seq = false)
    (callback : Callback) : c.Calls p.octets callback ↔ reportIn p.octets = some callback := by
  have minds : ∀ e : Event, e.Reports callback → c.minds callback = true := by
    rintro e ⟨⟩
    · exact beacon
    · exact standbyExit
  rw [reportIn_octets_iff]
  constructor
  · rintro ⟨header, e, x, y, sound, kind, -, reports, -⟩
    rw [Incoming.ofOctets_octets] at sound
    obtain ⟨rfl, stream, payload⟩ := Incoming.frame.inj sound
    rw [Post.ofCode?_header] at kind
    exact ⟨⟨Option.some.inj kind, stream⟩, e, Event.ofPayload?_eq_some_iff.mpr ⟨x, y, payload⟩,
      reports⟩
  · rintro ⟨⟨kind, stream⟩, e, found, reports⟩
    obtain ⟨x, y, payload⟩ := Event.ofPayload?_eq_some_iff.mp found
    refine ⟨p.header, e, x, y, ?_, ?_, fresh, reports, minds e reports⟩
    · rw [Incoming.ofOctets_octets, stream, payload]
    · rw [Post.ofCode?_header, kind]

end Controller

namespace Agent

variable {L : Type} [FrameLink L]

/-- An event is sent unless it is too long. -/
theorem sendEvent_iff {a : Agent L} (running : a.running = true) (ready : FrameLink.Ready a.link)
    (e : Event) :
    (a.sendEvent e.header e.args).1 = .ok () ↔ e.args.length ≤ payloadLimit := by
  have fits : (e.header.encode ++ e.args).length ≤ Frame.maxPayload ↔
      e.args.length ≤ payloadLimit := by
    simp only [List.length_append, EventHeader.length_encode, payloadHeaderSize, Frame.maxPayload,
      Frame.maxSize, Header.size, payloadLimit]
    omega
  rw [← fits]
  constructor
  · intro ok
    rcases a.sendPayload_cases .event StreamId.control (e.header.encode ++ e.args) with
      ⟨error, link, failed, -⟩ | ⟨short, -⟩
    · rw [sendEvent, failed] at ok
      cases ok
    · exact short
  · exact (sendPayload_of_ready ready _ _ _).2 running

/-- What an agent says of an event that it is asked to send. -/
theorem taken_sendEvent {a : Agent L} (running : a.running = true)
    (ready : FrameLink.Ready a.link) (e : Event) :
    ∃ frames, FrameLink.taken (a.sendEvent e.header e.args).2.link =
        FrameLink.taken a.link ++ frames ∧
      frames.filterMap reportIn =
        if e.args.length ≤ payloadLimit then e.report?.toList else [] := by
  have sent := sendEvent_iff running ready e
  rcases a.sendPayload_cases .event StreamId.control (e.header.encode ++ e.args) with
    ⟨error, link, failed, same⟩ | ⟨short, link, done, taken⟩
  · rw [sendEvent, failed] at sent ⊢
    refine ⟨[], by simpa using same, ?_⟩
    rw [if_neg fun fits => nomatch sent.mpr fits]
    rfl
  · rw [sendEvent, done] at sent ⊢
    refine ⟨_, taken, ?_⟩
    rw [if_pos (sent.mp rfl), filterMap_cons_toList, reportIn_event, List.filterMap_nil,
      List.append_nil]

/-- What is not an event is not told to an event handler. -/
theorem Speech.taken_of_ne_event {a b : Agent L} {posts : List Post}
    (speech : Speech (· ≠ .event) a b posts) :
    ∃ frames, FrameLink.taken b.link = FrameLink.taken a.link ++ frames ∧
      frames.filterMap reportIn = [] := by
  refine ⟨_, speech.link, ?_⟩
  rw [List.filterMap_eq_nil_iff]
  intro octets mem
  obtain ⟨p, hp, rfl⟩ := List.mem_map.mp mem
  exact reportIn_of_kind (speech.kinds p hp)

theorem sendPayload_speech (a : Agent L) {kind : FrameKind} (hk : kind ≠ .event)
    (stream : StreamId) (payload : Octets) :
    ∃ posts, Speech (· ≠ .event) a (a.sendPayload kind stream.toOctet payload).2 posts := by
  obtain ⟨posts, smooth⟩ := a.sendPayload_posts kind stream payload
  exact ⟨posts, smooth.toSpeech.mono fun _ e => e ▸ hk⟩

theorem start_speech (link : L) (config : AgentConfig) :
    ∃ posts, Speech (· ≠ .event) (fresh link config) (start link config).2 posts := by
  unfold start
  simp only
  split
  · exact (fresh link config).sendPayload_speech (by decide) StreamId.control []
  · exact ⟨[], Smooth.toSpeech <| .refl rfl rfl rfl⟩

theorem ne_event_of_reply {heard kind : FrameKind} {lost : Prop} (h : Reply heard lost kind) :
    kind ≠ .event := by
  rintro rfl
  cases h

/-- An agent sends no event of its own accord. -/
theorem Host.speech_act {h h' : Host L} {ds : List Post} {action : Action} (mild : h.Mild)
    (ha : h.act (ds.map Post.octets) action = some h')
    (other : ∀ header args, action ≠ .event header args) :
    ∃ posts, Speech (· ≠ .event) h.endpoint h'.endpoint posts := by
  cases action with
  | event header args => exact absurd rfl (other header args)
  | announce =>
    cases ha
    exact h.endpoint.sendPayload_speech (by decide) StreamId.control []
  | advance i =>
    obtain ⟨serving, slots, workers, eq⟩ : ∃ serving slots workers, h'.endpoint =
        { h.endpoint with serving := serving, slots := slots, workers := workers } := by
      simp only [act, advance] at ha
      split at ha
      · cases ha
      · next t ht =>
        split at ha
        · cases ha
        · obtain ⟨u, -, rfl⟩ := Option.map_eq_some_iff.mp ha
          exact ((mild t (List.mem_of_getElem? ht)).step h.endpoint t.caller).1
    exact ⟨[], Smooth.toSpeech <| .refl (by rw [eq]) (by rw [eq]) (by rw [eq])⟩
  | hear =>
    obtain ⟨p, -, -, rfl⟩ := act_hear_post ha
    obtain ⟨posts, speech, -⟩ := h.endpoint.receive_speech p
    exact ⟨posts, speech.mono fun _ => ne_event_of_reply⟩
  | pass =>
    obtain ⟨a, delivered, rfl⟩ := Option.map_eq_some_iff.mp ha
    obtain ⟨command, -, -, posts, smooth⟩ := deliver_cases delivered
    exact ⟨posts, smooth.toSpeech.mono fun _ => ne_event_of_reply⟩
  | takeUp i =>
    obtain ⟨w, a, -, -, taken, rfl⟩ := act_takeUp ha
    obtain ⟨slots, workers, log, eq⟩ := takeUp_eq taken
    exact ⟨[], Smooth.toSpeech <| .refl (by rw [eq]) (by rw [eq]) (by rw [eq])⟩
  | handle i result =>
    obtain ⟨id, stream, invocation, -, rfl⟩ := act_handle ha
    exact ⟨[], Smooth.toSpeech <| .refl rfl rfl rfl⟩
  | answer i =>
    obtain ⟨id, stream, payload, -, rfl⟩ := act_answer ha
    have notEvent : FrameKind.response ≠ .event := by decide
    obtain ⟨posts, speech⟩ := h.endpoint.sendPayload_speech notEvent stream payload
    exact ⟨posts, speech.link, speech.sent, speech.kinds, speech.ready⟩
  | _ =>
    cases ha
    exact ⟨[], Smooth.toSpeech <| .refl rfl rfl rfl⟩

end Agent

namespace Dialogue

variable {L M : Type} [FrameLink L] [FrameLink M]

/-- The rule by which both event handlers stay registered, and the agent announces it when it starts
over. One that starts over in silence begins its numbers anew, and what it sends then can look like
a repeat. -/
def attended (d : Dialogue L M) : Action → Bool
  | .controller (.watch beacon standbyExit) => beacon && standbyExit
  | .agent .hear =>
    d.agent.endpoint.config.announce ||
      d.down[d.agent.heard]?.all fun octets => kindIn octets != some .agentReset
  | _ => true

/-- The event that a step sends. An event that is too long is not sent. -/
def Action.event? : Action → Option Event
  | .agent (.event header args) =>
    if args.length ≤ payloadLimit then some ⟨header, args⟩ else none
  | _ => none

/-- The agent's numbers follow on from each other, both handlers are registered and have been told
what the frames heard so far say, and the frames said so far say what the events say. -/
structure Reported (d : Dialogue L M) (events : List Event) : Prop where
  inStep : ∃ ds us, Heeds d ds us ∧ Discipline.controller.InStep us d.agent.endpoint.outbound
  running : d.agent.endpoint.running = true
  ready : FrameLink.Ready d.agent.endpoint.link
  beacon : d.controller.endpoint.onBeacon = true
  standbyExit : d.controller.endpoint.onStandbyExit = true
  told : d.controller.endpoint.reports = (d.up.take d.controller.heard).filterMap reportIn
  said : d.up.filterMap reportIn = events.filterMap Event.report?

variable {d d' : Dialogue L M} {events : List Event}

/-! ## Steps of the controller -/

theorem Reported.hear (R : Reported d events) {c : Controller.Host L}
    (hc : d.controller.act d.up .hear = some c) :
    c.endpoint.audience = { d.controller.endpoint.audience with
      told := (d.up.take c.heard).filterMap reportIn } := by
  obtain ⟨ds, us, H, up⟩ := R.inStep
  rw [H.up] at hc
  obtain ⟨p, next, free, rfl⟩ := Controller.Host.act_hear_post hc
  have verdict : Discipline.controller.verdict d.controller.endpoint.inbound p = .next := by
    rw [H.controller_inbound free]
    exact verdict_next_of_smooth up.smooth next
  have here : d.up[d.controller.heard]? = some p.octets := by
    rw [H.up, List.getElem?_map, next]
    rfl
  rw [take_succ_of_getElem? here, List.filterMap_append, ← R.told, filterMap_cons_toList,
    List.filterMap_nil, List.append_nil]
  by_cases event : p.kind = .event
  · have fresh : d.controller.endpoint.inbound.isRepeat p.seq = false := by
      have heard : Discipline.controller.verdict d.controller.endpoint.inbound p ≠ .again := by
        rw [verdict]
        exact Verdict.noConfusion
      rw [ne_eq, Discipline.verdict_eq_again_iff] at heard
      simpa [Discipline.controller, event] using heard
    have isEvent : kindIn p.octets = some .event := by rw [kindIn_octets, event]
    obtain ⟨told, calls, eq⟩ := d.controller.endpoint.audience_event isEvent
    have same : told = reportIn p.octets := by
      ext callback
      exact (calls callback).trans (Controller.calls_iff R.beacon R.standbyExit fresh callback)
    rw [eq, same]
  · rw [Controller.audience_receive]
    · simp [reportIn_of_kind event, Controller.reports]
    · rintro octets ⟨⟩
      simpa using event

theorem Reported.controller (R : Reported d events) {action : Controller.Action}
    {c : Controller.Host L} (hc : d.controller.act d.up action = some c)
    (ok : d.attended (.controller action) = true) : Reported { d with controller := c } events := by
  obtain ⟨ds, us, H, up⟩ := R.inStep
  have inStep : ∃ ds us, Heeds { d with controller := c } ds us ∧
      Discipline.controller.InStep us d.agent.endpoint.outbound := by
    cases H.controller hc with
    | spoke _ posts _ _ _ _ heeds => exact ⟨_, _, heeds, up⟩
    | heard _ _ _ _ heeds => exact ⟨_, _, heeds, up⟩
    | passed _ _ _ heeds => exact ⟨_, _, heeds, up⟩
  have reached : c.endpoint.audience =
      ⟨(d.up.take c.heard).filterMap reportIn, true, true⟩ := by
    have before : d.controller.endpoint.audience =
        ⟨(d.up.take d.controller.heard).filterMap reportIn, true, true⟩ := by
      rw [← R.told]
      exact congrArg₂ (Controller.Audience.mk d.controller.endpoint.reports) R.beacon R.standbyExit
    by_cases hears : action = .hear
    · subst hears
      rw [R.hear hc, before]
    · by_cases watches : ∃ beacon standbyExit, action = .watch beacon standbyExit
      · obtain ⟨beacon, standbyExit, rfl⟩ := watches
        obtain ⟨rfl, rfl⟩ := Bool.and_eq_true_iff.mp ok
        cases hc
        exact congrArg (Controller.Audience.mk · true true) R.told
      · obtain ⟨same, heard⟩ := Controller.Host.audience_act hc hears
          fun b s e => watches ⟨b, s, e⟩
        rw [same, heard, before]
  exact ⟨inStep, R.running, R.ready, congrArg Controller.Audience.beacon reached,
    congrArg Controller.Audience.standbyExit reached, congrArg Controller.Audience.told reached,
    R.said⟩

/-! ## Steps of the agent -/

/-- The agent's numbers go on, or begin anew with an announcement. -/
theorem Heeds.inStep_agent {ds us : List Post} (H : Heeds d ds us)
    (up : Discipline.controller.InStep us d.agent.endpoint.outbound)
    (running : d.agent.endpoint.running = true) (ready : FrameLink.Ready d.agent.endpoint.link)
    {action : Agent.Action} {a : Agent.Host M} (ha : d.agent.act d.down action = some a)
    (ok : d.attended (.agent action) = true) :
    ∃ us', Heeds { d with agent := a } ds us' ∧
      Discipline.controller.InStep us' a.endpoint.outbound := by
  cases H.agent ha with
  | spoke posts smooth kept heard heeds => exact ⟨_, heeds, smooth.inStep up⟩
  | passed endpoint posts delivered smooth eq heeds =>
    subst eq
    exact ⟨_, heeds, smooth.inStep up⟩
  | heard p posts next free speech smooth eq heeds =>
    refine ⟨_, heeds, (smooth fun reset => ⟨?_, running, ready⟩).inStep up⟩
    by_cases hears : action = .hear
    · subst hears
      have here : d.down[d.agent.heard]? = some p.octets := by
        rw [H.down, List.getElem?_map, next]
        rfl
      simpa [attended, here, reset] using ok
    · have heard := (Agent.Host.says_act H.mild ha hears).2
      rw [eq] at heard
      simp at heard

theorem Reported.agent (R : Reported d events) {action : Agent.Action} {a : Agent.Host M}
    (ha : d.agent.act d.down action = some a) (ok : d.attended (.agent action) = true) :
    Reported { d with agent := a } (events ++ (Action.agent action).event?.toList) := by
  obtain ⟨ds, us, H, up⟩ := R.inStep
  obtain ⟨us', H', up'⟩ := H.inStep_agent up R.running R.ready ha ok
  obtain ⟨-, running, ready⟩ := (H.agent ha).keeps
  obtain ⟨frames, taken, spelt⟩ : ∃ frames,
      FrameLink.taken a.endpoint.link = FrameLink.taken d.agent.endpoint.link ++ frames ∧
      frames.filterMap reportIn =
        ((Action.agent action : Action).event?.toList).filterMap Event.report? := by
    by_cases event : ∃ header args, action = .event header args
    · obtain ⟨header, args, rfl⟩ := event
      cases ha
      obtain ⟨frames, taken, spelt⟩ :=
        Agent.taken_sendEvent R.running R.ready (⟨header, args⟩ : Event)
      refine ⟨frames, taken, spelt.trans ?_⟩
      rw [filterMap_toList, Action.event?]
      split <;> rfl
    · have ha' := ha
      rw [H.down] at ha'
      obtain ⟨posts, speech⟩ := Agent.Host.speech_act H.mild ha'
        fun header args e => event ⟨header, args, e⟩
      obtain ⟨frames, taken, spelt⟩ := speech.taken_of_ne_event
      refine ⟨frames, taken, spelt.trans ?_⟩
      cases action with
      | event header args => exact absurd ⟨header, args, rfl⟩ event
      | _ => rfl
  have above : d.controller.heard ≤ d.up.length := by
    rw [H.up, List.length_map]
    exact H.heardUp_le
  have up_eq : ({ d with agent := a } : Dialogue L M).up = d.up ++ frames := taken
  refine ⟨⟨ds, us', H', up'⟩, running.trans R.running, ready R.ready, R.beacon, R.standbyExit, ?_,
    ?_⟩
  · rw [up_eq, List.take_append_of_le_length above]
    exact R.told
  · rw [up_eq, List.filterMap_append, List.filterMap_append, R.said, spelt]

/-! ## Runs -/

theorem Run.reported {actions : List Action} (run : Run attended d actions d')
    (R : Reported d events) : Reported d' (events ++ actions.filterMap Action.event?) := by
  induction run generalizing events with
  | nil => rwa [List.filterMap_nil, List.append_nil]
  | @cons d e d' action actions ok step rest ih =>
    have onward : Reported e (events ++ action.event?.toList) := by
      cases action with
      | controller action =>
        obtain ⟨c, hc, rfl⟩ := Option.map_eq_some_iff.mp step
        have onward := R.controller hc ok
        rwa [← List.append_nil events] at onward
      | agent action =>
        obtain ⟨a, ha, rfl⟩ := Option.map_eq_some_iff.mp step
        exact R.agent ha ok
    have all := ih onward
    rwa [List.append_assoc, ← filterMap_cons_toList] at all

/-- As long as no response is on the way, the controller can hear what is. -/
theorem Reported.drains (R : Reported d events) (free : d.controller.endpoint.receiving = none)
    (unanswered : ∀ octets ∈ d.toController, kindIn octets ≠ some .response) :
    ∃ d', Run attended d (List.replicate d.toController.length (.controller .hear)) d' ∧
      d'.toController = [] := by
  -- on the frames that are on the way, of which hearing one leaves the others
  induction h : d.toController generalizing d with
  | nil => exact ⟨d, .nil d, h⟩
  | cons octets rest ih =>
    obtain ⟨ds, us, H, up⟩ := R.inStep
    have here : d.up[d.controller.heard]? = some octets := by
      rw [← List.head?_drop, ← toController, h, List.head?_cons]
    obtain ⟨p, -, rfl⟩ := getElem?_map_octets (H.up ▸ here)
    have notResponse : p.kind ≠ .response := by
      simpa using unanswered p.octets (by rw [h]; exact List.mem_cons_self)
    let c : Controller.Host L := { d.controller with
      endpoint := d.controller.endpoint.receive (some p.octets)
      heard := d.controller.heard + 1 }
    have hears : d.controller.act d.up .hear = some c := by
      simp [Controller.Host.act, free, here, c]
    have stillFree : c.endpoint.receiving = none := by
      obtain ⟨handshake, slot, log, eq⟩ := Controller.receive_octets free H.onStart p
      simp [c, eq, Controller.holds, notResponse]
    have left : ({ d with controller := c } : Dialogue L M).toController = rest := by
      have tail := congrArg List.tail h
      rwa [toController, List.tail_drop] at tail
    obtain ⟨d', run, drained⟩ := ih (R.controller hears rfl) stillFree
      (fun octets mem => unanswered octets (by
        rw [h]
        exact List.mem_cons_of_mem _ (left ▸ mem))) left
    refine ⟨d', ?_, drained⟩
    rw [List.length_cons, List.replicate_succ]
    exact .cons rfl (by rw [act, hears]; rfl) run

theorem reported_start {link : L} {agentLink : M} (hl : FrameLink.taken link = [])
    (hm : FrameLink.taken agentLink = []) (ready : FrameLink.Ready agentLink)
    (config : ControllerConfig) (seed : UInt32) (agentConfig : AgentConfig) :
    Reported (ofEnds (Controller.start link config seed).attentive
      (Agent.start agentLink agentConfig).2) [] := by
  obtain ⟨us, H, T⟩ := inTune_start hl hm config seed agentConfig
  obtain ⟨⟨posts, smooth⟩, kept⟩ := start_smooth agentLink agentConfig
  obtain ⟨posts, speech⟩ := Agent.start_speech agentLink agentConfig
  obtain ⟨frames, taken, spelt⟩ := speech.taken_of_ne_event
  have said : FrameLink.taken (Agent.start agentLink agentConfig).2.link = frames := by
    rw [taken, Agent.fresh, hm, List.nil_append]
  refine ⟨⟨[], us, ⟨H.down, H.up, H.sentDown, H.sentUp, H.heardDown, H.heardUp, H.heardDown_le,
    H.heardUp_le, H.onStart, H.mild⟩, T.up⟩, kept.running, smooth.ready ready, rfl, rfl, rfl, ?_⟩
  rw [up, ofEnds, Agent.Host.ofAgent, said, spelt]
  rfl

/-! ## The theorem -/

/-- What becomes of the events that the agent has sent. -/
structure Delivered (d : Dialogue L M) (events : List Event) : Prop where
  /-- What the handlers have been told, and then what they are yet to be told, is what the events
  say, each once and in their order. -/
  told : d.controller.endpoint.reports ++ d.toController.filterMap reportIn =
    events.filterMap Event.report?
  repeats : d.controller.endpoint.stats.repeats = 0
  gaps : d.controller.endpoint.stats.gaps = 0
  /-- As long as no response is in between, all that is on its way can be told. -/
  arrives : d.controller.endpoint.receiving = none →
    (∀ octets ∈ d.toController, kindIn octets ≠ some .response) →
    ∃ d', Run attended d (List.replicate d.toController.length (.controller .hear)) d' ∧
      d'.toController = [] ∧ d'.controller.endpoint.reports = events.filterMap Event.report?

theorem Reported.delivered (R : Reported d events) : Delivered d events := by
  have told : ∀ {d : Dialogue L M}, Reported d events →
      d.controller.endpoint.reports ++ d.toController.filterMap reportIn =
        events.filterMap Event.report? := by
    intro d R
    rw [R.told, toController, ← List.filterMap_append, List.take_append_drop, R.said]
  obtain ⟨ds, us, H, up⟩ := R.inStep
  have unblemished : Unblemished d.controller.endpoint.stats :=
    unblemished_of_smooth H.heardUp up.smooth ⟨rfl, rfl, rfl⟩
  refine ⟨told R, unblemished.repeats, unblemished.gaps, fun free unanswered => ?_⟩
  obtain ⟨d', run, drained⟩ := R.drains free unanswered
  have silent : (List.replicate d.toController.length
      (Action.controller .hear)).filterMap Action.event? = [] := by
    rw [List.filterMap_eq_nil_iff]
    intro action mem
    rw [List.eq_of_mem_replicate mem]
    rfl
  have R' := run.reported R
  rw [silent, List.append_nil] at R'
  have all := told R'
  rw [drained, List.filterMap_nil, List.append_nil] at all
  exact ⟨d', run, drained, all⟩

/-- A controller whose event handlers are registered, and an agent whose link takes every frame,
from their start. The handlers are told what the agent's events say, each once, in their order and
as it was encoded, whatever requests, resets and syncs there are in between. An event is sent
unless its arguments are too long, as those of a beacon or an exit from standby never are. What
arrives as an event, anywhere and from anyone, runs a handler only as `Controller.Calls` has it,
and changes nothing else but the counts and the number that was seen last; and nothing else runs
an event handler. -/
theorem events_delivered (config : ControllerConfig) (seed : UInt32) (agentConfig : AgentConfig)
    (link : L) (agentLink : M) (hl : FrameLink.taken link = [])
    (hm : FrameLink.taken agentLink = []) (ready : FrameLink.Ready agentLink) (d : Dialogue L M)
    (actions : List Action)
    (run : Run attended (ofEnds (Controller.start link config seed).attentive
      (Agent.start agentLink agentConfig).2) actions d) :
    Delivered d (actions.filterMap Action.event?) ∧
      (∀ e : Event, (d.agent.endpoint.sendEvent e.header e.args).1 = .ok () ↔
        e.args.length ≤ payloadLimit) ∧
      (∀ b : Beacon, b.encode.length ≤ payloadLimit) ∧
      (∀ reason : StandbyExitReason, reason.encode.length ≤ payloadLimit) ∧
      (∀ (e : Event) callback, e.report? = some callback ↔ e.Reports callback) ∧
      (∀ (c : Controller L) octets, kindIn octets = some .event →
        ∃ (told : Option Callback) (seq : SeqNum),
          c.receive (some octets) = { c with
            log := c.log ++ told.toList
            inbound := c.inbound.record seq
            stats :=
              if c.inbound.isRepeat seq then c.stats.countReceived.countRepeat
              else if c.inbound.isGap seq then c.stats.countReceived.countGap
              else c.stats.countReceived } ∧
          ∀ callback, told = some callback ↔ c.Calls octets callback) ∧
      ∀ (c : Controller L) buffer,
        (∀ octets, buffer = some octets → kindIn octets ≠ some .event) →
        (c.receive buffer).reports = c.reports := by
  have R := run.reported (reported_start hl hm ready config seed agentConfig)
  rw [List.nil_append] at R
  refine ⟨R.delivered, Agent.sendEvent_iff R.running R.ready, fun b => ?_, fun reason => ?_,
    fun e callback => Event.report?_eq_some_iff, fun c octets => c.receive_event,
    fun c buffer other => ?_⟩
  · exact Nat.le_trans b.length_encode_le (by decide)
  · exact Nat.le_trans (Nat.le_of_eq (Octets.length_ofWord32 _)) (by decide)
  · rw [Controller.reports, Controller.audience_receive c other, Controller.reports]

/-- Two beacons and two exits from standby, with events in between that say nothing, and a reset of
the agent. -/
def eventful : List Action :=
  [.agent (.event ⟨1, 1⟩ [3, 0, 7, 8, 9, 0]), .agent (.event ⟨2, 1⟩ [3, 0, 7, 8, 9]),
    .agent (.event ⟨1, 7⟩ []), .agent (.event ⟨1, 2⟩ [1, 0, 0, 0]),
    .agent (.event ⟨1, 2⟩ [6, 0, 0, 0]), .controller .hear, .controller .hear,
    .controller .reset, .agent .hear, .agent (.event ⟨1, 1⟩ [4, 0, 7]),
    .agent (.event ⟨1, 2⟩ [5, 0, 0, 0, 1]), .agent (.event ⟨1, 1⟩ [0, 0])] ++
  List.replicate 7 (.controller .hear)

theorem events_delivered_eventful :
    ∃ d : Dialogue ScriptedLink ScriptedLink,
      (ofEnds (Controller.start ⟨[], []⟩ ⟨none, .ofMillis 20⟩ 0).attentive
        (Agent.start ⟨[], []⟩ ⟨"1.0", true⟩).2).perform attended eventful = some d ∧
      d.controller.endpoint.reports =
        [.beacon [7, 8, 9], .standbyExit .wakeupFrame, .standbyExit .tcpConnectionLost] ∧
      d.toController.length = 1 ∧
      ∃ d', Run attended d [.controller .hear] d' ∧ d'.controller.endpoint.reports =
        [.beacon [7, 8, 9], .standbyExit .wakeupFrame, .standbyExit .tcpConnectionLost,
          .beacon []] := by
  obtain ⟨d, hd, told, one, kinds, free⟩ : ∃ d : Dialogue ScriptedLink ScriptedLink,
      (ofEnds (Controller.start ⟨[], []⟩ ⟨none, .ofMillis 20⟩ 0).attentive
        (Agent.start ⟨[], []⟩ ⟨"1.0", true⟩).2).perform attended eventful = some d ∧
      d.controller.endpoint.reports =
        [.beacon [7, 8, 9], .standbyExit .wakeupFrame, .standbyExit .tcpConnectionLost] ∧
      d.toController.length = 1 ∧ d.toController.map kindIn = [some .event] ∧
      d.controller.endpoint.receiving = none := ⟨_, rfl, rfl, rfl, rfl, rfl⟩
  have unanswered : ∀ octets ∈ d.toController, kindIn octets ≠ some .response := by
    intro octets mem
    have kind := List.mem_map_of_mem (f := kindIn) mem
    rw [kinds, List.mem_singleton] at kind
    rw [kind]
    exact nofun
  obtain ⟨delivered, -⟩ := events_delivered ⟨none, .ofMillis 20⟩ 0 ⟨"1.0", true⟩
    (⟨[], []⟩ : ScriptedLink) (⟨[], []⟩ : ScriptedLink) rfl rfl rfl d eventful (.of_perform hd)
  obtain ⟨d', run, -, all⟩ := delivered.arrives free unanswered
  rw [one] at run
  exact ⟨d, hd, told, one, d', run, all⟩

end Dialogue
end CommandLink
