import CommandLink.Proofs.Dialogue.Basic

/-! # Agreement on sequence numbers

As long as no attempt of the controller to send fails, and the agent's link takes every frame, both
directions stay in step: neither end counts a repeat or a gap, and the agent never reports a loss
(`Dialogue.numbers_agree`). The invariant (`InTune`) speaks of all that has been said, heard or not:
a receiver that has heard a beginning of it cannot have met anything that the whole does not hold.
-/

namespace CommandLink
namespace Dialogue

variable {L M : Type} [FrameLink L] [FrameLink M]

/-- Both directions are in step. -/
structure InTune (d : Dialogue L M) (ds us : List Post) : Prop where
  down : Discipline.agent.InStep ds d.controller.endpoint.outbound
  up : Discipline.controller.InStep us d.agent.endpoint.outbound
  noLoss : ∀ p ∈ us, p.kind ≠ .packetLoss

variable {d : Dialogue L M} {ds us : List Post}

/-! ## Saying -/

omit [FrameLink M] in
theorem InTune.spoke (T : InTune d ds us) {c : Controller.Host L}
    {attempts : List Controller.Attempt} {posts : List Post}
    (speech : Controller.Speech d.controller.endpoint c.endpoint attempts posts)
    (ok : ∀ a ∈ attempts, a.outcome = .ok ()) :
    InTune { d with controller := c } (ds ++ posts) us :=
  ⟨Discipline.inStep_iff.mpr (speech.inStep ok (Discipline.inStep_iff.mp T.down)), T.up, T.noLoss⟩

omit [FrameLink L] [FrameLink M] in
theorem InTune.listened (T : InTune d ds us) {c : Controller.Host L}
    (h : c.endpoint.outbound = d.controller.endpoint.outbound) :
    InTune { d with controller := c } ds us :=
  ⟨h.symm ▸ T.down, T.up, T.noLoss⟩

omit [FrameLink L] in
theorem InTune.replied (T : InTune d ds us) {a : Agent.Host M} {K : FrameKind → Prop}
    {posts : List Post} (smooth : Agent.Smooth K d.agent.endpoint a.endpoint posts)
    (hK : ∀ kind, K kind → kind ≠ .packetLoss) :
    InTune { d with agent := a } ds (us ++ posts) := by
  refine ⟨T.down, smooth.inStep T.up, fun p hp => ?_⟩
  rcases List.mem_append.mp hp with hp | hp
  · exact T.noLoss p hp
  · exact hK _ (smooth.kinds p hp)

theorem ne_packetLoss_of_utterance {kind : FrameKind} (h : Agent.Utterance kind) :
    kind ≠ .packetLoss := by
  rintro rfl
  cases h

theorem ne_packetLoss_of_reply {heard kind : FrameKind} {lost : Prop}
    (h : Agent.Reply heard lost kind) (hl : ¬ lost) : kind ≠ .packetLoss := by
  rintro rfl
  cases h with
  | packetLoss h => exact hl h

/-! ## Hearing -/

/-- The judgement on a frame where it is heard is one of those on all the frames. -/
theorem verdict_mem {D : Discipline} {ps : List Post} {n : Nat} {p : Post}
    (hp : ps[n]? = some p) : D.verdict (D.afterAll (ps.take n)) p ∈ D.verdicts ps := by
  have judged : D.verdicts (ps.take (n + 1)) =
      D.verdicts (ps.take n) ++ [D.verdict (D.afterAll (ps.take n)) p] := by
    rw [take_succ_of_getElem? hp, D.verdicts_concat]
  rw [D.verdicts_take] at judged
  exact List.mem_of_mem_take (judged ▸ List.mem_append_right _ (List.mem_singleton_self _))

/-- A frame that is next among all the frames is next where it is heard. -/
theorem verdict_next_of_smooth {D : Discipline} {ps : List Post} {n : Nat} {p : Post}
    (smooth : ∀ v ∈ D.verdicts ps, v = .next) (hp : ps[n]? = some p) :
    D.verdict (D.afterAll (ps.take n)) p = .next := smooth _ (verdict_mem hp)

theorem Heeds.agent_inbound (H : Heeds d ds us) (free : d.agent.endpoint.receiving = none) :
    d.agent.endpoint.inbound = Discipline.agent.afterAll (ds.take d.agent.heard) := by
  rw [← H.heardDown.inbound, Ear.pass_of_none (by simp [Agent.ear, Ear.of, free])]
  rfl

theorem Heeds.controller_inbound (H : Heeds d ds us)
    (free : d.controller.endpoint.receiving = none) :
    d.controller.endpoint.inbound =
      Discipline.controller.afterAll (us.take d.controller.heard) := by
  rw [← H.heardUp.inbound, Ear.pass_of_none (by simp [Controller.ear, Ear.of, free])]
  rfl

theorem Heeds.agent_verdict (H : Heeds d ds us)
    (smooth : ∀ v ∈ Discipline.agent.verdicts ds, v = .next)
    (free : d.agent.endpoint.receiving = none) {p : Post} (hp : ds[d.agent.heard]? = some p) :
    Discipline.agent.verdict d.agent.endpoint.inbound p = .next := by
  rw [H.agent_inbound free]
  exact verdict_next_of_smooth smooth hp

theorem gaps_pass_of_smooth {D : Discipline} {e : Ear} {ps : List Post} {n : Nat}
    (H : e.Of D (ps.take n)) (smooth : ∀ v ∈ D.verdicts ps, v = .next) : e.pass.gaps = 0 := by
  rw [H.gaps, List.count_eq_zero, D.verdicts_take]
  intro h
  cases smooth _ (List.mem_of_mem_take h)

/-! ## Every step keeps both directions in step -/

/-- A step leaves the agent's configuration alone, and lets it run on a link that takes every
frame, if it did. -/
theorem AgentStep.keeps {a : Agent.Host M} (step : AgentStep d a ds us) :
    a.endpoint.config = d.agent.endpoint.config ∧ a.endpoint.running = d.agent.endpoint.running ∧
      (FrameLink.Ready d.agent.endpoint.link → FrameLink.Ready a.endpoint.link) := by
  cases step with
  | spoke posts smooth kept => exact ⟨kept.config, kept.running, smooth.ready⟩
  | heard p posts next free speech smooth eq =>
    obtain ⟨link, outbound, sent, log, e⟩ := (Agent.receive_becomes free p).eq
    have ready := speech.ready
    rw [eq] at ready ⊢
    exact ⟨by rw [e], by rw [e], ready⟩
  | passed endpoint posts deliver smooth eq =>
    have ready := smooth.ready
    rw [eq]
    obtain ⟨command, -, ⟨-, B⟩ | ⟨-, -, B⟩, -⟩ := Agent.deliver_cases deliver
    · obtain ⟨link, outbound, sent, log, e⟩ := B.eq
      exact ⟨by rw [e], by rw [e], ready⟩
    · obtain ⟨link, outbound, sent, log, e⟩ := B.eq
      exact ⟨by rw [e], by rw [e], ready⟩

/-- What is assumed of the agent: it announces its restarts, and its link takes every frame. -/
theorem steady_agentStep {a : Agent.Host M} (S : d.agent.endpoint.Steady)
    (step : AgentStep d a ds us) : a.endpoint.Steady := by
  obtain ⟨config, running, ready⟩ := step.keeps
  exact ⟨by rw [config]; exact S.announce, running.trans S.running, ready S.ready⟩

theorem InTune.controllerStep (T : InTune d ds us) (H : Heeds d ds us) {c : Controller.Host L}
    (step : ControllerStep d c ds us) (ok : ∀ a ∈ c.attempts, a.outcome = .ok ()) :
    ∃ posts, Heeds { d with controller := c } (ds ++ posts) us ∧
      InTune { d with controller := c } (ds ++ posts) us := by
  cases step with
  | spoke attempts posts speech kept tried heard heeds =>
    refine ⟨posts, heeds, T.spoke speech fun a ha => ok a ?_⟩
    rw [tried]
    exact List.mem_append_right _ ha
  | heard p next free eq heeds =>
    obtain ⟨handshake, slot, log, e⟩ := Controller.receive_octets free H.onStart p
    exact ⟨[], by rwa [List.append_nil], by
      rw [List.append_nil]
      exact T.listened (by rw [eq, e])⟩
  | passed endpoint deliver eq heeds =>
    obtain ⟨response, -, -, e⟩ := Controller.deliver_cases deliver
    exact ⟨[], by rwa [List.append_nil], by
      rw [List.append_nil]
      exact T.listened (by rw [eq, e])⟩

/-- What an agent sends in a step: in step, unless a restart goes unheard, and no report of a loss
where there is none. -/
theorem AgentStep.sends {a : Agent.Host M} (step : AgentStep d a ds us) (H : Heeds d ds us) :
    ∃ K posts, Heeds { d with agent := a } ds (us ++ posts) ∧
      Agent.Speech K d.agent.endpoint a.endpoint posts ∧
      ((d.agent.endpoint.Steady ∨ ∀ p ∈ ds, p.kind ≠ .agentReset) →
        Agent.Smooth K d.agent.endpoint a.endpoint posts) ∧
      ((∀ v ∈ Discipline.agent.verdicts ds, v = .next) → ∀ kind, K kind → kind ≠ .packetLoss) := by
  cases step with
  | spoke posts smooth kept heard heeds =>
    exact ⟨_, posts, heeds, smooth.toSpeech, fun _ => smooth, fun _ _ => ne_packetLoss_of_utterance⟩
  | heard p posts next free speech smooth eq heeds =>
    refine ⟨_, posts, heeds, speech, fun steady => smooth fun hk => ?_, fun hs _ hk => ?_⟩
    · exact steady.resolve_right fun none_ => none_ p (List.mem_of_getElem? next) hk
    · refine ne_packetLoss_of_reply hk ?_
      rw [H.agent_verdict hs free next]
      exact Verdict.noConfusion
  | passed endpoint posts deliver smooth eq heeds =>
    subst eq
    refine ⟨_, posts, heeds, smooth.toSpeech, fun _ => smooth, fun hs _ hk => ?_⟩
    have none_counted := gaps_pass_of_smooth H.heardDown hs
    exact ne_packetLoss_of_reply hk (by omega)

theorem InTune.agentStep (T : InTune d ds us) (H : Heeds d ds us) {a : Agent.Host M}
    (step : AgentStep d a ds us)
    (steady : d.agent.endpoint.Steady ∨ ∀ p ∈ ds, p.kind ≠ .agentReset) :
    ∃ posts, Heeds { d with agent := a } ds (us ++ posts) ∧
      InTune { d with agent := a } ds (us ++ posts) := by
  obtain ⟨K, posts, heeds, -, smooth, noLoss⟩ := step.sends H
  exact ⟨posts, heeds, T.replied (smooth steady) (noLoss T.down.smooth)⟩

/-! ## From the start -/

theorem Heeds.fresh {link : L} {agentLink : M} (hl : FrameLink.taken link = [])
    (hm : FrameLink.taken agentLink = []) (config : ControllerConfig) (seed : UInt32)
    (agentConfig : AgentConfig) :
    Heeds (ofEnds (Controller.start link config seed) (Agent.fresh agentLink agentConfig)) [] [] :=
  ⟨hl, hm, rfl, rfl, .fresh, .fresh, Nat.le_refl _, Nat.le_refl _, rfl,
    fun _ h => (List.not_mem_nil h).elim⟩

theorem start_smooth (agentLink : M) (agentConfig : AgentConfig) :
    (∃ posts, Agent.Smooth Agent.Utterance (Agent.fresh agentLink agentConfig)
      (Agent.start agentLink agentConfig).2 posts) ∧
    Agent.Kept (Agent.fresh agentLink agentConfig) (Agent.start agentLink agentConfig).2 := by
  unfold Agent.start
  simp only
  split
  · exact ⟨Agent.sendPayload_utterance _ .agentStart StreamId.control [],
      Agent.sendPayload_kept _ .agentStart StreamId.control []⟩
  · exact ⟨⟨[], .refl rfl rfl rfl⟩, ⟨rfl, rfl, rfl, rfl⟩⟩

theorem inTune_start {link : L} {agentLink : M} (hl : FrameLink.taken link = [])
    (hm : FrameLink.taken agentLink = []) (config : ControllerConfig) (seed : UInt32)
    (agentConfig : AgentConfig) :
    ∃ us, Heeds (ofEnds (Controller.start link config seed)
        (Agent.start agentLink agentConfig).2) [] us ∧
      InTune (ofEnds (Controller.start link config seed)
        (Agent.start agentLink agentConfig).2) [] us := by
  have H := Heeds.fresh hl hm config seed agentConfig
  have T : InTune (ofEnds (Controller.start link config seed)
      (Agent.fresh agentLink agentConfig)) [] [] :=
    ⟨.nil _, .nil _, fun _ h => (List.not_mem_nil h).elim⟩
  obtain ⟨⟨us, smooth⟩, kept⟩ := start_smooth agentLink agentConfig
  refine ⟨us, ?_, T.replied (a := .ofAgent (Agent.start agentLink agentConfig).2) smooth
    fun _ => ne_packetLoss_of_utterance⟩
  refine H.said (a := .ofAgent (Agent.start agentLink agentConfig).2) smooth.toSpeech ?_
    (Nat.le_refl _) fun _ h => (List.not_mem_nil h).elim
  rw [Agent.Host.ofAgent, kept.ear]
  exact H.heardDown

/-! ## The theorem -/

/-- Whether a frame reports lost frames. -/
def isLossNotice (octets : Octets) : Bool :=
  match Incoming.ofOctets octets with
  | .frame header _ _ => FrameKind.ofCode? header.kind == some .packetLoss
  | _ => false

@[simp] theorem isLossNotice_octets (p : Post) :
    isLossNotice p.octets = (p.kind == .packetLoss) := by
  simp [isLossNotice, Incoming.ofOctets_octets]

/-- An end has counted nothing amiss. -/
structure Unblemished (stats : LinkStats) : Prop where
  repeats : stats.repeats = 0
  gaps : stats.gaps = 0
  dropped : stats.dropped = 0

theorem unblemished_of_smooth {D : Discipline} {e : Ear} {ps : List Post} {n : Nat}
    {stats : LinkStats} (H : e.Of D (ps.take n)) (smooth : ∀ v ∈ D.verdicts ps, v = .next)
    (he : e.repeats = stats.repeats ∧ e.gaps = stats.gaps ∧ e.dropped = stats.dropped) :
    Unblemished stats := by
  have none_amiss := H.unblemished fun v hv => by
    rw [D.verdicts_take] at hv
    exact smooth v (List.mem_of_mem_take hv)
  exact ⟨he.1 ▸ none_amiss.1, he.2.1 ▸ none_amiss.2.1, he.2.2 ▸ none_amiss.2.2⟩

theorem InTune.unblemished (T : InTune d ds us) (H : Heeds d ds us) :
    Unblemished d.controller.endpoint.stats ∧ Unblemished d.agent.endpoint.stats ∧
      ∀ octets ∈ d.up, isLossNotice octets = false := by
  refine ⟨unblemished_of_smooth H.heardUp T.up.smooth ⟨rfl, rfl, rfl⟩,
    unblemished_of_smooth H.heardDown T.down.smooth ⟨rfl, rfl, rfl⟩, fun octets ho => ?_⟩
  rw [H.up] at ho
  obtain ⟨p, hp, rfl⟩ := List.mem_map.mp ho
  simpa using T.noLoss p hp

theorem Heeds.received_of_toAgent_nil (H : Heeds d ds us) (h : d.toAgent = []) :
    d.agent.endpoint.stats.received = d.controller.endpoint.stats.sent := by
  have received : d.agent.endpoint.stats.received = (ds.take d.agent.heard).length :=
    H.heardDown.received
  rw [H.toAgent, List.map_eq_nil_iff, List.drop_eq_nil_iff] at h
  rw [received, List.take_of_length_le h, H.sentDown]

theorem Heeds.received_of_toController_nil (H : Heeds d ds us) (h : d.toController = []) :
    d.controller.endpoint.stats.received = d.agent.endpoint.stats.sent := by
  have received : d.controller.endpoint.stats.received = (us.take d.controller.heard).length :=
    H.heardUp.received
  rw [H.toController, List.map_eq_nil_iff, List.drop_eq_nil_iff] at h
  rw [received, List.take_of_length_le h, H.sentUp]

/-- A controller and an agent that announces itself, from their start, over a link that loses
nothing: in whatever order calls, workers and receive paths take their steps, as long as no attempt
to send has failed neither end has counted anything amiss, the agent has reported no loss, and an
end that has heard everything has received as many frames as the other has sent. -/
theorem numbers_agree (config : ControllerConfig) (seed : UInt32) (agentConfig : AgentConfig)
    (link : L) (agentLink : M) (hl : FrameLink.taken link = [])
    (hm : FrameLink.taken agentLink = []) (hready : FrameLink.Ready agentLink)
    (hannounce : agentConfig.announce = true) (d : Dialogue L M) (actions : List Action)
    (run : Run anything (ofEnds (Controller.start link config seed)
      (Agent.start agentLink agentConfig).2) actions d)
    (ok : ∀ a ∈ d.controller.attempts, a.outcome = .ok ()) :
    Unblemished d.controller.endpoint.stats ∧ Unblemished d.agent.endpoint.stats ∧
      (∀ octets ∈ d.up, isLossNotice octets = false) ∧
      (d.toAgent = [] → d.agent.endpoint.stats.received = d.controller.endpoint.stats.sent) ∧
      (d.toController = [] →
        d.controller.endpoint.stats.received = d.agent.endpoint.stats.sent) := by
  let I : Dialogue L M → Prop := fun d => (∀ a ∈ d.controller.attempts, a.outcome = .ok ()) →
    d.agent.endpoint.Steady ∧ ∃ ds us, Heeds d ds us ∧ InTune d ds us
  have start : I (ofEnds (Controller.start link config seed)
      (Agent.start agentLink agentConfig).2) := by
    intro _
    obtain ⟨us, H, T⟩ := inTune_start hl hm config seed agentConfig
    obtain ⟨⟨posts, smooth⟩, kept⟩ := start_smooth agentLink agentConfig
    refine ⟨⟨?_, kept.running, smooth.ready hready⟩, [], us, H, T⟩
    rw [← hannounce]
    exact congrArg AgentConfig.announce kept.config
  have step : ∀ {d action d'}, I d → anything d action = true → d.act action = some d' →
      I d' := by
    intro d action d' hi _ ha ok'
    cases action with
    | controller action =>
      obtain ⟨c, hc, rfl⟩ := Option.map_eq_some_iff.mp ha
      obtain ⟨S, ds, us, H, T⟩ :=
        hi fun a h => ok' a ((Controller.Host.attempts_prefix hc).subset h)
      obtain ⟨posts, H', T'⟩ := T.controllerStep H (H.controller hc) ok'
      exact ⟨S, _, us, H', T'⟩
    | agent action =>
      obtain ⟨a, hagent, rfl⟩ := Option.map_eq_some_iff.mp ha
      obtain ⟨S, ds, us, H, T⟩ := hi ok'
      obtain ⟨posts, H', T'⟩ := T.agentStep H (H.agent hagent) (.inl S)
      exact ⟨steady_agentStep S (H.agent hagent), ds, _, H', T'⟩
  obtain ⟨-, ds, us, H, T⟩ := run.preserves step start ok
  obtain ⟨hc, ha, hloss⟩ := T.unblemished H
  exact ⟨hc, ha, hloss, H.received_of_toAgent_nil, H.received_of_toController_nil⟩

/-- A command is answered while a reset is on its way; the agent starts over, and another command
follows. -/
def acrossReset : List Action :=
  [.controller (.send ⟨StreamId.control, ⟨5, 1, 0⟩, [7]⟩), .agent .hear, .agent .pass,
    .agent (.takeUp 0), .controller .hear, .agent (.handle 0 (.ok [8])), .controller .reset,
    .agent (.answer 0), .controller .hear, .controller .pass, .agent .hear, .controller .hear,
    .controller (.send ⟨StreamId.control, ⟨5, 2, 0⟩, []⟩), .agent .hear]

theorem numbers_agree_across_reset :
    ∃ d : Dialogue ScriptedLink ScriptedLink,
      (ofEnds (Controller.start ⟨[], []⟩ ⟨none, .ofMillis 20⟩ 0)
        (Agent.start ⟨[], []⟩ ⟨"1.0", true⟩).2).perform anything acrossReset = some d ∧
      Unblemished d.controller.endpoint.stats ∧ Unblemished d.agent.endpoint.stats ∧
      d.controller.endpoint.stats.sent = 3 ∧ d.agent.endpoint.stats.sent = 3 ∧
      d.agent.endpoint.stats.received = d.controller.endpoint.stats.sent ∧
      d.controller.endpoint.stats.received = d.agent.endpoint.stats.sent := by
  obtain ⟨d, hd, tried, heardAll, heardBack, sent⟩ : ∃ d : Dialogue ScriptedLink ScriptedLink,
      (ofEnds (Controller.start ⟨[], []⟩ ⟨none, .ofMillis 20⟩ 0)
        (Agent.start ⟨[], []⟩ ⟨"1.0", true⟩).2).perform anything acrossReset = some d ∧
      d.controller.attempts.map Controller.Attempt.outcome = [.ok (), .ok (), .ok ()] ∧
      d.toAgent = [] ∧ d.toController = [] ∧
      d.controller.endpoint.stats.sent = 3 ∧ d.agent.endpoint.stats.sent = 3 :=
    ⟨_, rfl, rfl, rfl, rfl, rfl, rfl⟩
  have ok : ∀ a ∈ d.controller.attempts, a.outcome = .ok () := by
    intro a ha
    have ho := List.mem_map_of_mem (f := Controller.Attempt.outcome) ha
    rw [tried] at ho
    simpa using ho
  have agree := numbers_agree ⟨none, .ofMillis 20⟩ 0 ⟨"1.0", true⟩ (⟨[], []⟩ : ScriptedLink)
    (⟨[], []⟩ : ScriptedLink) rfl rfl rfl rfl d acrossReset (.of_perform hd) ok
  exact ⟨d, hd, agree.1, agree.2.1, sent.1, sent.2, agree.2.2.2.1 heardAll,
    agree.2.2.2.2 heardBack⟩

end Dialogue
end CommandLink
