import CommandLink.Proofs.Agent.Prepared
import CommandLink.Proofs.Controller.Forecast
import CommandLink.Proofs.Dialogue.Agreement

/-! # Failed sends and the frames behind them

A controller takes a number for a frame before it knows whether the frame gets through, and keeps
the number when it does not. The agent is then one number behind. What that does to the link can be
read off the outcomes of the attempts (`Controller.forecast`): the link is undisturbed exactly if
every message that got through was forecast to be next (`Dialogue.undisturbed_as_forecast`). One
failed command is enough for a gap that never was, and fifteen of them let the agent drop a command
that its caller believes sent. -/

namespace CommandLink
namespace Dialogue

/-- Commands are for streams that are open at `a`, and no stream is opened or closed. -/
def addressing (a : Agent M) (_ : Dialogue L M) : Action → Bool
  | .controller action => action.command?.all fun command => a.isOpen command.stream
  | .agent (.begin _ _) => false
  | .agent _ => true

variable {L M : Type} [FrameLink L] [FrameLink M]

/-- Each command that was sent has reached its worker or is on its way there, and the agent has
missed nothing. -/
structure Undisturbed (d : Dialogue L M) : Prop where
  arrives : ∀ stream, Controller.sentOn d.controller.attempts stream =
    (d.agent.endpoint.invocationsOn stream).map Invocation.body ++
      d.agent.endpoint.waitingOn stream ++ d.toAgent.filterMap (payloadIn .command stream)
  repeats : d.agent.endpoint.stats.repeats = 0
  gaps : d.agent.endpoint.stats.gaps = 0
  noLoss : ∀ octets ∈ d.up, isLossNotice octets = false

/-- What the outcomes of the attempts tell about a dialogue with an agent whose open streams are
those of `a`. -/
structure Tracked (a : Agent M) (d : Dialogue L M) (ds us : List Post) : Prop where
  heeds : Heeds d ds us
  foretold : Controller.Foretold d.controller.attempts ds d.controller.endpoint.outbound
  asks : d.controller.Asks fun command => a.isOpen command.stream = true
  serving : d.agent.endpoint.serving = a.serving
  threads : d.agent.threads = []
  routed : d.agent.endpoint.Routed (ds.take d.agent.heard)
  noLoss : (∀ v ∈ Discipline.agent.verdicts ds, v = .next) → ∀ p ∈ us, p.kind ≠ .packetLoss
  up : (∀ p ∈ ds, p.kind ≠ .agentReset) →
    Discipline.controller.InStep us d.agent.endpoint.outbound

variable {a : Agent M} {d : Dialogue L M} {ds us : List Post}

theorem Tracked.addressed (T : Tracked a d ds us) : d.agent.endpoint.Addressed ds := by
  intro p hp hk
  obtain ⟨c, hc, stream, body⟩ := T.foretold.command hp hk
  obtain ⟨⟨message, outcome⟩, ha, eq⟩ := List.mem_filterMap.mp hc
  refine ⟨?_, ⟨p.stream, c.id, c.payload⟩, rfl, body⟩
  cases outcome with
  | error e => cases eq
  | ok u =>
    rw [Agent.isOpen_congr T.serving, ← stream]
    exact T.asks.attempts _ ha c (Option.some.inj eq)

theorem Tracked.controller (T : Tracked a d ds us) {action : Controller.Action}
    {c : Controller.Host L} (h : d.controller.act d.up action = some c)
    (ok : ∀ command, action.command? = some command → a.isOpen command.stream = true) :
    ∃ ps, Tracked a { d with controller := c } (ds ++ ps) us := by
  have asks := T.asks.act h ok
  cases T.heeds.controller h with
  | spoke attempts posts speech kept tried heard heeds =>
    refine ⟨posts, heeds, ?_, asks, T.serving, T.threads, ?_, fun smooth => T.noLoss ?_,
      fun mild => T.up fun p hp => mild p (List.mem_append_left _ hp)⟩
    · rw [tried]
      exact T.foretold.speech speech
    · rw [List.take_append_of_le_length T.heeds.heardDown_le]
      exact T.routed
    · intro v hv
      refine smooth v ?_
      rw [Discipline.verdicts, Discipline.verdictsFrom_append]
      exact List.mem_append_left _ hv
  | heard p next free eq heeds =>
    obtain ⟨handshake, slot, log, e⟩ := Controller.receive_octets free T.heeds.onStart p
    refine ⟨[], ?_⟩
    rw [List.append_nil]
    refine ⟨heeds, ?_, asks, T.serving, T.threads, T.routed, T.noLoss, T.up⟩
    rw [eq, e]
    exact T.foretold
  | passed endpoint deliver eq heeds =>
    obtain ⟨response, -, -, e⟩ := Controller.deliver_cases deliver
    refine ⟨[], ?_⟩
    rw [List.append_nil]
    refine ⟨heeds, ?_, asks, T.serving, T.threads, T.routed, T.noLoss, T.up⟩
    rw [eq, e]
    exact T.foretold

theorem Tracked.agent (T : Tracked a d ds us) {action : Agent.Action} {h : Agent.Host M}
    (ha : d.agent.act d.down action = some h)
    (calls : ∀ errand caller, action ≠ .begin errand caller) :
    ∃ qs, Tracked a { d with agent := h } ds (us ++ qs) := by
  obtain ⟨K, posts, heeds, speech, smooth, noLoss⟩ := (T.heeds.agent ha).sends T.heeds
  rw [T.heeds.down] at ha
  obtain ⟨threads, serving, routed⟩ :=
    Agent.Host.routed_act ha T.threads calls T.heeds.agent_inbound T.addressed T.routed
  refine ⟨posts, heeds, T.foretold, T.asks, serving.trans T.serving, threads, routed, ?_,
    fun mild => (smooth (.inr mild)).inStep (T.up mild)⟩
  intro next p hp
  rcases List.mem_append.mp hp with hp | hp
  · exact T.noLoss next p hp
  · exact noLoss next _ (speech.kinds p hp)

/-! ## From the start -/

theorem tracked_start {link : L} {agentLink : M} {agentConfig : AgentConfig}
    (hl : FrameLink.taken link = []) (hm : FrameLink.taken agentLink = [])
    (config : ControllerConfig) (seed : UInt32)
    (prepared : Agent.Prepared agentLink agentConfig a) :
    ∃ us, Tracked a (ofEnds (Controller.start link config seed) a) [] us := by
  obtain ⟨⟨serving, slots, workers, eq⟩, poised⟩ := prepared.poised
  obtain ⟨us, H, T⟩ := inTune_start hl hm config seed agentConfig
  have silent : (Agent.start agentLink agentConfig).2.log = [] ∧
      (Agent.start agentLink agentConfig).2.receiving = none := by
    obtain ⟨link', outbound, sent, h⟩ := Agent.start_eq agentLink agentConfig
    rw [h]
    exact ⟨rfl, rfl⟩
  refine ⟨us, ⟨H.down, ?_, H.sentDown, ?_, ?_, H.heardUp, H.heardDown_le, H.heardUp_le, H.onStart,
    fun _ h => (List.not_mem_nil h).elim⟩, .nil, ?_, rfl, rfl, ?_, fun _ => T.noLoss,
    fun _ => ?_⟩
  · rw [← H.up, eq]
    rfl
  · rw [← H.sentUp, eq]
    rfl
  · rw [eq]
    exact H.heardDown
  · exact ⟨fun _ h => (List.not_mem_nil h).elim, fun _ h => (List.not_mem_nil h).elim⟩
  · refine ⟨poised.roomy, fun stream => ?_⟩
    have log : a.log = [] := by rw [eq]; exact silent.1
    have receiving : a.receiving = none := by rw [eq]; exact silent.2
    simp [ofEnds, Agent.Host.ofAgent, Agent.invocationsOn, Agent.invocations, Agent.waitingOn, log,
      receiving, poised.empty, retained]
  · have outbound : a.outbound = (Agent.start agentLink agentConfig).2.outbound := by rw [eq]
    rw [ofEnds, Agent.Host.ofAgent, outbound]
    exact T.up

theorem Tracked.of_run {link : L} {agentLink : M} {agentConfig : AgentConfig}
    (hl : FrameLink.taken link = []) (hm : FrameLink.taken agentLink = [])
    (config : ControllerConfig) (seed : UInt32)
    (prepared : Agent.Prepared agentLink agentConfig a) {actions : List Action}
    (run : Run (addressing a) (ofEnds (Controller.start link config seed) a) actions d) :
    ∃ ds us, Tracked a d ds us := by
  refine run.preserves (I := fun d => ∃ ds us, Tracked a d ds us) ?_
    ⟨[], tracked_start hl hm config seed prepared⟩
  rintro d action d' ⟨ds, us, T⟩ ok h
  cases action with
  | controller action =>
    obtain ⟨c, hc, rfl⟩ := Option.map_eq_some_iff.mp h
    obtain ⟨ps, T'⟩ := T.controller hc fun command e => by simpa [addressing, e] using ok
    exact ⟨_, us, T'⟩
  | agent action =>
    obtain ⟨h', ha, rfl⟩ := Option.map_eq_some_iff.mp h
    obtain ⟨qs, T'⟩ := T.agent ha fun errand caller e => by simp [addressing, e] at ok
    exact ⟨ds, _, T'⟩

/-! ## What the forecast says -/

/-- The agent has done with all the frames as was forecast. -/
structure AsForecast (d : Dialogue L M) : Prop where
  repeats : d.agent.endpoint.stats.repeats =
    (Controller.forecast d.controller.attempts).count .again
  gaps : d.agent.endpoint.stats.gaps = (Controller.forecast d.controller.attempts).count .gap
  commands : ∀ stream, (d.agent.endpoint.invocationsOn stream).map Invocation.body ++
      d.agent.endpoint.waitingOn stream =
    retained (Controller.forecast d.controller.attempts)
      ((Controller.delivered d.controller.attempts).map (Controller.Message.bodyOn stream))

theorem Tracked.undisturbed (T : Tracked a d ds us)
    (smooth : ∀ v ∈ Controller.forecast d.controller.attempts, v = .next) : Undisturbed d := by
  rw [← T.foretold.verdicts] at smooth
  obtain ⟨repeats, gaps, -⟩ : Unblemished d.agent.endpoint.stats :=
    unblemished_of_smooth T.heeds.heardDown smooth ⟨rfl, rfl, rfl⟩
  refine ⟨fun stream => ?_, repeats, gaps, fun octets ho => ?_⟩
  · have heard : retained (Discipline.agent.verdicts (ds.take d.agent.heard))
        ((ds.take d.agent.heard).map (Post.payloadOn .command stream)) =
        (ds.take d.agent.heard).filterMap (Post.payloadOn .command stream) := by
      rw [filterMap_eq_map_id]
      refine retained_of_next (by simp) fun v hv => smooth v ?_
      rw [Discipline.verdicts_take] at hv
      exact List.mem_of_mem_take hv
    have underway : d.toAgent.filterMap (payloadIn .command stream) =
        (ds.drop d.agent.heard).filterMap (Post.payloadOn .command stream) := by
      rw [T.heeds.toAgent, filterMap_payloadIn]
    calc Controller.sentOn d.controller.attempts stream
        = ds.filterMap (Post.payloadOn .command stream) := by
          rw [Controller.sentOn, filterMap_eq_map_id, ← T.foretold.carried, ← filterMap_eq_map_id]
      _ = (ds.take d.agent.heard).filterMap (Post.payloadOn .command stream) ++
            (ds.drop d.agent.heard).filterMap (Post.payloadOn .command stream) := by
          rw [← List.filterMap_append, List.take_append_drop]
      _ = _ := by rw [T.routed.accounted stream, heard, underway]
  · rw [T.heeds.up] at ho
    obtain ⟨p, hp, rfl⟩ := List.mem_map.mp ho
    simpa using T.noLoss smooth p hp

theorem Tracked.asForecast (T : Tracked a d ds us) (quiet : d.toAgent = [])
    (free : d.agent.endpoint.receiving = none) : AsForecast d := by
  have all : ds.take d.agent.heard = ds := by
    rw [T.heeds.toAgent, List.map_eq_nil_iff, List.drop_eq_nil_iff] at quiet
    exact List.take_of_length_le quiet
  have ear := T.heeds.heardDown
  rw [all] at ear
  refine ⟨?_, ?_, fun stream => ?_⟩
  · rw [← T.foretold.verdicts]
    exact ear.repeats
  · rw [← T.foretold.verdicts, ← ear.gaps,
      Ear.pass_of_none (by simp [Agent.ear, Ear.of, free])]
    rfl
  · rw [T.routed.accounted stream, all, T.foretold.verdicts, T.foretold.carried]

theorem AsForecast.next (F : AsForecast d) (U : Undisturbed d) :
    ∀ v ∈ Controller.forecast d.controller.attempts, v = .next := by
  have repeats := F.repeats.symm.trans U.repeats
  have gaps := F.gaps.symm.trans U.gaps
  intro v hv
  cases v with
  | next => rfl
  | again => exact absurd hv (List.count_eq_zero.mp repeats)
  | gap => exact absurd hv (List.count_eq_zero.mp gaps)

/-- A controller sends commands to the open streams of an agent, requests resets and syncs, and any
of its attempts may fail. If each message that gets through is forecast to be next, the link is
undisturbed at every moment. Once the agent has done with all that got through, it has counted
repeats and gaps and has passed on commands as forecast, so that the link is undisturbed only
then. -/
theorem undisturbed_as_forecast (config : ControllerConfig) (seed : UInt32)
    (agentConfig : AgentConfig) (link : L) (agentLink : M) (hl : FrameLink.taken link = [])
    (hm : FrameLink.taken agentLink = []) (a : Agent M)
    (prepared : Agent.Prepared agentLink agentConfig a) (d : Dialogue L M) (actions : List Action)
    (run : Run (addressing a) (ofEnds (Controller.start link config seed) a) actions d) :
    ((∀ v ∈ Controller.forecast d.controller.attempts, v = .next) → Undisturbed d) ∧
      (d.toAgent = [] → d.agent.endpoint.receiving = none →
        AsForecast d ∧ (Undisturbed d →
          ∀ v ∈ Controller.forecast d.controller.attempts, v = .next)) := by
  obtain ⟨ds, us, T⟩ := Tracked.of_run hl hm config seed prepared run
  refine ⟨T.undisturbed, fun quiet free => ?_⟩
  have F := T.asForecast quiet free
  exact ⟨F, F.next⟩

/-! ## Failures that show, and failures that do not -/

/-- A command, as many attempts at another as there are failures ahead, and a third command, all of
which the agent hears. -/
def acrossFailures (failures : Nat) : List Action :=
  [.controller (.send ⟨StreamId.control, ⟨5, 1, 0⟩, [1]⟩), .agent .hear, .agent .pass,
      .agent (.takeUp 0)] ++
    List.replicate failures (.controller (.send ⟨StreamId.control, ⟨5, 2, 0⟩, [2]⟩)) ++
    [.controller (.send ⟨StreamId.control, ⟨5, 3, 0⟩, [3]⟩), .agent .hear]

def beginning (failures : Nat) : Dialogue ScriptedLink ScriptedLink :=
  ofEnds (Controller.start ⟨false :: List.replicate failures true, []⟩ ⟨none, .ofMillis 20⟩ 0)
    (Agent.start ⟨[], []⟩ ⟨"1.0", true⟩).2

/-- One failure makes the agent count and report a gap where nothing is missing; after fifteen it
drops a command whose sending succeeded. -/
theorem failures_disturb :
    (∃ d, (beginning 1).perform anything (acrossFailures 1 ++ [.agent .pass]) = some d ∧
      d.controller.attempts.map (Except.isOk ·.outcome) = [true, false, true] ∧
      d.agent.endpoint.stats.gaps = 1 ∧ d.up.any isLossNotice = true ∧ ¬ Undisturbed d) ∧
    ∃ d, (beginning 15).perform anything (acrossFailures 15) = some d ∧
      Controller.sentOn d.controller.attempts StreamId.control =
        [[5, 1, 0, 0, 1], [5, 3, 0, 0, 3]] ∧
      d.toAgent = [] ∧ d.agent.endpoint.waitingOn StreamId.control = [] ∧
      (d.agent.endpoint.invocationsOn StreamId.control).map Invocation.body = [[5, 1, 0, 0, 1]] ∧
      d.agent.endpoint.stats.repeats = 1 ∧ ¬ Undisturbed d :=
  ⟨⟨_, rfl, rfl, rfl, rfl, fun U => nomatch U.gaps⟩,
    ⟨_, rfl, rfl, rfl, rfl, rfl, rfl, fun U => nomatch U.repeats⟩⟩

/-- Sixteen failures leave no trace. -/
theorem undisturbed_after_sixteen :
    ∃ d, (beginning 16).perform (addressing (beginning 16).agent.endpoint)
        (acrossFailures 16 ++ [.agent .pass]) = some d ∧
      (d.controller.attempts.filter (!·.outcome.isOk)).length = 16 ∧
      Undisturbed d ∧ AsForecast d := by
  obtain ⟨d, hd, failed, next, quiet, free⟩ :
      ∃ d, (beginning 16).perform (addressing (beginning 16).agent.endpoint)
        (acrossFailures 16 ++ [.agent .pass]) = some d ∧
        (d.controller.attempts.filter (!·.outcome.isOk)).length = 16 ∧
        Controller.forecast d.controller.attempts = [.next, .next] ∧ d.toAgent = [] ∧
        d.agent.endpoint.receiving.isNone = true :=
    ⟨_, rfl, rfl, rfl, rfl, rfl⟩
  have H := undisturbed_as_forecast ⟨none, .ofMillis 20⟩ 0 ⟨"1.0", true⟩
    (⟨false :: List.replicate 16 true, []⟩ : ScriptedLink) (⟨[], []⟩ : ScriptedLink) rfl rfl _
    .start d _ (.of_perform hd)
  refine ⟨d, hd, failed, H.1 ?_, (H.2 quiet (Option.isNone_iff_eq_none.mp free)).1⟩
  rw [next]
  simp

end Dialogue
end CommandLink
