import CommandLink.Proofs.Agent.Emissions
import CommandLink.Proofs.Controller.Readiness
import CommandLink.Proofs.Dialogue.Resync

/-! # Which start makes the agent ready again

Nothing in a start notification says which request to reset it answers, if any. So the controller
takes its agent for ready on whatever start notification it hears next, be it that the agent had
sent it before the request was made, that its owner announces it, or that it answers an earlier
request (`Dialogue.ready_before_reset`). Where none of these is possible, the agent has processed
the request when the controller takes it for ready, and has sent the start notification no earlier
(`Dialogue.ready_after_reset`). -/

namespace CommandLink

namespace Dialogue

variable {L M : Type} [FrameLink L] [FrameLink M] {d d' d'' : Dialogue L M}
  {allowed : Dialogue L M → Action → Bool} {actions : List Action}

/-- What is said stays said, and what is heard stays heard. -/
structure Extends (d d' : Dialogue L M) : Prop where
  down : d.down <+: d'.down
  up : d.up <+: d'.up
  heardDown : d.agent.heard ≤ d'.agent.heard
  heardUp : d.controller.heard ≤ d'.controller.heard

theorem Extends.refl (d : Dialogue L M) : Extends d d :=
  ⟨List.prefix_refl _, List.prefix_refl _, Nat.le_refl _, Nat.le_refl _⟩

theorem Extends.trans (H : Extends d d') (H' : Extends d' d'') : Extends d d'' :=
  ⟨H.down.trans H'.down, H.up.trans H'.up, Nat.le_trans H.heardDown H'.heardDown,
    Nat.le_trans H.heardUp H'.heardUp⟩

theorem Orderly.extends (O : Orderly d) {action : Action} (h : d.act action = some d') :
    Extends d d' := by
  cases action with
  | controller action =>
    obtain ⟨c, hc, rfl⟩ := Option.map_eq_some_iff.mp h
    obtain ⟨-, attempts, posts, tries⟩ := Controller.Host.act_tries O.genuine hc
    exact ⟨⟨_, tries.speech.taken.symm⟩, List.prefix_refl _, Nat.le_refl _,
      Controller.Host.heard_le_act hc⟩
  | agent action =>
    obtain ⟨a, ha, rfl⟩ := Option.map_eq_some_iff.mp h
    exact ⟨List.prefix_refl _, Agent.Host.taken_act O.mild ha, Agent.Host.heard_le_act O.mild ha,
      Nat.le_refl _⟩

theorem Orderly.run (O : Orderly d) (run : Run allowed d actions d') :
    Orderly d' ∧ Extends d d' :=
  run.preserves (I := fun e => Orderly e ∧ Extends d e)
    (fun ⟨O', E⟩ _ step => ⟨O'.act step, E.trans (O'.extends step)⟩) ⟨O, .refl d⟩

/-! ## A start since a request to reset -/

/-- If the agent is ready, the controller has heard a start notification behind the first `m`
frames. -/
def StartedSince (m : Nat) (d : Dialogue L M) : Prop :=
  d.controller.endpoint.handshake.state = .ready →
    ∃ i octets, m ≤ i ∧ i < d.controller.heard ∧ d.up[i]? = some octets ∧
      kindIn octets = some .agentStart

theorem StartedSince.act {m : Nat} (S : StartedSince m d) (O : Orderly d)
    (from_m : m ≤ d.controller.heard) {action : Action} (step : d.act action = some d') :
    StartedSince m d' := by
  have E := O.extends step
  have kept : d.controller.endpoint.handshake.state = .ready →
      ∃ i octets, m ≤ i ∧ i < d'.controller.heard ∧ d'.up[i]? = some octets ∧
        kindIn octets = some .agentStart := fun ready => by
    obtain ⟨i, octets, from_i, heard, said, start⟩ := S ready
    exact ⟨i, octets, from_i, Nat.lt_of_lt_of_le heard E.heardUp, getElem?_of_isPrefix E.up said,
      start⟩
  intro ready
  cases action with
  | controller action =>
    obtain ⟨c, hc, rfl⟩ := Option.map_eq_some_iff.mp step
    rcases Controller.Host.ready_act hc ready with before | ⟨octets, next, start, heard⟩
    · exact kept before
    · exact ⟨d.controller.heard, octets, from_m, heard ▸ Nat.lt_succ_self _, next, start⟩
  | agent action =>
    obtain ⟨a, ha, rfl⟩ := Option.map_eq_some_iff.mp step
    exact kept ready

theorem StartedSince.run {m : Nat} (S : StartedSince m d) (O : Orderly d)
    (from_m : m ≤ d.controller.heard) (run : Run allowed d actions d') : StartedSince m d' := by
  refine (run.preserves (I := fun e => StartedSince m e ∧ Orderly e ∧ m ≤ e.controller.heard) ?_
    ⟨S, O, from_m⟩).1
  rintro e action e' ⟨S, O, from_m⟩ - step
  exact ⟨S.act O from_m step, O.act step, Nat.le_trans from_m (O.extends step).heardUp⟩

/-! ## As long as the agent has not processed the request -/

/-- The agent has still to hear frame `n`, a request to reset, and no request to reset before it.
Behind the first `m` frames of the agent, all of which the controller has heard, there is no start
notification, and the agent is not ready. -/
structure Awaits (n m : Nat) (d : Dialogue L M) : Prop extends Orderly d where
  request : ∃ octets, d.down[n]? = some octets ∧ kindIn octets = some .agentReset
  heard : d.agent.heard ≤ n
  first : ∀ octets ∈ (d.down.take n).drop d.agent.heard, kindIn octets ≠ some .agentReset
  past : m ≤ d.controller.heard
  unstarted : ∀ octets ∈ d.up.drop m, kindIn octets ≠ some .agentStart
  awaiting : d.controller.endpoint.handshake.state ≠ .ready

variable {n m : Nat}

theorem Awaits.controller (A : Awaits n m d) {action : Controller.Action} {c : Controller.Host L}
    (hc : d.controller.act d.up action = some c) : Awaits n m { d with controller := c } := by
  have step : d.act (.controller action) = some { d with controller := c } := by
    rw [act, hc]
    rfl
  have E := A.toOrderly.extends step
  obtain ⟨octets, here, reset⟩ := A.request
  obtain ⟨more, said⟩ := E.down
  have same : ({ d with controller := c } : Dialogue L M).down.take n = d.down.take n := by
    rw [← said, List.take_append_of_le_length (Nat.le_of_lt (lt_length_of_getElem? here))]
  refine ⟨A.toOrderly.act step, ⟨octets, getElem?_of_isPrefix E.down here, reset⟩, A.heard, ?_,
    Nat.le_trans A.past E.heardUp, A.unstarted, fun ready => ?_⟩
  · rw [same]
    exact A.first
  · rcases Controller.Host.ready_act hc ready with before | ⟨octets, next, start, -⟩
    · exact A.awaiting before
    · refine A.unstarted octets (List.mem_iff_getElem?.mpr ⟨d.controller.heard - m, ?_⟩) start
      rw [List.getElem?_drop, Nat.add_sub_of_le A.past]
      exact next

/-- The agent announces nothing by itself, and has not come to frame `n` yet. -/
theorem Awaits.agent (A : Awaits n m d) {action : Agent.Action} {a : Agent.Host M}
    (ha : d.agent.act d.down action = some a) (announces : action ≠ .announce)
    (before : action = .hear → d.agent.heard ≠ n) : Awaits n m { d with agent := a } := by
  have step : d.act (.agent action) = some { d with agent := a } := by
    rw [act, ha]
    rfl
  have E := A.toOrderly.extends step
  have earlier : action = .hear → ∀ octets, d.down[d.agent.heard]? = some octets →
      kindIn octets ≠ some .agentReset := by
    intro hears octets next
    have lt : d.agent.heard < n := Nat.lt_of_le_of_ne A.heard (before hears)
    refine A.first octets (List.mem_iff_getElem?.mpr ⟨0, ?_⟩)
    rw [List.getElem?_drop, Nat.add_zero, List.getElem?_take_of_lt lt]
    exact next
  have heard : a.heard ≤ n := by
    by_cases hears : action = .hear
    · have lt : d.agent.heard < n := Nat.lt_of_le_of_ne A.heard (before hears)
      subst hears
      obtain ⟨octets, -, -, rfl⟩ := Agent.Host.act_hear ha
      exact lt
    · rw [(Agent.Host.says_act A.mild ha hears).2]
      exact A.heard
  obtain ⟨new, said, unannounced⟩ := Agent.Host.unannounced_act A.mild ha announces earlier
  refine ⟨A.toOrderly.act step, A.request, heard, fun octets mem => ?_, A.past,
    fun octets mem => ?_, A.awaiting⟩
  · exact A.first octets (List.drop_subset_drop_left _ E.heardDown mem)
  · have mem : octets ∈ (d.up ++ new).drop m := said ▸ mem
    rw [List.drop_append] at mem
    rcases List.mem_append.mp mem with mem | mem
    · exact A.unstarted octets mem
    · exact unannounced octets (List.mem_of_mem_drop mem)

/-- If the agent is ready in the end, it has heard frame `n` in between. -/
theorem Awaits.processed (A : Awaits n m d) (run : Run allowed d actions d')
    (prompted : ∀ e, allowed e (.agent .announce) = true → n < e.agent.heard)
    (ready : d'.controller.endpoint.handshake.state = .ready) :
    ∃ before after e e', actions = before ++ .agent .hear :: after ∧
      Run allowed d before e ∧ Awaits n m e ∧ e.agent.heard = n ∧
      e.act (.agent .hear) = some e' ∧ Run allowed e' after d' := by
  induction run with
  | nil => exact absurd ready A.awaiting
  | @cons d e d' action actions ok step rest ih =>
    have later : Awaits n m e → ∃ before after f f',
        action :: actions = before ++ .agent .hear :: after ∧ Run allowed d before f ∧
        Awaits n m f ∧ f.agent.heard = n ∧ f.act (.agent .hear) = some f' ∧
        Run allowed f' after d' := fun A' => by
      obtain ⟨before, after, f, f', split, reach, A₁, place, hears, onward⟩ := ih A' ready
      exact ⟨action :: before, after, f, f', by rw [split]; rfl, .cons ok step reach, A₁, place,
        hears, onward⟩
    cases action with
    | controller action =>
      obtain ⟨c, hc, rfl⟩ := Option.map_eq_some_iff.mp step
      exact later (A.controller hc)
    | agent action =>
      by_cases arrived : action = .hear ∧ d.agent.heard = n
      · obtain ⟨rfl, place⟩ := arrived
        exact ⟨[], actions, d, e, rfl, .nil d, A, place, step, rest⟩
      · obtain ⟨a, ha, rfl⟩ := Option.map_eq_some_iff.mp step
        refine later (A.agent ha ?_ fun hears place => arrived ⟨hears, place⟩)
        rintro rfl
        exact absurd (prompted d ok) (Nat.not_lt.mpr A.heard)

/-! ## From the request on -/

/-- What a request to reset that is made with success comes to at once. -/
structure Requested (d₀ d₁ : Dialogue L M) : Prop where
  down : ∃ octets, d₁.down = d₀.down ++ [octets] ∧ kindIn octets = some .agentReset
  up : d₁.up = d₀.up
  agent : d₁.agent = d₀.agent
  heard : d₁.controller.heard = d₀.controller.heard
  awaiting : d₁.controller.endpoint.handshake.state ≠ .ready

variable {d₀ d₁ : Dialogue L M}

theorem requested_reset (asked : d₀.act (.controller .reset) = some d₁)
    (ok : d₀.controller.endpoint.resetAgent.1 = .ok ()) : Requested d₀ d₁ := by
  cases asked
  refine ⟨?_, rfl, rfl, rfl, ?_⟩
  · obtain ⟨posts, speech⟩ := d₀.controller.endpoint.resetAgent_speech
    rw [ok] at speech
    cases speech with
    | said m p hm hs link =>
      have kind : p.kind = .agentReset := hm
      exact ⟨p.octets, link, by rw [kindIn_octets, kind]⟩
  · rcases d₀.controller.endpoint.resetAgent_greets with ⟨-, greets⟩ | ⟨e, failed, -⟩
    · have state := congrArg (fun g => g.handshake.state) greets
      exact fun ready => nomatch state.symm.trans ready
    · rw [ok] at failed
      cases failed

theorem heard_le_of_run {c : Controller L} {a : Agent M}
    (run : Run allowed (ofEnds c a) actions d) : d.agent.heard ≤ d.down.length := by
  refine (run.preserves (I := fun e => Orderly e ∧ e.agent.heard ≤ e.down.length) ?_
    ⟨.ofEnds c a, Nat.zero_le _⟩).2
  rintro e action e' ⟨O, le⟩ - step
  have E := O.extends step
  refine ⟨O.act step, ?_⟩
  cases action with
  | controller action =>
    obtain ⟨c, hc, rfl⟩ := Option.map_eq_some_iff.mp step
    exact Nat.le_trans le E.down.length_le
  | agent action =>
    obtain ⟨a, ha, rfl⟩ := Option.map_eq_some_iff.mp step
    by_cases hears : action = .hear
    · subst hears
      obtain ⟨octets, next, -, rfl⟩ := Agent.Host.act_hear ha
      exact lt_length_of_getElem? next
    · rw [(Agent.Host.says_act O.mild ha hears).2]
      exact le

theorem Requested.awaits (R : Requested d₀ d₁) (O : Orderly d₁)
    (heard : d₀.agent.heard ≤ d₀.down.length)
    (unstarted : ∀ octets ∈ d₀.toController, kindIn octets ≠ some .agentStart)
    (first : ∀ octets ∈ d₀.toAgent, kindIn octets ≠ some .agentReset) :
    Awaits d₀.down.length d₁.controller.heard d₁ := by
  obtain ⟨octets, said, reset⟩ := R.down
  refine ⟨O, ⟨octets, by rw [said, List.getElem?_concat_length], reset⟩, R.agent ▸ heard, ?_,
    Nat.le_refl _, ?_, R.awaiting⟩
  · rw [said, List.take_left, R.agent]
    exact first
  · rw [R.up, R.heard]
    exact unstarted

/-- A controller asks its agent to reset, with success, and later takes it for ready, whatever has
happened before and whatever is done in between. Then it has heard a start notification since.

If at the time of the request no start notification and no other request to reset was on its way,
and the owner of the agent announces no start before the agent has heard the request, then the
agent has heard it: all start notifications that the controller can have heard since were sent when
the agent heard the request, or later. -/
theorem ready_after_reset {c : Controller L} {a : Agent M} {earlier : List Action}
    (history : Run anything (ofEnds c a) earlier d₀)
    (asked : d₀.act (.controller .reset) = some d₁)
    (ok : d₀.controller.endpoint.resetAgent.1 = .ok ()) (run : Run allowed d₁ actions d)
    (ready : d.controller.endpoint.handshake.state = .ready) :
    (∃ i octets, d₁.controller.heard ≤ i ∧ i < d.controller.heard ∧ d.up[i]? = some octets ∧
      kindIn octets = some .agentStart) ∧
    ((∀ octets ∈ d₀.toController, kindIn octets ≠ some .agentStart) →
      (∀ octets ∈ d₀.toAgent, kindIn octets ≠ some .agentReset) →
      (∀ e, allowed e (.agent .announce) = true → d₀.down.length < e.agent.heard) →
      ∃ before after e e', actions = before ++ .agent .hear :: after ∧
        Run allowed d₁ before e ∧ e.act (.agent .hear) = some e' ∧ Run allowed e' after d ∧
        e.agent.heard = d₀.down.length ∧
        (∃ octets, e.down[d₀.down.length]? = some octets ∧ kindIn octets = some .agentReset) ∧
        ∀ i octets, d₁.controller.heard ≤ i → d.up[i]? = some octets →
          kindIn octets = some .agentStart → e.up.length ≤ i) := by
  have O₀ := ((Orderly.ofEnds c a).run history).1
  have O := O₀.act asked
  have R := requested_reset asked ok
  have since : StartedSince d₁.controller.heard d₁ := fun h => absurd h R.awaiting
  refine ⟨since.run O (Nat.le_refl _) run ready, fun unstarted first prompted => ?_⟩
  have A := R.awaits O (heard_le_of_run history) unstarted first
  obtain ⟨before, after, e, e', split, reach, A', place, hears, onward⟩ :=
    A.processed run prompted ready
  have E := (A'.toOrderly.extends hears).trans ((A'.toOrderly.act hears).run onward).2
  refine ⟨before, after, e, e', split, reach, hears, onward, place, A'.request, ?_⟩
  intro i octets from_m said start
  refine Nat.le_of_not_lt fun early => ?_
  -- what the agent had said before it heard the request is still there, and announces no start
  obtain ⟨more, eq⟩ := E.up
  rw [← eq, List.getElem?_append_left early] at said
  refine A'.unstarted octets (List.mem_iff_getElem?.mpr ⟨i - d₁.controller.heard, ?_⟩) start
  rw [List.getElem?_drop, Nat.add_sub_of_le from_m]
  exact said

/-- The rule by which the owner of the agent announces nothing before the agent has heard frame
`n`. -/
def unprompted (n : Nat) (d : Dialogue L M) : Action → Bool
  | .agent .announce => decide (n < d.agent.heard)
  | _ => true

/-- Two ends that have just begun: the announcement that the agent has started is on its way. -/
def beginners : Dialogue ScriptedLink ScriptedLink :=
  ofEnds (Controller.start ⟨[], []⟩ ⟨none, .ofMillis 20⟩ 0) (Agent.start ⟨[], []⟩ ⟨"1.0", true⟩).2

theorem ready_after_reset_beginners :
    ∃ d₀ d₁ d : Dialogue ScriptedLink ScriptedLink,
      beginners.perform anything [.controller .hear] = some d₀ ∧
      d₀.act (.controller .reset) = some d₁ ∧
      d₁.perform (unprompted 0) [.agent .hear, .agent .announce, .controller .hear] = some d ∧
      d.controller.endpoint.handshake = ⟨.ready, 2⟩ ∧
      ∃ before after e e', [.agent .hear, .agent .announce, .controller .hear] =
          before ++ Action.agent .hear :: after ∧
        Run (unprompted 0) d₁ before e ∧ e.act (.agent .hear) = some e' ∧ e.agent.heard = 0 ∧
        ∀ i octets, 1 ≤ i → d.up[i]? = some octets → kindIn octets = some .agentStart →
          e.up.length ≤ i := by
  obtain ⟨d₀, hd₀, ok, said, toController, toAgent⟩ :
      ∃ d₀ : Dialogue ScriptedLink ScriptedLink,
        beginners.perform anything [.controller .hear] = some d₀ ∧
        d₀.controller.endpoint.resetAgent.1 = .ok () ∧ d₀.down = [] ∧ d₀.toController = [] ∧
        d₀.toAgent = [] := ⟨_, rfl, rfl, rfl, rfl, rfl⟩
  obtain ⟨d₁, asked, heard⟩ : ∃ d₁, d₀.act (.controller .reset) = some d₁ ∧
      d₁.controller.heard = 1 := by
    cases hd₀
    exact ⟨_, rfl, rfl⟩
  obtain ⟨d, hd, handshake⟩ : ∃ d,
      d₁.perform (unprompted 0) [.agent .hear, .agent .announce, .controller .hear] = some d ∧
      d.controller.endpoint.handshake = ⟨.ready, 2⟩ := by
    cases hd₀
    cases asked
    exact ⟨_, rfl, rfl⟩
  have prompted : ∀ e : Dialogue ScriptedLink ScriptedLink,
      unprompted 0 e (.agent .announce) = true → d₀.down.length < e.agent.heard := by
    rw [said]
    exact fun e => of_decide_eq_true
  obtain ⟨-, processed⟩ := ready_after_reset (.of_perform hd₀) asked ok (.of_perform hd)
    (congrArg Handshake.state handshake)
  obtain ⟨before, after, e, e', split, reach, hears, -, place, -, starts⟩ :=
    processed (by simp [toController]) (by simp [toAgent]) prompted
  rw [heard] at starts
  exact ⟨d₀, d₁, d, hd₀, asked, hd, handshake, before, after, e, e', split, reach, hears,
    place.trans (congrArg List.length said), starts⟩

/-- After these steps the controller takes its agent for ready, while the latest request to reset is
still on its way. All requests were made with success. -/
def ReadyEarly (actions : List Action) : Prop :=
  ∃ d, beginners.perform anything actions = some d ∧
    (∀ attempt ∈ d.controller.attempts, attempt.message = .reset ∧ attempt.outcome = .ok ()) ∧
    d.controller.endpoint.handshake.state = .ready ∧ d.toAgent.map kindIn = [some .agentReset]

/-- The controller takes its agent for ready on an announcement that was on its way, on the answer
to an earlier request, and on an announcement of the owner. -/
theorem ready_before_reset :
    ReadyEarly [.controller .reset, .controller .hear] ∧
    ReadyEarly [.controller .hear, .controller .reset, .controller .reset, .agent .hear,
      .controller .hear] ∧
    ReadyEarly [.controller .hear, .controller .reset, .agent .announce, .controller .hear] :=
  ⟨⟨_, rfl, by decide, rfl, rfl⟩, ⟨_, rfl, by decide, rfl, rfl⟩, ⟨_, rfl, by decide, rfl, rfl⟩⟩

end Dialogue
end CommandLink
