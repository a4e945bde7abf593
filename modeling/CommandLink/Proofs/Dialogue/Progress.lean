import CommandLink.Proofs.Agent.Progress
import CommandLink.Proofs.Controller.Progress
import CommandLink.Proofs.Dialogue.Requests

/-! # Every request is answered

The steps by which the ends and the handler go on with what has begun come to an end: each of them
lowers `Dialogue.effort`. Where none is left, every request has returned and the handler was invoked
once for each of them. -/

namespace CommandLink
namespace Dialogue

def Action.goesOn : Action → Bool
  | .controller action => action.goesOn
  | .agent action => action.goesOn

/-- The steps that go on with what has begun, and keep to the routine. -/
def onward (a : Agent M) (d : Dialogue L M) (action : Action) : Bool :=
  routine a d action && action.goesOn

variable {L M : Type} [FrameLink L] [FrameLink M]

/-- How many steps there are at most before both ends rest. -/
def effort (d : Dialogue L M) : Nat :=
  d.controller.effort + d.agent.effort + 9 * d.toAgent.length + 2 * d.toController.length

/-- No end goes on by itself. -/
def Quiet (a : Agent M) (d : Dialogue L M) : Prop :=
  ∀ action, onward a d action = true → d.act action = none

/-- Every request on a stream has been handled, and has returned. -/
structure Settled (d : Dialogue L M) (stream : StreamId) : Prop where
  handled : d.agent.endpoint.invocationsOn stream =
    (d.controller.requestsOn stream).map (·.1.invocation)
  returned : ∀ r ∈ d.controller.requestsOn stream, ∃ result,
    r.2 = Controller.Standing.returned result

variable {a : Agent M} {d d' : Dialogue L M} {ds us : List Post}

theorem Heeds.length_toAgent (H : Heeds d ds us) :
    d.toAgent.length + d.agent.heard = d.controller.endpoint.stats.sent := by
  have heard := H.heardDown_le
  rw [H.toAgent, H.sentDown, List.length_map, List.length_drop]
  omega

theorem Heeds.length_toController (H : Heeds d ds us) :
    d.toController.length + d.controller.heard = d.agent.endpoint.stats.sent := by
  have heard := H.heardUp_le
  rw [H.toController, H.sentUp, List.length_map, List.length_drop]
  omega

/-! ## Steps -/

theorem Served.effort_lt (S : Served a d ds us) {action : Action}
    (ok : onward a d action = true) (h : d.act action = some d') : d'.effort < d.effort := by
  simp only [onward, Bool.and_eq_true] at ok
  obtain ⟨ds', us', S'⟩ := S.step ok.1 h
  have H := S.tracked.heeds
  have toAgent := H.length_toAgent
  have toController := H.length_toController
  have toAgent' := S'.tracked.heeds.length_toAgent
  have toController' := S'.tracked.heeds.length_toController
  cases action with
  | controller action =>
    obtain ⟨c, hc, rfl⟩ := Option.map_eq_some_iff.mp h
    rw [H.up] at hc
    have step := Controller.Host.effort_act hc ok.2 H.onStart
    simp only [effort] at *
    omega
  | agent action =>
    obtain ⟨h', ha, rfl⟩ := Option.map_eq_some_iff.mp h
    rw [H.down] at ha
    have step := Agent.Host.effort_act ha ok.2 S.serves.staffed.numbered
    simp only [effort] at *
    omega

theorem Served.onward (S : Served a d ds us) {actions : List Action}
    (run : Run (onward a) d actions d') :
    actions.length ≤ d.effort ∧ ∃ ds us, Served a d' ds us := by
  induction run generalizing ds us with
  | nil => exact ⟨Nat.zero_le _, ds, us, S⟩
  | cons ok act rest ih =>
    have lower := S.effort_lt ok act
    obtain ⟨ds', us', S'⟩ := S.step (Bool.and_eq_true_iff.mp ok).1 act
    obtain ⟨short, served⟩ := ih S'
    exact ⟨Nat.lt_of_le_of_lt short lower, served⟩

theorem Served.rests (S : Served a d ds us) :
    ∃ d' actions, Run (Dialogue.onward a) d actions d' ∧ Quiet a d' := by
  -- on the steps that are left: where an end still goes on, it leaves fewer
  induction h : d.effort using Nat.strongRecOn generalizing d ds us with
  | ind n ih =>
    by_cases quiet : Quiet a d
    · exact ⟨d, [], .nil d, quiet⟩
    · simp only [Quiet, Classical.not_forall] at quiet
      obtain ⟨action, ok, moves⟩ := quiet
      obtain ⟨e, act⟩ := Option.ne_none_iff_exists'.mp moves
      have lower := S.effort_lt ok act
      obtain ⟨ds', us', S'⟩ := S.step (Bool.and_eq_true_iff.mp ok).1 act
      obtain ⟨d', actions, run, rest⟩ := ih e.effort (h ▸ lower) S' rfl
      exact ⟨d', action :: actions, .cons ok act run, rest⟩

/-! ## Rest -/

theorem Quiet.controller (quiet : Quiet a d) (action : Controller.Action)
    (goes : action.goesOn = true) : d.controller.act d.up action = none := by
  have allowed : onward a d (.controller action) = true := by
    cases action with
    | advance i => rfl
    | hear | pass => rfl
    | _ => cases goes
  simpa [act] using quiet _ allowed

theorem Quiet.agent (quiet : Quiet a d) (action : Agent.Action) (goes : action.goesOn = true)
    (short : action.short = true) : d.agent.act d.down action = none := by
  have allowed : onward a d (.agent action) = true := by
    cases action with
    | hear | pass | takeUp i | answer i => rfl
    | handle i result => simpa [onward, routine, addressing, Action.goesOn] using ⟨short, goes⟩
    | _ => cases goes
  simpa [act] using quiet _ allowed

theorem length_awaited_le (current : Option (Command × Controller.Call)) :
    (Controller.awaited current).length ≤ 1 := by
  rcases current with - | ⟨command, call⟩
  · exact Nat.zero_le _
  · cases call <;> simp [Controller.awaited]

theorem Served.agent_room (S : Served a d ds us) {command : PendingCommand}
    (hr : d.agent.endpoint.receiving = some command) :
    (d.agent.endpoint.slots.get command.stream).item = none := by
  obtain ⟨finished, current, l⟩ : ∃ finished current, LedgerOn d command.stream finished current :=
    S.balanced command.stream
  have tokens := S.tokens l
  have one := length_awaited_le current
  cases hi : (d.agent.endpoint.slots.get command.stream).item with
  | none => rfl
  | some body =>
    have two : d.agent.endpoint.waitingOn command.stream = [body, command.body] := by
      simp [Agent.waitingOn, hr, hi, Option.filter]
    simp only [commandsOn, two, List.length_append, List.length_cons, List.length_nil] at tokens
    omega

theorem Served.controller_room (S : Served a d ds us) {response : PendingResponse}
    (hr : d.controller.endpoint.receiving = some response) :
    (d.controller.endpoint.slots.get response.stream).item = none := by
  obtain ⟨finished, current, l⟩ : ∃ finished current, LedgerOn d response.stream finished current :=
    S.balanced response.stream
  have tokens := S.tokens l
  have one := length_awaited_le current
  cases hi : (d.controller.endpoint.slots.get response.stream).item with
  | none => rfl
  | some body =>
    have two : d.controller.endpoint.waitingOn response.stream = [body, response.body] := by
      simp [Controller.waitingOn, hr, hi, Option.filter]
    simp only [responsesOn, two, List.length_append, List.length_cons, List.length_nil] at tokens
    omega

/-- Where no end goes on, nothing is on its way to the agent or back. -/
theorem Served.commandsOn_of_quiet (S : Served a d ds us) (quiet : Quiet a d)
    (stream : StreamId) :
    d.commandsOn stream = [] ∧ d.agent.endpoint.answeringOn stream = [] := by
  have whole : d.agent.endpoint.Addressed (ds.take d.agent.heard) :=
    fun p hp => S.tracked.addressed p (List.mem_of_mem_take hp)
  obtain ⟨all, rest⟩ := Agent.Host.rests_of_quiet S.serves S.tracked.routed whole
    (fun _ => S.agent_room) quiet.agent
  obtain ⟨waiting, handling, answering⟩ := rest stream
  have sent : d.toAgent = [] := List.drop_eq_nil_iff.mpr all
  refine ⟨?_, answering⟩
  rw [commandsOn, handling, waiting, sent]
  rfl

theorem Served.toController_of_quiet (S : Served a d ds us) (quiet : Quiet a d) :
    d.controller.endpoint.receiving = none ∧ d.toController = [] := by
  have free : d.controller.endpoint.receiving = none := by
    cases hr : d.controller.endpoint.receiving with
    | none => rfl
    | some response =>
      obtain ⟨c, hc⟩ := Controller.Host.deliver_of_room hr (S.controller_room hr)
      have stays := quiet.controller .pass rfl
      simp [Controller.Host.act, hc] at stays
  refine ⟨free, List.drop_eq_nil_iff.mpr ?_⟩
  have stays := quiet.controller .hear rfl
  simpa [Controller.Host.act, free] using stays

/-- A request that still waits has its command or its response somewhere, and some end goes on. -/
theorem Served.settled (S : Served a d ds us) (quiet : Quiet a d) (stream : StreamId) :
    Settled d stream := by
  obtain ⟨finished, current, l⟩ : ∃ finished current, LedgerOn d stream finished current :=
    S.balanced stream
  obtain ⟨commands, answering⟩ := S.commandsOn_of_quiet quiet stream
  obtain ⟨free, arrived⟩ := S.toController_of_quiet quiet
  have tokens := S.tokens l
  -- all places are empty, so that nobody can be waiting
  have none_left : current = none := by
    rcases current with - | ⟨command, call⟩
    · rfl
    · obtain ⟨awaits, empty⟩ := Controller.Host.waits_of_quiet
        (fun i => quiet.controller (.advance i) rfl) l
      simp [awaits, commands, responsesOn, Controller.waitingOn, empty, free, arrived,
        answering] at tokens
  subst none_left
  constructor
  · apply (S.answered stream).handled.eq_of_length
    have sent := congrArg List.length (S.sent l)
    have handled := congrArg List.length (S.serves.handled stream)
    have handling : d.agent.endpoint.handlingOn stream = [] := by
      simpa using (List.append_eq_nil_iff.mp commands).1
    rw [l.requests]
    simp only [commands, handling, Controller.awaited, List.append_nil, List.length_map,
      Option.toList_none, List.map_nil] at sent handled ⊢
    omega
  · intro r hr
    rw [l.requests] at hr
    rcases List.mem_append.mp hr with hr | hr
    · obtain ⟨f, -, rfl⟩ := List.mem_map.mp hr
      exact ⟨_, rfl⟩
    · cases hr

/-- Requests are made on the open streams of an agent, one after the other on each stream, with
syncs and events in between, over links that take every frame. At every moment each stream's
requests have been handled in their order, and each that has returned has returned what the handler
answered to its own command. However the ends and the handler go on from there, they rest after at
most `effort` steps, and where they rest the handler was invoked exactly once for each request and
every request has returned. -/
theorem requests_answered (config : ControllerConfig) (seed : UInt32) (agentConfig : AgentConfig)
    (link : L) (agentLink : M) (hl : FrameLink.taken link = [])
    (hm : FrameLink.taken agentLink = []) (ready : FrameLink.Ready link)
    (agentReady : FrameLink.Ready agentLink) (a : Agent M)
    (prepared : Agent.Prepared agentLink agentConfig a) (d : Dialogue L M) (actions : List Action)
    (run : Run (routine a) (ofEnds (Controller.start link config seed) a) actions d) :
    (∀ stream, Answered d stream) ∧
      (∃ d' more, Run (onward a) d more d' ∧ Quiet a d') ∧
      ∀ d' more, Run (onward a) d more d' → more.length ≤ d.effort ∧
        (∀ stream, Answered d' stream) ∧ (Quiet a d' → ∀ stream, Settled d' stream) := by
  obtain ⟨ds, us, S⟩ := Served.of_run hl hm ready agentReady config seed prepared run
  refine ⟨S.answered, S.rests, fun d' more going => ?_⟩
  obtain ⟨short, ds', us', S'⟩ := S.onward going
  exact ⟨short, S'.answered, S'.settled⟩

/-! ## A run -/

/-- The stream that is opened first. -/
def second : StreamId := ⟨1, by decide⟩

/-- An agent that has opened a stream beside the control stream. -/
def twoStreams : Agent ScriptedLink :=
  (Agent.Call.step (Agent.start ⟨[], []⟩ ⟨"1.0", true⟩).2 none (.openStart second)).1

/-- A request on each of two streams and a sync. The responses come in the other order, and one of
them is an error. -/
def overlapping : List Action :=
  [.controller (.begin (.request ⟨StreamId.control, ⟨5, 1, 0⟩, [1]⟩ none)),
    .controller (.begin (.request ⟨second, ⟨5, 2, 0⟩, []⟩ none)),
    .controller (.begin (.sync (.ofMillis 100)))] ++
  [1, 1, 0, 0, 2, 2, 2, 2, 2].map (.controller <| .advance ·) ++
  [.agent .hear, .agent .pass, .agent (.takeUp 1), .agent (.event ⟨1, 2⟩ []), .agent .hear,
    .agent .pass, .agent .hear, .agent (.takeUp 0), .agent (.handle 0 (.ok [8])),
    .agent (.answer 0), .agent (.handle 1 (.error .timeout)), .agent (.answer 1)] ++
  [.controller .hear, .controller .hear, .controller .hear, .controller .hear, .controller .pass,
    .controller .hear, .controller .pass] ++
  [0, 1, 2, 2].map (.controller <| .advance ·)

theorem requests_answered_overlapping :
    ∃ d : Dialogue ScriptedLink ScriptedLink,
      (ofEnds (Controller.start ⟨[], []⟩ ⟨none, .ofMillis 20⟩ 0) twoStreams).perform
        (routine twoStreams) overlapping = some d ∧
      d.controller.requestsOn StreamId.control =
        [(⟨StreamId.control, ⟨5, 1, 0⟩, [1]⟩, .returned (.ok (.payload [8])))] ∧
      d.controller.requestsOn second =
        [(⟨second, ⟨5, 2, 0⟩, []⟩, .returned (.error (.agent .timeout)))] ∧
      (∀ stream, Answered d stream) ∧
      ∃ d' more, Run (onward twoStreams) d more d' ∧ ∀ stream, Settled d' stream := by
  obtain ⟨d, hd, zero, one⟩ : ∃ d : Dialogue ScriptedLink ScriptedLink,
      (ofEnds (Controller.start ⟨[], []⟩ ⟨none, .ofMillis 20⟩ 0) twoStreams).perform
        (routine twoStreams) overlapping = some d ∧
      d.controller.requestsOn StreamId.control =
        [(⟨StreamId.control, ⟨5, 1, 0⟩, [1]⟩, .returned (.ok (.payload [8])))] ∧
      d.controller.requestsOn second =
        [(⟨second, ⟨5, 2, 0⟩, []⟩, .returned (.error (.agent .timeout)))] := ⟨_, rfl, rfl, rfl⟩
  have prepared : Agent.Prepared (⟨[], []⟩ : ScriptedLink) ⟨"1.0", true⟩ twoStreams :=
    .call .start .openStream (.next rfl (.done rfl))
  obtain ⟨answered, ⟨d', more, going, quiet⟩, onward⟩ :=
    requests_answered ⟨none, .ofMillis 20⟩ 0 ⟨"1.0", true⟩ (⟨[], []⟩ : ScriptedLink)
      (⟨[], []⟩ : ScriptedLink) rfl rfl rfl rfl twoStreams prepared d _ (.of_perform hd)
  exact ⟨d, hd, zero, one, answered, d', more, going, (onward d' more going).2.2 quiet⟩

end Dialogue
end CommandLink
