import CommandLink.Proofs.Agent.Service
import CommandLink.Proofs.Controller.Requests
import CommandLink.Proofs.Dialogue.FailedSends

/-! # Requests and their invocations

Requests are made on the open streams of an agent, one after the other on each stream, over links
that take every frame. What was sent, handled, answered and returned on a stream can then be added
up: of the requests on a stream at most one is under way, and its command or response is in exactly
one place (`Dialogue.Served.tokens`). Each request therefore gets the answer to its own command
(`Dialogue.Served.answered`). -/

namespace CommandLink

/-- The invocation that a command asks for. -/
def Command.invocation (c : Command) : Invocation := ⟨c.stream, c.id, c.payload⟩

/-- The invocation on a stream that a command frame's payload asks for. -/
def Invocation.ofBody (stream : StreamId) (body : Octets) : Invocation :=
  match CommandHeader.decode body with
  | .ok header => ⟨stream, header.id, body.drop payloadHeaderSize⟩
  | .error _ => ⟨stream, CommandId.zero, []⟩

theorem Invocation.ofBody_body {i : Invocation} {stream : StreamId} (h : i.stream = stream) :
    Invocation.ofBody stream i.body = i := by
  subst h
  rfl

/-- What a request returns when the handler answers its command so. -/
def reply : Except Status Octets → Except EndpointError Controller.Answer
  | .ok payload => .ok (.payload payload)
  | .error status => if status = .ok then .ok (.payload []) else .error (.agent status)

theorem Status.code_eq_zero {s : Status} : s.code = 0 ↔ s = .ok := by
  constructor
  · intro h
    rw [← Status.ofCode_code s, h]
    rfl
  · rintro rfl
    rfl

theorem reading_of_own (c : Command) (status : Status) (payload : Octets) :
    Controller.reading c ((ResponseHeader.of c.id status).encode ++ payload) =
      if status = .ok then .ok (.payload payload) else .error (.agent status) := by
  have drop : List.drop payloadHeaderSize
      ((ResponseHeader.of c.id status).encode ++ payload) = payload := rfl
  simp only [Controller.reading, Controller.Listening.read, Controller.Listening.forBytes,
    ResponseHeader.decode_encode_append, drop]
  by_cases hs : status = .ok
  · subst hs
    simp [ResponseHeader.of, Status.code, Except.map]
  · simp [ResponseHeader.of, ResponseHeader.status, Status.code_eq_zero, hs, Except.map]

theorem reading_responsePayload (c : Command) (result : Except Status Octets) :
    Controller.reading c (Agent.responsePayload c.id result) = reply result := by
  cases result with
  | ok payload => exact reading_of_own c .ok payload
  | error status =>
    have own := reading_of_own c status []
    rwa [List.append_nil] at own

namespace Dialogue

/-- Requests on the open streams and syncs, events, and answers that a response can carry. No
request times out or is given up, no reset is requested, and no stream is opened or closed. -/
def routine (a : Agent M) (d : Dialogue L M) (action : Action) : Bool :=
  addressing a d action &&
    match action with
    | .controller action => d.controller.permits action
    | .agent action => action.short

variable {L M : Type} [FrameLink L] [FrameLink M]

/-- Both ends keep to the routine. -/
structure Served (a : Agent M) (d : Dialogue L M) (ds us : List Post) : Prop where
  tracked : Tracked a d ds us
  orderly : d.controller.Orderly
  balanced : d.controller.Balanced d.up
  serves : d.agent.Serves

variable {a : Agent M} {d d' : Dialogue L M} {ds us : List Post}

theorem Served.undisturbed (S : Served a d ds us) : Undisturbed d :=
  S.tracked.undisturbed (Controller.forecast_of_ok fun b hb => (S.orderly.attempts b hb).1)

theorem Served.noReset (S : Served a d ds us) : ∀ p ∈ ds, p.kind ≠ .agentReset := by
  intro p hp hk
  have here : p.kind ∈ (Controller.delivered d.controller.attempts).map Controller.Message.kind :=
    S.tracked.foretold.kinds ▸ List.mem_map_of_mem hp
  obtain ⟨m, hm, e⟩ := List.mem_map.mp here
  obtain ⟨⟨message, outcome⟩, hb, eq⟩ := List.mem_filterMap.mp hm
  have mild := S.orderly.attempts _ hb
  obtain rfl : outcome = .ok () := mild.1
  obtain rfl : message = m := Option.some.inj eq
  cases message with
  | reset => exact mild.2 rfl
  | command c => exact nomatch e.trans hk
  | sync => exact nomatch e.trans hk

/-! ## What is on its way -/

/-- The commands on a stream that were sent and not answered, in the order in which they were
sent. -/
def commandsOn (d : Dialogue L M) (stream : StreamId) : List Octets :=
  (d.agent.endpoint.handlingOn stream).map Invocation.body ++
    (d.agent.endpoint.waitingOn stream ++ d.toAgent.filterMap (payloadIn .command stream))

/-- The responses on a stream that no request has returned. -/
def responsesOn (d : Dialogue L M) (stream : StreamId) : List Octets :=
  d.controller.endpoint.waitingOn stream ++
    (d.toController.filterMap (payloadIn .response stream) ++ d.agent.endpoint.answeringOn stream)

variable {stream : StreamId} {finished : List (Command × Octets)}
  {current : Option (Command × Controller.Call)}

abbrev LedgerOn (d : Dialogue L M) (stream : StreamId) (finished : List (Command × Octets))
    (current : Option (Command × Controller.Call)) : Prop :=
  Controller.Ledger d.controller (d.controller.repliesOn d.up stream) stream finished current

/-- What was sent on a stream is what was answered and what is not answered yet. -/
theorem Served.sent (S : Served a d ds us) (l : LedgerOn d stream finished current) :
    finished.map (·.1.body) ++ Controller.awaited current =
      (d.agent.outcomesOn stream).map (·.invocation.body) ++ d.commandsOn stream := by
  rw [← l.sent, S.undisturbed.arrives, S.serves.handled, List.map_append, List.map_map, commandsOn]
  simp only [List.append_assoc]
  rfl

/-- What was answered on a stream is what was returned and what is not returned yet. -/
theorem Served.replied (S : Served a d ds us) (l : LedgerOn d stream finished current) :
    (d.agent.outcomesOn stream).map Agent.Outcome.payload =
      finished.map Prod.snd ++ d.responsesOn stream := by
  have heard : d.agent.responsesOn stream = d.controller.repliesOn d.up stream ++
      d.toController.filterMap (payloadIn .response stream) := by
    rw [Controller.Host.repliesOn, toController, ← List.filterMap_append, List.take_append_drop]
    rfl
  rw [← S.serves.answered, heard, l.replies, responsesOn]
  simp only [List.append_assoc]

/-- A request that waits has its command or its response in exactly one place. -/
theorem Served.tokens (S : Served a d ds us) (l : LedgerOn d stream finished current) :
    (Controller.awaited current).length =
      (d.commandsOn stream).length + (d.responsesOn stream).length := by
  have sent := congrArg List.length (S.sent l)
  have replied := congrArg List.length (S.replied l)
  simp only [List.length_append, List.length_map] at sent replied
  omega

/-- Nothing is waiting where a request begins. -/
theorem Served.clear (S : Served a d ds us) {c : Command} {timeout : Option Duration}
    (l : LedgerOn d stream finished (some (c, .discard c timeout))) :
    d.controller.endpoint.waitingOn stream = [] := by
  have tokens := S.tokens l
  have none_left : d.responsesOn stream = [] := by
    rw [← List.length_eq_zero_iff]
    simp only [Controller.awaited, List.length_nil] at tokens
    omega
  exact (List.append_eq_nil_iff.mp none_left).1

/-! ## Answers -/

/-- The requests on a stream are handled in their order, and each of them that has returned has
returned what the handler answered to it. -/
structure Answered (d : Dialogue L M) (stream : StreamId) : Prop where
  handled : d.agent.endpoint.invocationsOn stream <+:
    (d.controller.requestsOn stream).map (·.1.invocation)
  returned : ∀ (i : Nat) (command : Command) result,
    (d.controller.requestsOn stream)[i]? = some (command, Controller.Standing.returned result) →
    ∃ o : Agent.Outcome, (d.agent.outcomesOn stream)[i]? = some o ∧
      o.invocation = command.invocation ∧
      (d.agent.endpoint.invocationsOn stream)[i]? = some o.invocation ∧ result = reply o.result

theorem Served.handled (S : Served a d ds us) (l : LedgerOn d stream finished current) :
    d.agent.endpoint.invocationsOn stream <+:
      (d.controller.requestsOn stream).map (·.1.invocation) := by
  have arrived : (d.agent.endpoint.invocationsOn stream).map Invocation.body <+:
      finished.map (·.1.body) ++ Controller.awaited current := by
    rw [← l.sent, S.undisturbed.arrives, List.append_assoc]
    exact List.prefix_append _ _
  have asked : finished.map (·.1.body) ++ Controller.awaited current <+:
      (d.controller.requestsOn stream).map (·.1.body) := by
    rw [l.requests, List.map_append, List.map_map]
    refine (List.prefix_append_right_inj _).mpr ?_
    rcases current with - | ⟨command, call⟩
    · exact List.prefix_refl _
    · cases call <;> simp [Controller.awaited]
  have found := (arrived.trans asked).map (Invocation.ofBody stream)
  rw [List.map_map, List.map_map] at found
  have left : (d.agent.endpoint.invocationsOn stream).map
      (Invocation.ofBody stream ∘ Invocation.body) = d.agent.endpoint.invocationsOn stream := by
    refine (List.map_congr_left fun i hi => ?_).trans (List.map_id _)
    exact Invocation.ofBody_body (by simpa using (List.mem_filter.mp hi).2)
  have right : (d.controller.requestsOn stream).map (Invocation.ofBody stream ∘ (·.1.body)) =
      (d.controller.requestsOn stream).map (·.1.invocation) :=
    List.map_congr_left fun r hr =>
      Invocation.ofBody_body (i := r.1.invocation) (Controller.Host.stream_of_mem_requestsOn hr)
  rwa [left, right] at found

theorem Served.answered (S : Served a d ds us) (stream : StreamId) : Answered d stream := by
  obtain ⟨finished, current, l⟩ : ∃ finished current, LedgerOn d stream finished current :=
    S.balanced stream
  refine ⟨S.handled l, fun i command result h => ?_⟩
  obtain ⟨body, hf, rfl⟩ := l.returned h
  -- the answers and the commands on the stream are lined up, each with the request at its place
  have payload : ((d.agent.outcomesOn stream).map Agent.Outcome.payload)[i]? = some body := by
    rw [S.replied l]
    exact getElem?_append_of_some (by simp [hf]) _
  rw [List.getElem?_map] at payload
  obtain ⟨o, ho, rfl⟩ := Option.map_eq_some_iff.mp payload
  have command_body : o.invocation.body = command.body := by
    have left := getElem?_append_of_some (l := finished.map (·.1.body)) (i := i)
      (x := command.body) (by simp [hf]) (Controller.awaited current)
    have right := getElem?_append_of_some (l := (d.agent.outcomesOn stream).map (·.invocation.body))
      (i := i) (x := o.invocation.body) (by simp [ho]) (d.commandsOn stream)
    rw [S.sent l, right] at left
    exact Option.some.inj left
  have own : o.invocation = command.invocation := by
    have on : o.invocation.stream = stream := by
      simpa using (List.mem_filter.mp (List.mem_of_getElem? ho)).2
    have asked : command.stream = stream :=
      Controller.Host.stream_of_mem_requestsOn (List.mem_of_getElem? h)
    have found : Invocation.ofBody stream o.invocation.body =
        Invocation.ofBody stream command.invocation.body := congrArg _ command_body
    rwa [Invocation.ofBody_body on, Invocation.ofBody_body asked] at found
  refine ⟨o, ho, own, ?_, ?_⟩
  · rw [S.serves.handled]
    exact getElem?_append_of_some (by simp [ho]) _
  · rw [Agent.Outcome.payload, own]
    exact reading_responsePayload command o.result

/-! ## Steps -/

theorem Served.controller (S : Served a d ds us) {action : Controller.Action}
    {c : Controller.Host L} (h : d.controller.act d.up action = some c)
    (ok : routine a d (.controller action) = true) :
    ∃ ps, Served a { d with controller := c } (ds ++ ps) us := by
  simp only [routine, Bool.and_eq_true] at ok
  obtain ⟨ps, T⟩ := S.tracked.controller h fun command e => by simpa [addressing, e] using ok.1
  have H := S.tracked.heeds
  have smooth := (S.tracked.up S.noReset).smooth
  have balanced := S.balanced
  have clear : ∀ stream finished c timeout,
      LedgerOn d stream finished (some (c, .discard c timeout)) →
      d.controller.endpoint.waitingOn stream = [] := fun _ _ _ _ => S.clear
  simp only [LedgerOn, H.up] at h balanced clear
  obtain ⟨orderly, balanced'⟩ := Controller.Host.requests_act h ok.2 S.orderly balanced clear
    H.onStart fun free p hp => by
      rw [H.controller_inbound free]
      exact verdict_next_of_smooth smooth hp
  refine ⟨ps, T, orderly, ?_, S.serves⟩
  rw [← H.up] at balanced'
  exact balanced'

theorem Served.agent (S : Served a d ds us) {action : Agent.Action} {h : Agent.Host M}
    (ha : d.agent.act d.down action = some h) (ok : routine a d (.agent action) = true) :
    ∃ qs, Served a { d with agent := h } ds (us ++ qs) := by
  simp only [routine, Bool.and_eq_true] at ok
  have calls : ∀ errand caller, action ≠ .begin errand caller := by
    rintro errand caller rfl
    simp [addressing] at ok
  obtain ⟨qs, T⟩ := S.tracked.agent ha calls
  have H := S.tracked.heeds
  rw [H.down] at ha
  have serves := Agent.Host.serves_act ha S.tracked.threads calls ok.2 S.tracked.addressed
    S.tracked.routed S.serves
  refine ⟨qs, T, S.orderly, S.balanced.congr ?_, serves⟩
  rw [T.heeds.up, H.up, List.map_append]
  exact List.take_append_of_le_length (by simpa using H.heardUp_le)

theorem Served.step (S : Served a d ds us) {action : Action} (ok : routine a d action = true)
    (h : d.act action = some d') : ∃ ds us, Served a d' ds us := by
  cases action with
  | controller action =>
    obtain ⟨c, hc, rfl⟩ := Option.map_eq_some_iff.mp h
    obtain ⟨ps, S'⟩ := S.controller hc ok
    exact ⟨_, us, S'⟩
  | agent action =>
    obtain ⟨h', ha, rfl⟩ := Option.map_eq_some_iff.mp h
    obtain ⟨qs, S'⟩ := S.agent ha ok
    exact ⟨ds, _, S'⟩

/-! ## From the start -/

theorem served_start {link : L} {agentLink : M} {agentConfig : AgentConfig}
    (hl : FrameLink.taken link = []) (hm : FrameLink.taken agentLink = [])
    (ready : FrameLink.Ready link) (agentReady : FrameLink.Ready agentLink)
    (config : ControllerConfig) (seed : UInt32)
    (prepared : Agent.Prepared agentLink agentConfig a) :
    ∃ us, Served a (ofEnds (Controller.start link config seed) a) [] us := by
  obtain ⟨us, T⟩ := tracked_start hl hm config seed prepared
  refine ⟨us, T, ⟨rfl, ready, fun _ h => (List.not_mem_nil h).elim, fun stream => ?_,
    fun _ h => (List.not_mem_nil h).elim⟩, fun stream => ⟨[], none, rfl, rfl, ?_,
      fun _ h => (Option.not_mem_none _ h).elim⟩,
    Agent.Host.serves_of_prepared prepared hm agentReady⟩
  · simp [ofEnds, Controller.Host.ofController, Controller.start, Slot.empty]
  · simp [ofEnds, Controller.Host.ofController, Controller.start, Controller.Host.repliesOn,
      Controller.waitingOn, Slot.empty]

theorem Served.of_run {link : L} {agentLink : M} {agentConfig : AgentConfig}
    (hl : FrameLink.taken link = []) (hm : FrameLink.taken agentLink = [])
    (ready : FrameLink.Ready link) (agentReady : FrameLink.Ready agentLink)
    (config : ControllerConfig) (seed : UInt32)
    (prepared : Agent.Prepared agentLink agentConfig a) {actions : List Action}
    (run : Run (routine a) (ofEnds (Controller.start link config seed) a) actions d) :
    ∃ ds us, Served a d ds us := by
  refine run.preserves (I := fun d => ∃ ds us, Served a d ds us) ?_
    ⟨[], served_start hl hm ready agentReady config seed prepared⟩
  rintro d action d' ⟨ds, us, S⟩ ok h
  exact S.step ok h

end Dialogue
end CommandLink
