import CommandLink.Proofs.Agent.Attendance
import CommandLink.Proofs.Agent.Progress

/-! # Commands and their answers

Whatever arrives at an agent, and whatever its handler returns, the commands that are accepted on a
stream that stays open are taken up one after the other, each of them once. The handler is asked
about those that are long enough to have a header. Each of them is answered with one response, in
the order in which they came (`Agent.Host.accepted_answered`), with one exception: where the handler
returns a payload that a response cannot carry, nothing is sent
(`Agent.Host.oversized_unanswered`). -/

namespace CommandLink
namespace Agent

/-! ## Commands that are accepted -/

/-- The command on a stream in what has arrived. -/
def commandOn (stream : StreamId) (r : Inbound) (octets : Octets) : Option Octets :=
  ((commandIn r octets).filter (·.1 = stream)).map (·.2)

/-- The commands on a stream that an agent which remembers `r` accepts of what arrives: all but
repeats. -/
def commandsOn (stream : StreamId) : Inbound → List Octets → List Octets
  | _, [] => []
  | r, octets :: arrivals =>
    (commandOn stream r octets).toList ++ commandsOn stream (r.afterArrival octets) arrivals

theorem commandsOn_concat (stream : StreamId) (r : Inbound) (arrivals : List Octets)
    (octets : Octets) : commandsOn stream r (arrivals ++ [octets]) =
      commandsOn stream r arrivals ++
        (commandOn stream (arrivals.foldl Inbound.afterArrival r) octets).toList := by
  induction arrivals generalizing r with
  | nil => simp [commandsOn]
  | cons o arrivals ih => simp only [List.cons_append, commandsOn, ih, List.foldl_cons,
      List.append_assoc]

variable {L : Type} {a b : Agent L} {stream : StreamId} {i : WorkerId}

/-- What an agent remembers once it has passed on what it holds. -/
def memory (a : Agent L) : Inbound := a.ear.pass.inbound

theorem memory_of_free (h : a.receiving = none) : a.memory = a.inbound := by
  simp [memory, ear, Ear.of, Ear.pass, h]

theorem waitingOn_receive [FrameLink L] (free : a.receiving = none)
    (opened : a.isOpen stream = true) (octets : Octets) :
    (a.receive (some octets)).waitingOn stream =
      a.waitingOn stream ++ (commandOn stream a.inbound octets).toList := by
  have held := (receive_memory free octets).2
  have slots := (a.receive_aside octets).slots
  generalize a.receive (some octets) = b at held slots
  have found : (b.receiving.filter (·.stream == stream)).map PendingCommand.body =
      commandOn stream a.inbound octets := by
    have pair : (b.receiving.filter (·.stream == stream)).map PendingCommand.body =
        ((b.receiving.map fun c => (c.stream, c.body)).filter (·.1 = stream)).map (·.2) := by
      cases b.receiving with
      | none => rfl
      | some c => by_cases hs : c.stream = stream <;> simp [Option.filter, hs]
    rw [pair, held, commandOn]
    cases commandIn a.inbound octets with
    | none => rfl
    | some c =>
      by_cases hs : c.1 = stream
      · simp [Option.filter, hs, opened]
      · by_cases ho : a.isOpen c.1 = true <;> simp [Option.filter, hs, ho]
  rw [waitingOn, waitingOn, slots, found, free]
  simp

/-! ## Answers -/

/-- A command with what its handler has returned. One that is too short for a header has no handler
and counts as an error. -/
structure Answered where
  body : Octets
  result : Except Status Octets

namespace Answered

/-- What the handler was asked and has returned. -/
def outcome? (stream : StreamId) (x : Answered) : Option Outcome :=
  (invocationOf stream x.body).map fun invocation => ⟨invocation, x.result⟩

/-- The payload of the response, with the name of the command if it has one. -/
def response (x : Answered) : Octets :=
  match CommandHeader.decode x.body with
  | .ok header => responsePayload header.id x.result
  | .error _ => responsePayload CommandId.zero (.error .error)

/-- A response can carry what the handler has returned. -/
def carried (x : Answered) : Bool :=
  match x.result with
  | .ok payload => payload.length ≤ payloadLimit
  | .error _ => true

end Answered

theorem length_responsePayload_le_iff (id : CommandId) (result : Except Status Octets) :
    (responsePayload id result).length ≤ Frame.maxPayload ↔
      ∀ payload, result = .ok payload → payload.length ≤ payloadLimit := by
  constructor
  · rintro fits payload rfl
    simp only [responsePayload, List.length_append, ResponseHeader.length_encode,
      payloadHeaderSize, Frame.maxPayload, Frame.maxSize, Header.size] at fits
    simp only [payloadLimit]
    omega
  · exact length_responsePayload_le

theorem carried_iff (body : Octets) (id : CommandId) (result : Except Status Octets) :
    (⟨body, result⟩ : Answered).carried = true ↔
      (responsePayload id result).length ≤ Frame.maxPayload := by
  rw [length_responsePayload_le_iff]
  cases result <;> simp [Answered.carried]

/-- The response to a command that is long enough, and whether it can be sent. -/
theorem Answered.of_invocation {body : Octets} {invocation : Invocation}
    (h : invocationOf stream body = some invocation) (result : Except Status Octets) :
    [responsePayload invocation.id result].filter (·.length ≤ Frame.maxPayload) =
      ([(⟨body, result⟩ : Answered)].filter carried).map response := by
  have response : response ⟨body, result⟩ = responsePayload invocation.id result := by
    unfold invocationOf at h
    unfold Answered.response
    split at h
    · next header hd =>
      cases h
      simp only [hd]
    · cases h
  by_cases fits : (responsePayload invocation.id result).length ≤ Frame.maxPayload
  · simp [fits, (carried_iff body invocation.id result).mpr fits, response]
  · have lost : (⟨body, result⟩ : Answered).carried = false :=
      Bool.eq_false_iff.mpr fun h => fits ((carried_iff body invocation.id result).mp h)
    simp [fits, lost]

/-- The response to a command that is too short. -/
theorem Answered.of_short {body : Octets} (h : invocationOf stream body = none) :
    [responsePayload CommandId.zero (.error .error)].filter (·.length ≤ Frame.maxPayload) =
      ([(⟨body, .error .error⟩ : Answered)].filter carried).map response := by
  have response : response ⟨body, .error .error⟩ =
      responsePayload CommandId.zero (.error .error) := by
    unfold invocationOf at h
    unfold Answered.response
    split at h
    · cases h
    · next hd => simp only [hd]
  simp only [List.filter_cons, List.filter_nil, carried, if_true, List.map_cons, List.map_nil,
    response]
  rfl

namespace Host

variable [FrameLink L]

/-- What has become of the commands on a stream on the way from `h₀` to `h`, while `arrivals` has
arrived: those that are answered, and the one that the handler has in hand. -/
structure Account (h₀ h : Host L) (arrivals : List Octets) (stream : StreamId)
    (answered : List Answered) (hand : List Octets) : Prop where
  accepted : h₀.endpoint.waitingOn stream ++ commandsOn stream h₀.endpoint.memory arrivals =
    answered.map Answered.body ++ hand ++ h.endpoint.waitingOn stream
  inHand : hand.map (invocationOf stream) = (h.endpoint.handlingOn stream).map some
  invocations : h.endpoint.invocationsOn stream = h₀.endpoint.invocationsOn stream ++
    (answered.map Answered.body ++ hand).filterMap (invocationOf stream)
  outcomes : h.outcomesOn stream = h₀.outcomesOn stream ++
    answered.filterMap (Answered.outcome? stream)
  responses : h.responsesOn stream ++
      (h.endpoint.answeringOn stream).filter (·.length ≤ Frame.maxPayload) =
    h₀.responsesOn stream ++ (answered.filter Answered.carried).map Answered.response

variable {h₀ h h' : Host L} {arrivals : List Octets} {answered : List Answered}
  {hand : List Octets}

theorem Account.refl (idle : h.endpoint.phaseOn stream = some .waiting) :
    Account h h [] stream [] [] := by
  have handling : h.endpoint.handlingOn stream = [] := by rw [handlingOn, idle]; rfl
  have answering : h.endpoint.answeringOn stream = [] := by rw [answeringOn, idle]; rfl
  exact ⟨by simp [commandsOn], by rw [handling]; rfl, by simp, by simp, by rw [answering]; simp⟩

theorem Account.of_phase {phase : WorkerPhase} (now : h.endpoint.phaseOn stream = some phase)
    (accepted : h₀.endpoint.waitingOn stream ++
      commandsOn stream h₀.endpoint.memory arrivals =
        answered.map Answered.body ++ hand ++ h.endpoint.waitingOn stream)
    (inHand : hand.map (invocationOf stream) = phase.inHand.map some)
    (invocations : h.endpoint.invocationsOn stream = h₀.endpoint.invocationsOn stream ++
      (answered.map Answered.body ++ hand).filterMap (invocationOf stream))
    (outcomes : h.outcomesOn stream = h₀.outcomesOn stream ++
      answered.filterMap (Answered.outcome? stream))
    (responses : h.responsesOn stream ++ phase.due.filter (·.length ≤ Frame.maxPayload) =
      h₀.responsesOn stream ++ (answered.filter Answered.carried).map Answered.response) :
    Account h₀ h arrivals stream answered hand :=
  ⟨accepted, by simpa [handlingOn, now] using inHand, invocations, outcomes,
    by simpa [answeringOn, now] using responses⟩

/-- Nothing happens on the stream. -/
theorem Account.same (C : Account h₀ h arrivals stream answered hand)
    (on : SameOn h.endpoint h'.endpoint stream)
    (invocations : h'.endpoint.invocationsOn stream = h.endpoint.invocationsOn stream)
    (outcomes : h'.outcomesOn stream = h.outcomesOn stream)
    (responses : h'.responsesOn stream = h.responsesOn stream) :
    Account h₀ h' arrivals stream answered hand := by
  obtain ⟨phase, waiting⟩ := on
  constructor
  · rw [waiting]
    exact C.accepted
  · rw [handlingOn, phase]
    exact C.inHand
  · rw [invocations]
    exact C.invocations
  · rw [outcomes]
    exact C.outcomes
  · rw [responses, answeringOn, phase]
    exact C.responses

/-- What the command in hand and the response that is due are while the worker is in a phase. -/
theorem Account.here (C : Account h₀ h arrivals stream answered hand) {phase : WorkerPhase}
    (now : h.endpoint.phaseOn stream = some phase) :
    hand.map (invocationOf stream) = phase.inHand.map some ∧
      h.responsesOn stream ++ phase.due.filter (·.length ≤ Frame.maxPayload) =
        h₀.responsesOn stream ++ (answered.filter Answered.carried).map Answered.response := by
  have inHand := C.inHand
  have responses := C.responses
  simp only [handlingOn, answeringOn, now, Option.toList_some, List.flatMap_singleton] at *
  exact ⟨inHand, responses⟩

/-! ## Steps -/

/-- What is sent beside responses is none. -/
theorem responses_of_aside (H : Aside a b) (stream : StreamId) :
    (FrameLink.taken b.link).filterMap (payloadIn .response stream) =
      (FrameLink.taken a.link).filterMap (payloadIn .response stream) := by
  obtain ⟨frames, taken, others⟩ := H.said
  have none_said : frames.filterMap (payloadIn .response stream) = [] := by
    rw [List.filterMap_eq_nil_iff]
    intro octets ho
    have other := others octets ho
    unfold kindIn at other
    unfold payloadIn
    split
    · next header s payload hi =>
      rw [hi] at other
      exact if_neg fun h => other h.1
    · rfl
  rw [taken, List.filterMap_append, none_said, List.append_nil]

theorem sameOn_of_aside (H : Aside a b) (receiving : b.receiving = a.receiving)
    (stream : StreamId) : SameOn a b stream := by
  constructor
  · rw [phaseOn, H.serving, H.workers]
    rfl
  · rw [waitingOn, H.slots, receiving]
    rfl

/-- Notices, events and announcements. -/
theorem Account.aside (C : Account h₀ h arrivals stream answered hand)
    (H : Aside h.endpoint b) (receiving : b.receiving = h.endpoint.receiving) :
    Account h₀ { h with endpoint := b } arrivals stream answered hand :=
  C.same (sameOn_of_aside H receiving stream) (congrArg (List.filter _) H.invocations) rfl
    (responses_of_aside H stream)

theorem Account.hear (C : Account h₀ h arrivals stream answered hand)
    (free : h.endpoint.receiving = none) (opened : h.endpoint.isOpen stream = true)
    (memory : h.endpoint.memory = arrivals.foldl Inbound.afterArrival h₀.endpoint.memory)
    (octets : Octets) :
    Account h₀ { h with endpoint := h.endpoint.receive (some octets), heard := h.heard + 1 }
      (arrivals ++ [octets]) stream answered hand := by
  have H := h.endpoint.receive_aside octets
  have waiting := waitingOn_receive free opened octets
  have phase : (h.endpoint.receive (some octets)).phaseOn stream = h.endpoint.phaseOn stream := by
    rw [phaseOn, H.serving, H.workers]
    rfl
  have invocations : (h.endpoint.receive (some octets)).invocationsOn stream =
      h.endpoint.invocationsOn stream := congrArg (List.filter _) H.invocations
  constructor
  · rw [waiting, commandsOn_concat, ← memory, memory_of_free free, ← List.append_assoc,
      C.accepted]
    simp only [List.append_assoc]
  · rw [handlingOn, phase]
    exact C.inHand
  · rw [invocations]
    exact C.invocations
  · exact C.outcomes
  · rw [answeringOn, phase, responsesOn, responses_of_aside H]
    exact C.responses

theorem Account.deliver (C : Account h₀ h arrivals stream answered hand)
    (A : h.endpoint.Attended stream i) (hd : h.endpoint.deliver = some b) :
    Account h₀ { h with endpoint := b } arrivals stream answered hand := by
  have waiting := waitingOn_deliver hd fun _ _ _ => A.roomy
  obtain ⟨command, -, B, posts, smooth⟩ := deliver_cases hd
  have none_said : posts.filterMap (Post.payloadOn .response stream) = [] := by
    rw [List.filterMap_eq_nil_iff]
    intro p hp
    simp [Post.payloadOn, ne_response_of_reply (smooth.kinds p hp)]
  have responses : responsesOn { h with endpoint := b } stream = h.responsesOn stream := by
    rw [responsesOn, smooth.link, List.filterMap_append, filterMap_payloadIn, none_said,
      List.append_nil]
    rfl
  rcases B with ⟨-, B⟩ | ⟨-, -, B⟩
  all_goals
    obtain ⟨link, outbound, sent, log, eq⟩ := B.eq
    exact C.same ⟨by rw [eq]; rfl, waiting⟩ (congrArg (List.filter _) B.invocations) rfl responses

theorem Account.takeUp (C : Account h₀ h arrivals stream answered hand)
    (A : h.endpoint.Attended stream i) {j : Nat} {w : Worker}
    (hw : h.endpoint.workers[j]? = some w) (waits : w.phase = .waiting)
    (hb : h.endpoint.takeUp w = some b) :
    ∃ answered' hand', Account h₀ { h with endpoint := b } arrivals stream answered' hand' := by
  obtain ⟨slots, workers, log, eq⟩ := takeUp_eq hb
  have said : responsesOn { h with endpoint := b } stream = h.responsesOn stream := by rw [eq]; rfl
  by_cases here : w.stream = stream
  · obtain rfl : j = i := A.eq hw (by simp [waits]) here
    obtain ⟨inHand, responses⟩ := C.here (waits ▸ A.phaseOn hw)
    obtain rfl : hand = [] := List.map_eq_nil_iff.mp inHand
    obtain ⟨body, waiting, ⟨invocation, hi, phase, taken⟩ | ⟨short, phase, taken⟩⟩ :=
      A.takeUp_here hw waits hb here
    · refine ⟨answered, [body], .of_phase phase ?_ ?_ ?_ C.outcomes (said ▸ responses)⟩
      · rw [C.accepted, waiting]
        simp
      · simp [hi, WorkerPhase.inHand]
      · rw [taken, C.invocations]
        simp [hi]
    · refine ⟨answered ++ [⟨body, .error .error⟩], [], .of_phase phase ?_ rfl ?_ ?_ ?_⟩
      · rw [C.accepted, waiting]
        simp
      · rw [taken, C.invocations]
        simp [short]
      · have unasked : [(⟨body, .error .error⟩ : Answered)].filterMap
            (Answered.outcome? stream) = [] := by simp [Answered.outcome?, short]
        rw [List.filterMap_append, unasked, List.append_nil]
        exact C.outcomes
      · rw [said, List.filter_append, List.map_append, ← Answered.of_short short,
          ← List.append_assoc, ← responses]
        simp [WorkerPhase.due]
  · obtain ⟨on, invocations⟩ := A.takeUp_elsewhere hw waits hb here
    exact ⟨answered, hand, C.same on invocations rfl said⟩

theorem Account.handle (C : Account h₀ h arrivals stream answered hand)
    (A : h.endpoint.Attended stream i) {j : Nat} {s : StreamId} {invocation : Invocation}
    (hw : h.endpoint.workers[j]? = some ⟨j, s, .handling invocation⟩)
    (result : Except Status Octets) :
    ∃ answered' hand', Account h₀ { h with
      endpoint := h.endpoint.handled j invocation result
      outcomes := h.outcomes ++ [⟨invocation, result⟩] } arrivals stream answered' hand' := by
  have active : WorkerPhase.handling invocation ≠ .stopped := nofun
  obtain rfl : invocation.stream = s :=
    A.addressed _ (List.mem_of_getElem? hw) invocation (List.mem_singleton_self _)
  have phases := A.phaseOn_setPhase hw active (.answering (responsePayload invocation.id result))
  have outcomes : outcomesOn { h with
      endpoint := h.endpoint.handled j invocation result
      outcomes := h.outcomes ++ [⟨invocation, result⟩] } stream =
      h.outcomesOn stream ++ if invocation.stream = stream then [⟨invocation, result⟩] else [] := by
    rw [outcomesOn, List.filter_append, outcomesOn]
    by_cases here : invocation.stream = stream <;> simp [here]
  by_cases here : invocation.stream = stream
  · obtain rfl : j = i := A.eq hw active here
    obtain ⟨inHand, responses⟩ := C.here (A.phaseOn hw)
    rw [if_pos here] at phases outcomes
    obtain ⟨body, rfl, hi⟩ :
        ∃ body, hand = [body] ∧ invocationOf stream body = some invocation := by
      obtain ⟨body, rfl, hb⟩ := List.map_eq_singleton_iff.mp inHand
      exact ⟨body, rfl, hb⟩
    refine ⟨answered ++ [⟨body, result⟩], [], .of_phase phases ?_ rfl ?_ ?_ ?_⟩
    · rw [List.map_append, List.append_nil]
      exact C.accepted
    · rw [List.map_append, List.append_nil]
      exact C.invocations
    · rw [outcomes, C.outcomes, List.filterMap_append, List.append_assoc]
      simp [Answered.outcome?, hi]
    · rw [List.filter_append, List.map_append, ← Answered.of_invocation hi, ← List.append_assoc,
        ← responses]
      simp [WorkerPhase.due, responsesOn, handled, setPhase]
  · rw [if_neg here] at phases outcomes
    exact ⟨answered, hand, C.same ⟨phases, rfl⟩ rfl (outcomes.trans (List.append_nil _)) rfl⟩

theorem Account.answer (C : Account h₀ h arrivals stream answered hand)
    (A : h.endpoint.Attended stream i) (running : h.endpoint.running = true)
    (ready : FrameLink.Ready h.endpoint.link) {j : Nat} {w : Worker} {payload : Octets}
    (hw : h.endpoint.workers[j]? = some w) (busy : w.phase = .answering payload) :
    Account h₀ { h with endpoint := h.endpoint.answer w payload } arrivals stream answered
      hand := by
  have active : w.phase ≠ .stopped := by simp [busy]
  have phases : (h.endpoint.answer w payload).phaseOn stream =
      if w.stream = stream then some .waiting else h.endpoint.phaseOn stream := by
    obtain ⟨link, outbound, sent, eq⟩ := h.endpoint.answer_eq w payload
    rw [eq, A.numbered j w hw, ← A.phaseOn_setPhase hw active]
    rfl
  have rest : (h.endpoint.answer w payload).waitingOn stream = h.endpoint.waitingOn stream ∧
      (h.endpoint.answer w payload).invocationsOn stream = h.endpoint.invocationsOn stream := by
    obtain ⟨link, outbound, sent, eq⟩ := h.endpoint.answer_eq w payload
    rw [eq]
    exact ⟨rfl, rfl⟩
  have responses := responsesOn_answer running ready w payload stream
  by_cases here : w.stream = stream
  · obtain rfl : j = i := A.eq hw active here
    obtain ⟨inHand, said⟩ := C.here (busy ▸ A.phaseOn hw)
    rw [if_pos here] at phases responses
    refine .of_phase phases ?_ inHand ?_ C.outcomes ?_
    · rw [rest.1]
      exact C.accepted
    · rw [rest.2]
      exact C.invocations
    · rw [responses, ← said]
      simp [WorkerPhase.due]
  · rw [if_neg here] at phases responses
    exact C.same ⟨phases, rest.1⟩ rest.2 rfl (responses.trans (List.append_nil _))

/-! ## Runs -/

/-- What has arrived on the way from `h₀` to `h`. -/
def arrivedSince (h₀ h : Host L) (incoming : List Octets) : List Octets :=
  (incoming.take h.heard).drop h₀.heard

/-- What holds of an agent that has come from `h₀`, while the stream was open. -/
structure Follows (h₀ h : Host L) (incoming : List Octets) (stream : StreamId) (i : WorkerId) :
    Prop where
  attends : h.Attends stream i
  later : h₀.heard ≤ h.heard
  memory : h.endpoint.memory =
    (arrivedSince h₀ h incoming).foldl Inbound.afterArrival h₀.endpoint.memory
  account : ∃ answered hand, Account h₀ h (arrivedSince h₀ h incoming) stream answered hand

variable {incoming : List Octets} {action : Action}

/-- The receive path alone hears. -/
theorem heard_act (mild : h.Mild)
    (numbered : ∀ (i : Nat) w, h.endpoint.workers[i]? = some w → w.id = i)
    (ha : h.act incoming action = some h') (hm : action ≠ .hear) :
    h'.heard = h.heard ∧ h'.endpoint.memory = h.endpoint.memory := by
  have heard : h'.heard = h.heard := by
    cases goes : action.goesOn with
    | true => exact (effort_move ha goes hm numbered).2
    | false => exact (effort_beside mild ha goes).2
  refine ⟨heard, ?_⟩
  rcases (act_effect mild ha).1 with ⟨_, -, kept, -⟩ | ⟨octets, -, -, rfl⟩ | ⟨b, hd, rfl⟩
  · rw [Agent.memory, kept.ear]
    rfl
  · exact absurd heard (Nat.succ_ne_self h.heard)
  · rw [Agent.memory, ear_deliver hd, Ear.pass_pass]
    rfl

theorem account_act (A : h.Attends stream i) (ha : h.act incoming action = some h')
    (hm : action ≠ .hear) (opened : h'.endpoint.isOpen stream = true)
    (C : Account h₀ h arrivals stream answered hand) :
    ∃ answered' hand', Account h₀ h' arrivals stream answered' hand' := by
  cases action with
  | event header args =>
    cases ha
    exact ⟨answered, hand, C.aside (h.endpoint.sendPayload_aside (by decide) _ _)
      (h.endpoint.receiving_sendPayload ..)⟩
  | announce =>
    cases ha
    exact ⟨answered, hand, C.aside (h.endpoint.sendPayload_aside (by decide) _ _)
      (h.endpoint.receiving_sendPayload ..)⟩
  | watch resets =>
    cases ha
    exact ⟨answered, hand, C.same ⟨rfl, rfl⟩ rfl rfl rfl⟩
  | begin errand caller =>
    cases ha
    exact ⟨answered, hand, C.same ⟨rfl, rfl⟩ rfl rfl rfl⟩
  | advance k =>
    simp only [act, advance] at ha
    split at ha
    · cases ha
    · next t ht =>
      split at ha
      · cases ha
      · next unfinished =>
        obtain ⟨t', -, rfl⟩ := Option.map_eq_some_iff.mp ha
        have here := List.mem_of_getElem? ht
        obtain ⟨-, on, -⟩ := A.toAttended.call (A.mild t here)
          (A.uncalled t here (by simpa using unfinished)) t.caller opened
        obtain ⟨⟨serving, slots, workers, eq⟩, -⟩ := (A.mild t here).step h.endpoint t.caller
        exact ⟨answered, hand, C.same on (by rw [eq]; rfl) rfl (by rw [responsesOn, eq]; rfl)⟩
  | hear => exact absurd rfl hm
  | pass =>
    obtain ⟨b, hd, rfl⟩ := Option.map_eq_some_iff.mp ha
    exact ⟨answered, hand, C.deliver A.toAttended hd⟩
  | takeUp k =>
    obtain ⟨w, b, hw, waits, hb, rfl⟩ := act_takeUp ha
    exact C.takeUp A.toAttended hw waits hb
  | handle k result =>
    obtain ⟨id, s, invocation, hw, rfl⟩ := act_handle ha
    obtain rfl : id = k := A.numbered k _ hw
    exact C.handle A.toAttended hw result
  | answer k =>
    obtain ⟨id, s, payload, hw, rfl⟩ := act_answer ha
    exact ⟨answered, hand, C.answer A.toAttended A.running A.ready hw rfl⟩

theorem Follows.act (F : Follows h₀ h incoming stream i) (ha : h.act incoming action = some h')
    (opened : h'.endpoint.isOpen stream = true) : Follows h₀ h' incoming stream i := by
  obtain ⟨attends, later, memory, answered, hand, account⟩ := F
  have attends' := attends_act attends ha opened
  by_cases hm : action = .hear
  · subst hm
    obtain ⟨octets, next, free, rfl⟩ := act_hear ha
    have more : arrivedSince h₀ { h with
        endpoint := h.endpoint.receive (some octets), heard := h.heard + 1 } incoming =
        arrivedSince h₀ h incoming ++ [octets] := by
      have short := lt_length_of_getElem? next
      rw [arrivedSince, take_succ_of_getElem? next, List.drop_append_of_le_length]
      · rfl
      · rw [List.length_take]
        omega
    refine ⟨attends', Nat.le_succ_of_le later, ?_, answered, hand, ?_⟩
    · rw [more, List.foldl_append, ← memory, memory_of_free free]
      exact (receive_memory free octets).1
    · rw [more]
      exact account.hear free attends.isOpen memory octets
  · obtain ⟨heard, remembered⟩ := heard_act attends.mild attends.numbered ha hm
    have same : arrivedSince h₀ h' incoming = arrivedSince h₀ h incoming := by
      rw [arrivedSince, heard]
      rfl
    refine ⟨attends', heard ▸ later, ?_, ?_⟩
    · rw [remembered, same]
      exact memory
    · rw [same]
      exact account_act attends ha hm opened account

/-- One step, if it leaves the stream open. -/
def actOpen (stream : StreamId) (incoming : List Octets) (h : Host L) (action : Action) :
    Option (Host L) :=
  (h.act incoming action).filter fun h' => h'.endpoint.isOpen stream

/-- Takes steps one after the other, if each of them can be taken and leaves the stream open. -/
def performOpen (stream : StreamId) (incoming : List Octets) (h : Host L)
    (actions : List Action) : Option (Host L) :=
  actions.foldlM (actOpen stream incoming) h

/-- The steps that may follow until the agent rests, unless its owner opens streams. -/
def remaining (h : Host L) (incoming : List Octets) : Nat :=
  h.effort + 9 * (incoming.length - h.heard)

theorem remaining_act (A : h.Attends stream i) (ha : h.act incoming action = some h') :
    (action.goesOn = true → h'.remaining incoming < h.remaining incoming) ∧
      h'.remaining incoming ≤ h.remaining incoming + 1 := by
  by_cases hm : action = .hear
  · subst hm
    obtain ⟨effort, heard, more⟩ := effort_hear ha
    simp only [remaining]
    omega
  · cases goes : action.goesOn with
    | true =>
      obtain ⟨effort, heard⟩ := effort_move ha goes hm A.numbered
      simp only [remaining]
      omega
    | false =>
      obtain ⟨effort, heard⟩ := effort_beside A.mild ha goes
      simp only [remaining, heard]
      exact ⟨nofun, by omega⟩

/-- Where nothing goes on, everything is heard, and nothing is left to do on the stream. -/
theorem Attends.rests (A : h.Attends stream i)
    (quiet : ∀ action : Action, action.goesOn = true → h.act incoming action = none) :
    incoming.length ≤ h.heard ∧ h.endpoint.waitingOn stream = [] ∧
      h.endpoint.handlingOn stream = [] ∧ h.endpoint.answeringOn stream = [] := by
  have idle := idle_of_quiet fun action goes _ => quiet action goes
  -- whoever could empty a slot has done so
  have empty : ∀ s, (h.endpoint.slots.get s).closed = false →
      (h.endpoint.slots.get s).item = none := by
    intro s open_
    cases hi : (h.endpoint.slots.get s).item with
    | none => rfl
    | some body =>
      obtain ⟨j, w, hw, rfl, active⟩ := A.manned s open_ (.stored (by simp [hi]))
      have waits := (idle j w hw).resolve_right active
      obtain ⟨b, hb⟩ := takeUp_of_item hi
      have stays := quiet (.takeUp j) rfl
      simp [act, hw, waits, hb] at stays
  have free : h.endpoint.receiving = none := by
    cases hr : h.endpoint.receiving with
    | none => rfl
    | some command =>
      obtain ⟨b, hb⟩ : ∃ b, h.endpoint.deliver = some b := by
        cases hc : (h.endpoint.slots.get command.stream).closed with
        | true => simp [deliver, hr, Slot.push, hc]
        | false => exact deliver_of_room hr (empty command.stream hc)
      have stays := quiet .pass rfl
      simp [act, hb] at stays
  refine ⟨?_, ?_, nothing_in_hand idle stream⟩
  · have stays := quiet .hear rfl
    simpa [act, free] using stays
  · simp [waitingOn, empty stream A.roomy, free]

/-- What has become of the commands on a stream once everything is done. -/
structure Settled (h₀ h : Host L) (arrivals : List Octets) (stream : StreamId)
    (answered : List Answered) : Prop where
  accepted : h₀.endpoint.waitingOn stream ++ commandsOn stream h₀.endpoint.memory arrivals =
    answered.map Answered.body
  invocations : h.endpoint.invocationsOn stream = h₀.endpoint.invocationsOn stream ++
    (answered.map Answered.body).filterMap (invocationOf stream)
  outcomes : h.outcomesOn stream = h₀.outcomesOn stream ++
    answered.filterMap (Answered.outcome? stream)
  responses : h.responsesOn stream =
    h₀.responsesOn stream ++ (answered.filter Answered.carried).map Answered.response

/-- The worker of a stream that is open waits for commands. Whatever arrives then, whatever the
handler returns, and whatever else the agent and its owner do while the stream stays open: the
commands that are accepted on the stream are taken up in order, each of them once; the handler is
asked about those that have a header, and has been asked about nothing else; and for each command
that is answered there is one response, in the same order, unless the handler has returned a payload
that no response can carry. No more steps than `remaining` counts lead to a point where nothing goes
on, but for those to which the owner gives rise by opening streams, and there every command is
answered. -/
theorem accepted_answered {actions : List Action} (A : h₀.Attends stream i)
    (idle : h₀.endpoint.phaseOn stream = some .waiting)
    (run : h₀.performOpen stream incoming actions = some h) :
    (∃ answered hand, Account h₀ h (arrivedSince h₀ h incoming) stream answered hand) ∧
    actions.countP Action.goesOn + h.remaining incoming ≤
      h₀.remaining incoming + actions.countP (!·.goesOn) ∧
    ((∀ action : Action, action.goesOn = true → h.act incoming action = none) →
      ∃ answered, Settled h₀ h (incoming.drop h₀.heard) stream answered) := by
  have start : Follows h₀ h₀ incoming stream i := by
    have nothing : arrivedSince h₀ h₀ incoming = [] := by
      rw [arrivedSince, List.drop_eq_nil_iff]
      exact List.length_take_le ..
    refine ⟨A, Nat.le_refl _, ?_, [], [], ?_⟩
    · rw [nothing]
      rfl
    · rw [nothing]
      exact .refl idle
  have step : ∀ {h action h'}, Follows h₀ h incoming stream i →
      actOpen stream incoming h action = some h' →
      Follows h₀ h' incoming stream i ∧
        (action.goesOn = true → h'.remaining incoming < h.remaining incoming) ∧
        h'.remaining incoming ≤ h.remaining incoming + 1 := by
    intro h action h' F ha
    obtain ⟨ha, opened⟩ := Option.filter_eq_some_iff.mp ha
    exact ⟨F.act ha opened, remaining_act F.attends ha⟩
  have F := foldlM_preserves (f := actOpen stream incoming) (fun F ha => (step F ha).1) run start
  refine ⟨F.account, foldlM_balance (f := actOpen stream incoming) step run start, fun quiet => ?_⟩
  obtain ⟨all, waiting, handling, answering⟩ := F.attends.rests quiet
  obtain ⟨answered, hand, C⟩ := F.account
  have inHand := C.inHand
  rw [handling] at inHand
  obtain rfl : hand = [] := List.map_eq_nil_iff.mp inHand
  have responses := C.responses
  have accepted := C.accepted
  have invocations := C.invocations
  rw [answering, List.filter_nil, List.append_nil] at responses
  rw [waiting, List.append_nil, List.append_nil, arrivedSince, List.take_of_length_le all]
    at accepted
  rw [List.append_nil] at invocations
  exact ⟨answered, accepted, invocations, C.outcomes, responses⟩

/-! ## An agent at work -/

/-- Everything is heard and passed on, and no worker has anything to do. -/
def atRest (h : Host L) (incoming : List Octets) : Bool :=
  h.endpoint.receiving.isNone && (incoming.length ≤ h.heard) &&
    h.endpoint.workers.all fun w => w.phase == .waiting && (h.endpoint.takeUp w).isNone

theorem quiet_of_atRest (rest : h.atRest incoming = true) (action : Action)
    (goes : action.goesOn = true) : h.act incoming action = none := by
  simp only [atRest, Bool.and_eq_true, Option.isNone_iff_eq_none, decide_eq_true_eq,
    List.all_eq_true, beq_iff_eq] at rest
  obtain ⟨⟨free, all⟩, idle⟩ := rest
  have waits : ∀ (j : Nat) w, h.endpoint.workers[j]? = some w → w.phase = .waiting :=
    fun j w hw => (idle w (List.mem_of_getElem? hw)).1
  cases action with
  | hear => simp [act, free, all]
  | pass => simp [act, deliver, free]
  | takeUp j =>
    simp only [act]
    split
    · next w hw => simp [(idle w (List.mem_of_getElem? hw)).2]
    · rfl
  | handle j result =>
    simp only [act]
    split
    · next id s invocation hw => cases waits j _ hw
    · rfl
  | answer j =>
    simp only [act]
    split
    · next id s payload hw => cases waits j _ hw
    · rfl
  | _ => cases goes

/-- An agent on a link that takes everything. -/
def newcomer : Host ScriptedLink := ofAgent (Agent.start ⟨[], []⟩ ⟨"1.0", false⟩).2

theorem newcomer_attends : newcomer.Attends StreamId.control 0 ∧
    newcomer.endpoint.phaseOn StreamId.control = some .waiting := by
  have prepared : Prepared (⟨[], []⟩ : ScriptedLink) ⟨"1.0", false⟩ newcomer.endpoint := .start
  exact attends_of_poised prepared.poised.2 rfl rfl rfl rfl

/-- A command, one that is too short for a header and comes twice, and a frame that is none. -/
def mixedFrames : List Octets :=
  [Post.octets ⟨.command, .first, StreamId.control, [5, 1, 0, 0, 7], by decide⟩,
    Post.octets ⟨.command, SeqNum.first.next, StreamId.control, [9], by decide⟩,
    Post.octets ⟨.command, SeqNum.first.next, StreamId.control, [9], by decide⟩, [3]]

/-- The frames are heard while the owner opens a stream and the handler is at work. -/
def mixedWork : List Action :=
  [.hear, .pass, .begin .openStream none, .takeUp 0, .hear, .pass, .advance 0,
    .handle 0 (.ok [1, 2]), .hear, .advance 0, .answer 0, .takeUp 0, .hear, .answer 0]

theorem accepted_answered_mixed :
    ∃ (h : Host ScriptedLink) (answered : List Answered),
      newcomer.performOpen StreamId.control mixedFrames mixedWork = some h ∧
      answered.map Answered.body = [[5, 1, 0, 0, 7], [9]] ∧
      h.responsesOn StreamId.control = (answered.filter Answered.carried).map Answered.response ∧
      h.responsesOn StreamId.control = [[5, 1, 0, 0, 1, 2], [0, 0, 0, 1]] := by
  obtain ⟨h, run, rest, responses⟩ : ∃ h : Host ScriptedLink,
      newcomer.performOpen StreamId.control mixedFrames mixedWork = some h ∧
      h.atRest mixedFrames = true ∧
      h.responsesOn StreamId.control = [[5, 1, 0, 0, 1, 2], [0, 0, 0, 1]] := ⟨_, rfl, rfl, rfl⟩
  obtain ⟨answered, S⟩ := (accepted_answered newcomer_attends.1 newcomer_attends.2 run).2.2
    (quiet_of_atRest rest)
  exact ⟨h, answered, run, S.accepted.symm, S.responses, responses⟩

theorem answer_of_long (a : Agent L) (w : Worker) {payload : Octets}
    (long : ¬ payload.length ≤ Frame.maxPayload) :
    a.answer w payload = a.setPhase w.id .waiting := by
  have silent : (a.sendPayload .response w.stream.toOctet payload).2 = a := by
    unfold sendPayload
    rw [Frame.payloadLength_error long]
    split <;> rfl
  rw [Agent.answer, silent]

/-- A command is handled with the given result, and its worker goes on to the next. -/
def singleWork (result : Except Status Octets) : List Action :=
  [.hear, .pass, .takeUp 0, .handle 0 result, .answer 0]

/-- The handler has one octet more than a response can carry. -/
theorem oversized_unanswered :
    ∃ h : Host ScriptedLink,
      newcomer.performOpen StreamId.control (mixedFrames.take 1)
        (singleWork (.ok (List.replicate 2041 0))) = some h ∧
      commandsOn StreamId.control newcomer.endpoint.memory (mixedFrames.take 1) =
        [[5, 1, 0, 0, 7]] ∧
      (∀ action : Action, action.goesOn = true → h.act (mixedFrames.take 1) action = none) ∧
      h.responsesOn StreamId.control = [] := by
  have long : ¬ (responsePayload ⟨5, 1, 0⟩ (.ok (List.replicate 2041 0))).length ≤
      Frame.maxPayload := by
    rw [length_responsePayload_le_iff]
    intro short
    have bound := short _ rfl
    rw [List.length_replicate, payloadLimit] at bound
    omega
  generalize List.replicate 2041 (0 : UInt8) = payload at long ⊢
  -- the agent as it is when the handler has returned, and as it is with its worker waiting again
  obtain ⟨h, run, worker, opened, rest, responses⟩ : ∃ h : Host ScriptedLink,
      newcomer.performOpen StreamId.control (mixedFrames.take 1)
        [.hear, .pass, .takeUp 0, .handle 0 (.ok payload)] = some h ∧
      h.endpoint.workers =
        [⟨0, StreamId.control, .answering (responsePayload ⟨5, 1, 0⟩ (.ok payload))⟩] ∧
      h.endpoint.isOpen StreamId.control = true ∧
      atRest { h with endpoint := h.endpoint.setPhase 0 .waiting } (mixedFrames.take 1) = true ∧
      responsesOn { h with endpoint := h.endpoint.setPhase 0 .waiting } StreamId.control = [] :=
    ⟨_, rfl, rfl, rfl, rfl, rfl⟩
  have answer : h.actOpen StreamId.control (mixedFrames.take 1) (.answer 0) =
      some { h with endpoint := h.endpoint.setPhase 0 .waiting } := by
    have act : h.act (mixedFrames.take 1) (.answer 0) =
        some { h with endpoint := h.endpoint.setPhase 0 .waiting } := by
      simp [Host.act, worker, answer_of_long _ _ long]
    rw [actOpen, act]
    exact if_pos opened
  refine ⟨_, ?_, rfl, quiet_of_atRest rest, responses⟩
  have whole : singleWork (.ok payload) =
      [.hear, .pass, .takeUp 0, .handle 0 (.ok payload)] ++ [.answer 0] := rfl
  have first : List.foldlM (actOpen StreamId.control (mixedFrames.take 1)) newcomer
      [.hear, .pass, .takeUp 0, .handle 0 (.ok payload)] = some h := run
  rw [performOpen, whole, List.foldlM_append, first]
  simpa using answer

end Host
end Agent
end CommandLink
