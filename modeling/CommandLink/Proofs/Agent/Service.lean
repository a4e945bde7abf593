import CommandLink.Proofs.Agent.Prepared

/-! # How commands are answered

The worker of a stream has each command handled and sends what the handler answers, one command
after the other. On each stream the invocations are those that the handler has answered, and at most
one more; the responses sent are what it has answered, but for the last one, which may still have to
be sent (`Agent.Host.Serves`). -/

namespace CommandLink

namespace WorkerPhase

/-- The invocation that waits for the handler's answer. -/
def inHand : WorkerPhase → List Invocation
  | .handling i => [i]
  | _ => []

/-- The response that has still to be sent. -/
def due : WorkerPhase → List Octets
  | .answering payload => [payload]
  | _ => []

end WorkerPhase

namespace Agent

variable {L : Type}

/-- What the worker of a stream is about. -/
def phaseOn (a : Agent L) (stream : StreamId) : Option WorkerPhase :=
  (a.serving.get stream).bind fun i => a.workers[i]?.map Worker.phase

/-- The invocation on a stream that the handler has not answered. -/
def handlingOn (a : Agent L) (stream : StreamId) : List Invocation :=
  (a.phaseOn stream).toList.flatMap WorkerPhase.inHand

/-- The response on a stream that has not been sent. -/
def answeringOn (a : Agent L) (stream : StreamId) : List Octets :=
  (a.phaseOn stream).toList.flatMap WorkerPhase.due

/-- An answer of the handler is no longer than a response can carry. -/
def Action.short : Action → Bool
  | .handle _ (.ok payload) => payload.length ≤ payloadLimit
  | _ => true

/-- The payload of the response that is due. -/
def Outcome.payload (o : Outcome) : Octets := responsePayload o.invocation.id o.result

theorem length_responsePayload_le {id : CommandId} {result : Except Status Octets}
    (h : ∀ payload, result = .ok payload → payload.length ≤ payloadLimit) :
    (responsePayload id result).length ≤ Frame.maxPayload := by
  cases result with
  | ok payload =>
    have := h payload rfl
    simp only [responsePayload, List.length_append, ResponseHeader.length_encode]
    simp only [payloadLimit, payloadHeaderSize, Frame.maxPayload, Frame.maxSize, Header.size] at *
    omega
  | error status =>
    simp only [responsePayload, ResponseHeader.length_encode]
    decide

theorem Staffed.serving_iff {a : Agent L} (S : a.Staffed none) {i : Nat} {w : Worker}
    (hw : a.workers[i]? = some w) (active : w.phase ≠ .stopped) (stream : StreamId) :
    a.serving.get stream = some i ↔ w.stream = stream := by
  constructor
  · intro h
    obtain ⟨v, hv, hs, -⟩ := S.served stream i h
    rw [hw, Option.some.injEq] at hv
    rw [hv]
    exact hs
  · rintro rfl
    exact (S.serves i w hw active).resolve_right (Option.some_ne_none _).symm

theorem Staffed.phaseOn {a : Agent L} (S : a.Staffed none) {i : Nat} {w : Worker}
    (hw : a.workers[i]? = some w) (active : w.phase ≠ .stopped) :
    a.phaseOn w.stream = some w.phase := by
  simp [Agent.phaseOn, (S.serving_iff hw active w.stream).mpr rfl, hw]

theorem Staffed.phaseOn_setPhase {a : Agent L} (S : a.Staffed none) {i : Nat} {w : Worker}
    (hw : a.workers[i]? = some w) (active : w.phase ≠ .stopped) (phase : WorkerPhase)
    (stream : StreamId) :
    (a.setPhase i phase).phaseOn stream =
      if w.stream = stream then some phase else a.phaseOn stream := by
  have serving : (a.setPhase i phase).serving = a.serving := rfl
  simp only [Agent.phaseOn, serving]
  split
  · next e =>
    rw [(S.serving_iff hw active stream).mpr e, Option.bind_some, getElem?_setPhase S.numbered, hw]
    simp
  · next e =>
    cases hs : a.serving.get stream with
    | none => rfl
    | some j =>
      have ne : j ≠ i := by
        rintro rfl
        exact e ((S.serving_iff hw active stream).mp hs)
      rw [Option.bind_some, Option.bind_some, getElem?_setPhase S.numbered]
      cases a.workers[j]? <;> simp [ne]

/-- Workers that wait or have stopped have nothing to do. -/
theorem nothing_in_hand {a : Agent L} (idle : ∀ (i : Nat) w, a.workers[i]? = some w →
    w.phase = .waiting ∨ w.phase = .stopped) (stream : StreamId) :
    a.handlingOn stream = [] ∧ a.answeringOn stream = [] := by
  rw [handlingOn, answeringOn, Agent.phaseOn]
  cases hs : a.serving.get stream with
  | none => exact ⟨rfl, rfl⟩
  | some i =>
    cases hw : a.workers[i]? with
    | none => simp [hw]
    | some w => rcases idle i w hw with e | e <;> simp [hw, e, WorkerPhase.inHand, WorkerPhase.due]

namespace Host

/-- What the handler has answered to the commands on a stream. -/
def outcomesOn (h : Host L) (stream : StreamId) : List Outcome :=
  h.outcomes.filter (·.invocation.stream == stream)

variable [FrameLink L]

/-- The responses on a stream that have been sent. -/
def responsesOn (h : Host L) (stream : StreamId) : List Octets :=
  (FrameLink.taken h.endpoint.link).filterMap (payloadIn .response stream)

/-- Every command that was taken up is answered, or is going to be. -/
structure Serves (h : Host L) : Prop where
  staffed : h.endpoint.Staffed none
  running : h.endpoint.running = true
  ready : FrameLink.Ready h.endpoint.link
  handled : ∀ stream, h.endpoint.invocationsOn stream =
    (h.outcomesOn stream).map Outcome.invocation ++ h.endpoint.handlingOn stream
  answered : ∀ stream, h.responsesOn stream ++ h.endpoint.answeringOn stream =
    (h.outcomesOn stream).map Outcome.payload
  fits : ∀ stream, ∀ payload ∈ h.endpoint.answeringOn stream, payload.length ≤ Frame.maxPayload

variable {h h' : Host L}

/-- The workers stay as they are, and what is sent is no response. -/
theorem Serves.apart (S : h.Serves) (serving : h'.endpoint.serving = h.endpoint.serving)
    (workers : h'.endpoint.workers = h.endpoint.workers)
    (invocations : h'.endpoint.invocations = h.endpoint.invocations)
    (running : h'.endpoint.running = h.endpoint.running) (outcomes : h'.outcomes = h.outcomes)
    {K : FrameKind → Prop} {posts : List Post} (speech : Speech K h.endpoint h'.endpoint posts)
    (other : ∀ kind, K kind → kind ≠ .response) : h'.Serves := by
  have phase : ∀ stream, h'.endpoint.phaseOn stream = h.endpoint.phaseOn stream := by
    intro stream
    rw [phaseOn, serving, workers]
    rfl
  have responses : ∀ stream, h'.responsesOn stream = h.responsesOn stream := by
    intro stream
    have none_said : posts.filterMap (Post.payloadOn .response stream) = [] := by
      rw [List.filterMap_eq_nil_iff]
      intro p hp
      simp [Post.payloadOn, other _ (speech.kinds p hp)]
    rw [responsesOn, speech.link, List.filterMap_append, filterMap_payloadIn, none_said,
      List.append_nil]
    rfl
  refine ⟨S.staffed.congr serving workers, running.trans S.running, speech.ready S.ready, ?_, ?_,
    ?_⟩
  · intro stream
    rw [invocationsOn, invocations, handlingOn, phase, outcomesOn, outcomes]
    exact S.handled stream
  · intro stream
    rw [responses, answeringOn, phase, outcomesOn, outcomes]
    exact S.answered stream
  · intro stream
    rw [answeringOn, phase]
    exact S.fits stream

/-! ## Workers -/

section
variable {i : Nat} {w : Worker}

/-- The worker of a stream goes on to another phase. -/
theorem Serves.moved (S : h.Serves) (hw : h.endpoint.workers[i]? = some w)
    (active : w.phase ≠ .stopped) (phase : WorkerPhase) (stays : phase ≠ .stopped)
    (serving : h'.endpoint.serving = h.endpoint.serving)
    (workers : h'.endpoint.workers = (h.endpoint.setPhase i phase).workers)
    (running : h'.endpoint.running = h.endpoint.running)
    (ready : FrameLink.Ready h'.endpoint.link)
    (elsewhere : ∀ stream, w.stream ≠ stream →
      h'.endpoint.invocationsOn stream = h.endpoint.invocationsOn stream ∧
      h'.outcomesOn stream = h.outcomesOn stream ∧ h'.responsesOn stream = h.responsesOn stream)
    (taken : h'.endpoint.invocationsOn w.stream =
      (h'.outcomesOn w.stream).map Outcome.invocation ++ phase.inHand)
    (said : h'.responsesOn w.stream ++ phase.due =
      (h'.outcomesOn w.stream).map Outcome.payload)
    (fits : ∀ payload ∈ phase.due, payload.length ≤ Frame.maxPayload) : h'.Serves := by
  have staffed := S.staffed.setPhase hw active fun e => absurd e stays
  have phases : ∀ stream, h'.endpoint.phaseOn stream =
      if w.stream = stream then some phase else h.endpoint.phaseOn stream := by
    intro stream
    rw [← S.staffed.phaseOn_setPhase hw active phase stream, phaseOn, serving, workers]
    rfl
  refine ⟨staffed.congr serving workers, running.trans S.running, ready, fun stream => ?_,
    fun stream => ?_, fun stream => ?_⟩
  · rw [handlingOn, phases]
    by_cases hs : w.stream = stream
    · subst hs
      simpa using taken
    · rw [if_neg hs, (elsewhere stream hs).1, (elsewhere stream hs).2.1]
      exact S.handled stream
  · rw [answeringOn, phases]
    by_cases hs : w.stream = stream
    · subst hs
      simpa using said
    · rw [if_neg hs, (elsewhere stream hs).2.1, (elsewhere stream hs).2.2]
      exact S.answered stream
  · rw [answeringOn, phases]
    by_cases hs : w.stream = stream
    · subst hs
      simpa using fits
    · rw [if_neg hs]
      exact S.fits stream

theorem Serves.here (S : h.Serves) (hw : h.endpoint.workers[i]? = some w)
    (active : w.phase ≠ .stopped) :
    h.endpoint.invocationsOn w.stream =
      (h.outcomesOn w.stream).map Outcome.invocation ++ w.phase.inHand ∧
    h.responsesOn w.stream ++ w.phase.due = (h.outcomesOn w.stream).map Outcome.payload ∧
    ∀ payload ∈ w.phase.due, payload.length ≤ Frame.maxPayload := by
  have phase := S.staffed.phaseOn hw active
  have taken := S.handled w.stream
  have said := S.answered w.stream
  have fits := S.fits w.stream
  simp only [handlingOn, answeringOn, phase, Option.toList_some, List.flatMap_singleton] at *
  exact ⟨taken, said, fits⟩

theorem Serves.takeUp (S : h.Serves) {heard : List Post} (R : h.endpoint.Routed heard)
    (A : h.endpoint.Addressed heard) (hw : h.endpoint.workers[i]? = some w)
    (waits : w.phase = .waiting) {b : Agent L} (hb : h.endpoint.takeUp w = some b) :
    Serves { h with endpoint := b } := by
  have active : w.phase ≠ .stopped := by simp [waits]
  obtain ⟨taken, said, -⟩ := S.here hw active
  rw [waits] at taken said
  rcases takeUp_cases hb fun body hb => (R.whole A (mem_waitingOn_of_item hb)).2 with
    ⟨j, hj, -, rfl⟩ | ⟨-, closed, -⟩
  · rw [S.staffed.numbered i w hw]
    refine S.moved hw active (.handling j) (by simp) rfl rfl rfl S.ready ?_ ?_ said
      fun _ h => (List.not_mem_nil h).elim
    · intro stream hs
      have ne : j.stream ≠ stream := hj ▸ hs
      refine ⟨?_, rfl, rfl⟩
      rw [invocationsOn_record, if_neg ne, List.append_nil]
      rfl
    · rw [invocationsOn_record, if_pos hj]
      exact congrArg (· ++ [j]) (taken.trans (List.append_nil _))
  · have opened := isOpen_of_serving ((S.staffed.serving_iff hw active w.stream).mpr rfl)
    rw [R.roomy w.stream opened] at closed
    cases closed

theorem Serves.handle (S : h.Serves) {invocation : Invocation}
    (hw : h.endpoint.workers[i]? = some w) (busy : w.phase = .handling invocation)
    {result : Except Status Octets}
    (short : ∀ payload, result = .ok payload → payload.length ≤ payloadLimit) :
    Serves { h with
      endpoint := h.endpoint.handled w.id invocation result
      outcomes := h.outcomes ++ [⟨invocation, result⟩] } := by
  have active : w.phase ≠ .stopped := by simp [busy]
  obtain ⟨taken, said, -⟩ := S.here hw active
  rw [busy] at taken said
  have stream_eq : invocation.stream = w.stream := by
    have here : invocation ∈ h.endpoint.invocationsOn w.stream := by
      rw [taken]
      exact List.mem_append_right _ (List.mem_singleton_self _)
    simpa [invocationsOn] using (List.mem_filter.mp here).2
  have outcomes : ∀ stream, outcomesOn { h with
      endpoint := h.endpoint.handled w.id invocation result
      outcomes := h.outcomes ++ [⟨invocation, result⟩] } stream =
      h.outcomesOn stream ++ if w.stream = stream then [⟨invocation, result⟩] else [] := by
    intro stream
    rw [outcomesOn, List.filter_append, outcomesOn]
    by_cases hs : w.stream = stream <;> simp [stream_eq, hs]
  rw [Agent.handled, S.staffed.numbered i w hw] at *
  refine S.moved hw active
    (.answering (responsePayload invocation.id result)) (by simp) rfl rfl rfl S.ready ?_ ?_ ?_
    ?_
  · intro stream hs
    refine ⟨rfl, ?_, rfl⟩
    rw [outcomes, if_neg hs, List.append_nil]
  · rw [outcomes, if_pos rfl, List.map_append]
    exact taken.trans (List.append_nil _).symm
  · rw [outcomes, if_pos rfl, List.map_append, ← said]
    exact congrArg (· ++ _) (List.append_nil _).symm
  · intro payload hp
    rw [List.mem_singleton.mp hp]
    exact length_responsePayload_le short

/-- What is on the link once a worker has sent its response, or has failed to because it was too
long. -/
theorem responsesOn_answer (running : h.endpoint.running = true)
    (ready : FrameLink.Ready h.endpoint.link) (w : Worker) (payload : Octets) (stream : StreamId) :
    responsesOn { h with endpoint := h.endpoint.answer w payload } stream =
      h.responsesOn stream ++
        if w.stream = stream then [payload].filter (·.length ≤ Frame.maxPayload) else [] := by
  have taken : FrameLink.taken (h.endpoint.answer w payload).link =
      FrameLink.taken (h.endpoint.sendPayload .response w.stream.toOctet payload).2.link := rfl
  rw [responsesOn, taken]
  by_cases fits : payload.length ≤ Frame.maxPayload
  · have speech := sendPayload_smooth_of_ready ready running .response w.stream fits
    rw [speech.link, List.filterMap_append, filterMap_payloadIn]
    by_cases hs : w.stream = stream <;> simp [Post.payloadOn, hs, fits, responsesOn]
  · rcases h.endpoint.sendPayload_cases .response w.stream payload with ⟨e, link, hs, ht⟩ | ⟨ok, -⟩
    · rw [hs, ht]
      simp [fits, responsesOn]
    · exact absurd ok fits

theorem Serves.answer (S : h.Serves) {payload : Octets} (hw : h.endpoint.workers[i]? = some w)
    (busy : w.phase = .answering payload) :
    Serves { h with endpoint := h.endpoint.answer w payload } := by
  have active : w.phase ≠ .stopped := by simp [busy]
  obtain ⟨taken, said, fits⟩ := S.here hw active
  rw [busy] at taken said fits
  have short := fits payload (List.mem_singleton_self _)
  have ready := (sendPayload_of_ready S.ready .response w.stream.toOctet payload).1
  have responses := responsesOn_answer S.running S.ready w payload
  obtain ⟨link, outbound, sent, eq⟩ := h.endpoint.answer_eq w payload
  refine S.moved hw active .waiting (by simp) ?_ ?_ ?_ ready ?_ ?_ ?_
    fun _ h => (List.not_mem_nil h).elim
  · rw [eq]
  · rw [eq, S.staffed.numbered i w hw]
  · rw [eq]
  · intro stream hs
    refine ⟨?_, rfl, ?_⟩
    · rw [eq]
      rfl
    · rw [responses, if_neg hs, List.append_nil]
  · rw [eq]
    exact taken
  · have sent : [payload].filter (·.length ≤ Frame.maxPayload) = [payload] := by simp [short]
    rw [responses, if_pos rfl, List.append_assoc, sent]
    exact said

end

/-! ## Steps -/

theorem ne_response_of_announced {kind : FrameKind} (h : kind = .event ∨ kind = .agentStart) :
    kind ≠ .response := by
  rcases h with rfl | rfl <;> decide

theorem ne_response_of_reply {heard kind : FrameKind} {lost : Prop} (h : Reply heard lost kind) :
    kind ≠ .response := by
  rintro rfl
  cases h

/-- What an agent sends of its own accord, beside responses. -/
theorem Serves.announced (S : h.Serves) {kind : FrameKind}
    (hk : kind = .event ∨ kind = .agentStart) (stream : StreamId) (payload : Octets) :
    Serves { h with endpoint := (h.endpoint.sendPayload kind stream.toOctet payload).2 } := by
  obtain ⟨link, outbound, sent, eq⟩ := h.endpoint.sendPayload_eq kind stream payload
  obtain ⟨posts, smooth⟩ := h.endpoint.sendPayload_posts kind stream payload
  exact S.apart (by rw [eq]) (by rw [eq]) (by rw [eq]; rfl) (by rw [eq]) rfl smooth.toSpeech
    fun _ e => e ▸ ne_response_of_announced hk

/-- A step keeps up the service, as long as no stream is opened or closed and the handler answers
with payloads that a response can carry. -/
theorem serves_act {ds : List Post} {action : Action}
    (ha : h.act (ds.map Post.octets) action = some h') (idle : h.threads = [])
    (calls : ∀ errand caller, action ≠ .begin errand caller)
    (short : action.short = true)
    (A : h.endpoint.Addressed ds) (R : h.endpoint.Routed (ds.take h.heard)) (S : h.Serves) :
    h'.Serves := by
  cases action with
  | event header args =>
    cases ha
    exact S.announced (.inl rfl) StreamId.control _
  | announce =>
    cases ha
    exact S.announced (.inr rfl) StreamId.control []
  | watch resets =>
    cases ha
    have silent : Smooth (fun _ => False) h.endpoint { h.endpoint with onReset := resets } [] :=
      .refl rfl rfl rfl
    exact S.apart rfl rfl rfl rfl rfl silent.toSpeech fun _ e => e.elim
  | begin errand caller => exact absurd rfl (calls errand caller)
  | advance i => simp [act, advance, idle] at ha
  | hear =>
    obtain ⟨p, -, free, rfl⟩ := act_hear_post ha
    have B := receive_becomes free p
    obtain ⟨link, outbound, sent, log, eq⟩ := B.eq
    obtain ⟨posts, speech, -⟩ := h.endpoint.receive_speech p
    exact S.apart (by rw [eq]) (by rw [eq]) B.invocations (by rw [eq]) rfl speech
      fun _ hk => ne_response_of_reply hk
  | pass =>
    obtain ⟨a, hd, rfl⟩ := Option.map_eq_some_iff.mp ha
    obtain ⟨command, -, cases_, posts, smooth⟩ := deliver_cases hd
    rcases cases_ with ⟨-, B⟩ | ⟨-, -, B⟩
    · obtain ⟨link, outbound, sent, log, eq⟩ := B.eq
      exact S.apart (by rw [eq]) (by rw [eq]) B.invocations (by rw [eq]) rfl smooth.toSpeech
        fun _ hk => ne_response_of_reply hk
    · obtain ⟨link, outbound, sent, log, eq⟩ := B.eq
      exact S.apart (by rw [eq]) (by rw [eq]) B.invocations (by rw [eq]) rfl smooth.toSpeech
        fun _ hk => ne_response_of_reply hk
  | takeUp i =>
    obtain ⟨w, a, hw, waits, hb, rfl⟩ := act_takeUp ha
    exact S.takeUp R (fun p hp => A p (List.mem_of_mem_take hp)) hw waits hb
  | handle i result =>
    obtain ⟨id, stream, invocation, hw, rfl⟩ := act_handle ha
    exact S.handle hw rfl fun payload e => by simpa [Action.short, e] using short
  | answer i =>
    obtain ⟨id, stream, payload, hw, rfl⟩ := act_answer ha
    exact S.answer hw rfl

/-! ## From the start -/

theorem serves_of_poised {a : Agent L} (P : a.Poised none) (running : a.running = true)
    (ready : FrameLink.Ready a.link) (log : a.invocations = [])
    (silent : ∀ stream, (ofAgent a).responsesOn stream = []) : (ofAgent a).Serves := by
  have phase := nothing_in_hand P.idle
  refine ⟨P.toStaffed, running, ready, fun stream => ?_, fun stream => ?_, fun stream => ?_⟩
  · rw [ofAgent, invocationsOn, log, (phase stream).1]
    rfl
  · rw [silent, ofAgent, (phase stream).2]
    rfl
  · rw [ofAgent, (phase stream).2]
    exact fun _ h => (List.not_mem_nil h).elim

theorem serves_of_prepared {link : L} {config : AgentConfig} {a : Agent L}
    (H : Prepared link config a) (untouched : FrameLink.taken link = [])
    (ready : FrameLink.Ready link) : (ofAgent a).Serves := by
  have fresh : (ofAgent (fresh link config)).Serves :=
    serves_of_poised (poised_fresh link config) rfl ready rfl fun stream =>
      congrArg (List.filterMap (payloadIn .response stream)) untouched
  have started : (ofAgent (start link config).2).Serves := by
    unfold start
    simp only
    split
    · exact fresh.announced (.inr rfl) StreamId.control []
    · exact fresh
  obtain ⟨link', outbound, sent, eq⟩ := start_eq link config
  have log : (start link config).2.invocations = [] := by
    rw [eq]
    rfl
  obtain ⟨⟨serving, slots, workers, rfl⟩, poised⟩ := H.poised
  refine serves_of_poised poised started.running started.ready log fun stream => ?_
  have answered : (ofAgent (start link config).2).responsesOn stream ++ _ = [] :=
    started.answered stream
  exact (List.append_eq_nil_iff.mp answered).1

end Host
end Agent
end CommandLink
