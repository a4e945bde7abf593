import CommandLink.Proofs.Controller.Forecast
import CommandLink.Proofs.Controller.Host

/-! # Requests and their responses

A request drops what a slot holds, sends its command and waits for one response. If the requests on
each stream come one after the other, and nothing else is sent or taken on the streams, then the
responses that arrive on a stream are those that its requests have returned, in order, and at most
one more (`Controller.Ledger`). -/

namespace CommandLink
namespace Controller

variable {L : Type}

/-- What has become of a request. -/
inductive Standing
  | underway (call : Call)
  | returned (result : Except EndpointError Answer)

def Thread.standing (t : Thread) : Standing :=
  match t.result with
  | some result => .returned result
  | none => .underway t.call

/-- A request on a stream, by its command. -/
def Thread.requestOn (stream : StreamId) (t : Thread) : Option (Command × Standing) :=
  (t.errand.requestOn stream).map (·, t.standing)

theorem Thread.requestOn_request {t : Thread} {command : Command} {timeout : Option Duration}
    (h : t.errand = .request command timeout) :
    t.requestOn command.stream = some (command, t.standing) := by
  simp [requestOn, h, Errand.requestOn]

/-- The responses on a stream that nobody has taken yet. -/
def waitingOn (c : Controller L) (stream : StreamId) : List Octets :=
  (c.slots.get stream).item.toList ++
    ((c.receiving.filter (·.stream == stream)).map PendingResponse.body).toList

/-- What a request returns when `body` is the response. -/
def reading (command : Command) (body : Octets) : Except EndpointError Answer :=
  ((Listening.forBytes command.stream command.id none).read body).map .payload

/-- The points that a request passes through. -/
inductive Stage (command : Command) : Call → Prop
  | discard (timeout : Option Duration) : Stage command (.discard command timeout)
  | transmit (timeout : Option Duration) : Stage command (.transmit command timeout)
  | listen (timeout : Option Duration) {seen : Option Nat} (h : seen = none ∨ seen = some 0) :
      Stage command (.listen ⟨command.stream, command.id, none, timeout, seen⟩)

/-- The command of a request that has sent it and waits. -/
def awaited : Option (Command × Call) → List Octets
  | some (command, .listen _) => [command.body]
  | _ => []

namespace Host

/-- The requests on a stream, in the order in which they were made. -/
def requestsOn (h : Host L) (stream : StreamId) : List (Command × Standing) :=
  h.threads.filterMap (Thread.requestOn stream)

theorem stream_of_mem_requestsOn {h : Host L} {stream : StreamId} {r : Command × Standing}
    (hr : r ∈ h.requestsOn stream) : r.1.stream = stream := by
  obtain ⟨t, -, on⟩ := List.mem_filterMap.mp hr
  obtain ⟨command, hc, rfl⟩ := Option.map_eq_some_iff.mp on
  unfold Errand.requestOn at hc
  split at hc
  · obtain ⟨here, e⟩ := Option.ite_none_right_eq_some.mp hc
    cases e
    exact here
  · cases hc

/-- Requests that come one after the other on each stream, and syncs. -/
def permits (h : Host L) : Action → Bool
  | .begin (.request command _) =>
    command.payload.length ≤ payloadLimit &&
      h.threads.all fun t => (t.errand.requestOn command.stream).isNone || t.result.isSome
  | .begin (.sync _) | .advance _ | .watch _ _ | .hear | .pass => true
  | .expire i => h.threads[i]?.all fun t => (t.errand matches .sync _)
  | _ => false

end Host

/-- The requests on a stream, of which `finished` have returned, each upon its response, and
`current` has not; the commands that were sent and the responses `replies` that have arrived fit
them. -/
structure Ledger (h : Host L) (replies : List Octets) (stream : StreamId)
    (finished : List (Command × Octets)) (current : Option (Command × Call)) : Prop where
  requests : h.requestsOn stream =
    finished.map (fun r => (r.1, .returned (reading r.1 r.2))) ++
      current.toList.map fun r => (r.1, .underway r.2)
  sent : sentOn h.attempts stream = finished.map (·.1.body) ++ awaited current
  replies : replies = finished.map Prod.snd ++ h.endpoint.waitingOn stream
  stage : ∀ r ∈ current, r.1.stream = stream ∧ r.1.payload.length ≤ payloadLimit ∧ Stage r.1 r.2

/-! ## What changes on a stream -/

theorem sentOn_append (as bs : List Attempt) (stream : StreamId) :
    sentOn (as ++ bs) stream = sentOn as stream ++ sentOn bs stream := by
  simp [sentOn, delivered]

variable {h h' : Host L} {replies : List Octets} {stream : StreamId}
  {finished : List (Command × Octets)} {current : Option (Command × Call)}

theorem Ledger.same (l : Ledger h replies stream finished current)
    (requests : h'.requestsOn stream = h.requestsOn stream)
    (sent : sentOn h'.attempts stream = sentOn h.attempts stream)
    (waiting : h'.endpoint.waitingOn stream = h.endpoint.waitingOn stream) :
    Ledger h' replies stream finished current :=
  ⟨requests.trans l.requests, sent.trans l.sent, by rw [waiting]; exact l.replies, l.stage⟩

theorem Ledger.current_eq (l : Ledger h replies stream finished current) {command : Command}
    {call : Call} (hm : (command, .underway call) ∈ h.requestsOn stream) :
    current = some (command, call) := by
  rw [l.requests] at hm
  rcases List.mem_append.mp hm with hm | hm
  · obtain ⟨r, -, e⟩ := List.mem_map.mp hm
    simp at e
  · obtain ⟨⟨command', call'⟩, hr, e⟩ := List.mem_map.mp hm
    simp only [Prod.mk.injEq, Standing.underway.injEq] at e
    obtain ⟨rfl, rfl⟩ := e
    simpa using hr

theorem Ledger.returned (l : Ledger h replies stream finished current) {i : Nat} {command : Command}
    {result : Except EndpointError Answer}
    (hi : (h.requestsOn stream)[i]? = some (command, .returned result)) :
    ∃ body, finished[i]? = some (command, body) ∧ result = reading command body := by
  rw [l.requests, List.getElem?_append] at hi
  split at hi
  · rw [List.getElem?_map] at hi
    obtain ⟨⟨command', body⟩, hf, e⟩ := Option.map_eq_some_iff.mp hi
    simp only [Prod.mk.injEq, Standing.returned.injEq] at e
    obtain ⟨rfl, rfl⟩ := e
    exact ⟨body, hf, rfl⟩
  · obtain ⟨r, -, e⟩ := List.mem_map.mp (List.mem_of_getElem? hi)
    simp at e

/-- The current request goes on, or returns. -/
theorem Ledger.requestsOn_set {command : Command} {call : Call}
    (l : Ledger h replies stream finished (some (command, call))) {i : Nat} {t u : Thread}
    (ht : h.threads[i]? = some t) (on : t.requestOn stream = some (command, .underway call))
    {standing : Standing} (on' : u.requestOn stream = some (command, standing)) :
    (h.threads.set i u).filterMap (Thread.requestOn stream) =
      finished.map (fun r => (r.1, .returned (reading r.1 r.2))) ++ [(command, standing)] := by
  refine filterMap_set_last ht on on' l.requests fun hm => ?_
  obtain ⟨r, -, e⟩ := List.mem_map.mp hm
  simp at e

/-! ## Calls of requests and syncs -/

variable [FrameLink L]

/-- A sync request whose buffer takes the header. -/
def SyncAttempt.Sound (L : Type) [FrameLink L] (attempt : SyncAttempt) : Prop :=
  attempt.payload.data.length ≤ Frame.maxPayload ∧
    Header.size + FrameLink.overhead L ≤ attempt.payload.start

/-- The points that a sync passes through. -/
inductive SyncStage (L : Type) [FrameLink L] : Call → Prop
  | begin (timeout : Duration) : SyncStage L (.syncBegin timeout)
  | prepare (timeout : Duration) : SyncStage L (.syncPrepare timeout)
  | clear {attempt : SyncAttempt} (h : attempt.Sound L) : SyncStage L (.syncClear attempt)
  | publish {attempt : SyncAttempt} (h : attempt.Sound L) : SyncStage L (.syncPublish attempt)
  | transmit {attempt : SyncAttempt} (h : attempt.Sound L) : SyncStage L (.syncTransmit attempt)
  | listen (timeout : Duration) (seen : Option Nat) : SyncStage L (.syncListen timeout seen)
  | withdraw (result : Except EndpointError SyncResponse) : SyncStage L (.syncWithdraw result)

/-- A thread that makes a request or a sync. -/
inductive Thread.Modest (L : Type) [FrameLink L] : Thread → Prop
  | request (command : Command) (timeout : Option Duration) (call : Call)
      (result : Option (Except EndpointError Answer)) :
      Modest L ⟨.request command timeout, call, result⟩
  | sync (timeout : Duration) {call : Call} {result : Option (Except EndpointError Answer)}
      (h : result = none → SyncStage L call) : Modest L ⟨.sync timeout, call, result⟩

/-- A controller that is used for requests and syncs alone, over a link that takes every frame. -/
structure Host.Orderly (h : Host L) : Prop where
  running : h.endpoint.running = true
  ready : FrameLink.Ready h.endpoint.link
  attempts : ∀ a ∈ h.attempts, a.outcome = .ok () ∧ a.message ≠ .reset
  roomy : ∀ stream, (h.endpoint.slots.get stream).closed = false ∧
    (h.endpoint.slots.get stream).cancels = 0
  threads : ∀ t ∈ h.threads, t.Modest L

/-- A sync that goes on comes to its next point. -/
def SyncStage.Leaves (L : Type) [FrameLink L] : Call.Result → Prop
  | .next call => SyncStage L call
  | _ => True

/-- A step of a sync sends no more than its request, and succeeds in it. -/
theorem SyncStage.step {c : Controller L} {call : Call} (S : SyncStage L call)
    (running : c.running = true) (ready : FrameLink.Ready c.link) :
    (call.step c).1.slots = c.slots ∧ FrameLink.Ready (call.step c).1.link ∧
      (∀ a ∈ call.attempts c, a.outcome = .ok () ∧ a.message = .sync) ∧
      SyncStage.Leaves L (call.step c).2 := by
  have silent : ∀ a ∈ ([] : List Attempt), a.outcome = .ok () ∧ a.message = .sync :=
    fun _ ha => (List.not_mem_nil ha).elim
  cases S with
  | begin timeout =>
    simp only [Call.step]
    split
    · exact ⟨rfl, ready, silent, trivial⟩
    · exact ⟨rfl, ready, silent, .prepare timeout⟩
  | prepare timeout =>
    obtain ⟨b, hb, data, start⟩ :=
      reserve_of_ready (c := c.newToken.2) running ready SyncRequest.size
    simp only [Call.step, running, if_true, hb]
    refine ⟨rfl, ready, silent, .clear ⟨?_, start⟩⟩
    rw [Buffer.data_append, data]
    exact Nat.le_of_ble_eq_true rfl
  | clear h => exact ⟨rfl, ready, silent, .publish h⟩
  | publish h => exact ⟨rfl, ready, silent, .transmit h⟩
  | @transmit attempt h =>
    obtain ⟨sent, kept⟩ := sendSync_of_ready ready h.1 h.2
    obtain ⟨link, outbound, count, eq⟩ := c.sendSync_eq attempt.payload
    simp only [Call.step, Call.attempts]
    split
    · next c' hc =>
      rw [hc] at kept eq
      have slots := congrArg Controller.slots eq
      refine ⟨slots, kept, fun a ha => ?_, .listen attempt.timeout none⟩
      rw [List.mem_singleton.mp ha, hc]
      exact ⟨rfl, rfl⟩
    · next e c' hc =>
      rw [hc] at sent
      cases sent
  | listen timeout seen =>
    simp only [Call.step]
    split
    · exact ⟨rfl, ready, silent, .withdraw _⟩
    · exact ⟨rfl, ready, silent, .withdraw _⟩
    · split
      · exact ⟨rfl, ready, silent, trivial⟩
      · exact ⟨rfl, ready, silent, .listen timeout _⟩
  | withdraw result => exact ⟨rfl, ready, silent, trivial⟩

/-! ## Steps of threads -/

omit [FrameLink L] in
/-- What the threads of other streams are about does not change. -/
theorem Ledger.aside (l : Ledger h replies stream finished current) {i : Nat} {t u : Thread}
    (ht : h.threads[i]? = some t) (off : t.errand.requestOn stream = none)
    (same : u.errand = t.errand) (threads : h'.threads = h.threads.set i u)
    (sent : sentOn h'.attempts stream = sentOn h.attempts stream)
    (waiting : h'.endpoint.waitingOn stream = h.endpoint.waitingOn stream) :
    Ledger h' replies stream finished current := by
  refine l.same ?_ sent waiting
  rw [Host.requestsOn, threads]
  exact filterMap_set_of_none ht (by simp [Thread.requestOn, off])
    (by simp [Thread.requestOn, same, off])

namespace Host

/-- The responses on a stream among the frames that were heard. -/
def repliesOn (h : Host L) (incoming : List Octets) (stream : StreamId) : List Octets :=
  (incoming.take h.heard).filterMap (payloadIn .response stream)

/-- The books of every stream are in order. -/
def Balanced (h : Host L) (incoming : List Octets) : Prop :=
  ∀ stream, ∃ finished current, Ledger h (h.repliesOn incoming stream) stream finished current

variable {incoming : List Octets} {i : Nat} {t u : Thread}

theorem modest_of_mem_set {threads : List Thread} (modest : u.Modest L) :
    ∀ t ∈ threads.set i u, t ∈ threads ∨ t.Modest L := by
  intro t ht
  rcases List.mem_or_eq_of_mem_set ht with ht | rfl
  · exact .inl ht
  · exact .inr modest

omit [FrameLink L] in
theorem Balanced.congr (B : h.Balanced incoming) {incoming' : List Octets}
    (same : incoming'.take h.heard = incoming.take h.heard) : h.Balanced incoming' := by
  intro stream
  rw [repliesOn, same]
  exact B stream

theorem Orderly.step (O : h.Orderly) (running : h'.endpoint.running = h.endpoint.running)
    (ready : FrameLink.Ready h'.endpoint.link)
    (tried : ∀ a ∈ h'.attempts, a ∈ h.attempts ∨ a.outcome = .ok () ∧ a.message ≠ .reset)
    (roomy : ∀ stream,
      (h'.endpoint.slots.get stream).closed = (h.endpoint.slots.get stream).closed ∧
      (h'.endpoint.slots.get stream).cancels = (h.endpoint.slots.get stream).cancels)
    (threads : ∀ t ∈ h'.threads, t ∈ h.threads ∨ t.Modest L) : h'.Orderly := by
  refine ⟨running.trans O.running, ready, fun a ha => (tried a ha).elim (O.attempts a) id,
    fun stream => ?_, fun t ht => (threads t ht).elim (O.threads t) id⟩
  rw [(roomy stream).1, (roomy stream).2]
  exact O.roomy stream

omit [FrameLink L] in
/-- A request takes a step, and the books of its stream are brought up to date. -/
theorem Balanced.step (B : h.Balanced incoming) {command : Command} {timeout : Option Duration}
    (ht : h.threads[i]? = some t) (errand : t.errand = .request command timeout)
    (same : u.errand = t.errand) (threads : h'.threads = h.threads.set i u)
    (heard : h'.heard = h.heard)
    (elsewhere : ∀ stream, command.stream ≠ stream →
      sentOn h'.attempts stream = sentOn h.attempts stream ∧
      h'.endpoint.waitingOn stream = h.endpoint.waitingOn stream)
    {finished : List (Command × Octets)} {current : Option (Command × Call)}
    (own : Ledger h' (h.repliesOn incoming command.stream) command.stream finished current) :
    h'.Balanced incoming := by
  intro stream
  rw [repliesOn, heard]
  by_cases hs : command.stream = stream
  · subst hs
    exact ⟨finished, current, own⟩
  · obtain ⟨fs, cu, l⟩ := B stream
    refine ⟨fs, cu, l.aside ht ?_ same threads (elsewhere stream hs).1 (elsewhere stream hs).2⟩
    rw [errand]
    exact if_neg hs

section
variable {command : Command} {timeout : Option Duration} {call : Call}
  {finished : List (Command × Octets)}

omit [FrameLink L] in
/-- A request goes on to its next point, and `gained` is what it sends. -/
theorem Balanced.onward (B : h.Balanced incoming)
    (l : Ledger h (h.repliesOn incoming command.stream) command.stream finished
      (some (command, call)))
    (ht : h.threads[i]? = some ⟨.request command timeout, call, none⟩) {next : Call}
    (threads : h'.threads = h.threads.set i ⟨.request command timeout, next, none⟩)
    (heard : h'.heard = h.heard) (gained : List Octets)
    (sent : ∀ stream, sentOn h'.attempts stream =
      sentOn h.attempts stream ++ if command.stream = stream then gained else [])
    (awaits : awaited (some (command, next)) = awaited (some (command, call)) ++ gained)
    (waiting : ∀ stream, h'.endpoint.waitingOn stream = h.endpoint.waitingOn stream)
    (stage : Stage command next) : h'.Balanced incoming := by
  have on : Thread.requestOn command.stream ⟨.request command timeout, call, none⟩ =
      some (command, .underway call) := Thread.requestOn_request rfl
  have own : Ledger h' (h.repliesOn incoming command.stream) command.stream finished
      (some (command, next)) := by
    refine ⟨?_, ?_, ?_, ?_⟩
    · rw [requestsOn, threads]
      exact l.requestsOn_set ht on (Thread.requestOn_request rfl)
    · rw [sent, if_pos rfl, awaits, l.sent, List.append_assoc]
    · rw [waiting]
      exact l.replies
    · rintro r ⟨⟩
      exact ⟨rfl, (l.stage _ rfl).2.1, stage⟩
  refine B.step (u := ⟨.request command timeout, next, none⟩) ht rfl rfl threads heard
    (fun stream hs => ⟨?_, waiting stream⟩) own
  rw [sent, if_neg hs, List.append_nil]

omit [FrameLink L] in
theorem Balanced.finish (B : h.Balanced incoming) {wait : Listening} {body : Octets}
    (l : Ledger h (h.repliesOn incoming command.stream) command.stream finished
      (some (command, .listen wait)))
    (ht : h.threads[i]? = some ⟨.request command timeout, .listen wait, none⟩)
    (threads : h'.threads = h.threads.set i
      ⟨.request command timeout, .listen wait, some (reading command body)⟩)
    (heard : h'.heard = h.heard) (attempts : h'.attempts = h.attempts)
    (taken : h.endpoint.waitingOn command.stream =
      body :: h'.endpoint.waitingOn command.stream)
    (elsewhere : ∀ stream, command.stream ≠ stream →
      h'.endpoint.waitingOn stream = h.endpoint.waitingOn stream) : h'.Balanced incoming := by
  have on : Thread.requestOn command.stream ⟨.request command timeout, .listen wait, none⟩ =
      some (command, .underway (.listen wait)) := Thread.requestOn_request rfl
  have own : Ledger h' (h.repliesOn incoming command.stream) command.stream
      (finished ++ [(command, body)]) none := by
    refine ⟨?_, ?_, ?_, fun _ h => (Option.not_mem_none _ h).elim⟩
    · rw [requestsOn, threads, l.requestsOn_set ht on (Thread.requestOn_request rfl)]
      simp [Thread.standing]
    · rw [attempts, l.sent]
      simp [awaited]
    · rw [l.replies, taken]
      simp
  refine B.step (u := ⟨.request command timeout, .listen wait, some (reading command body)⟩) ht rfl
    rfl threads heard (fun stream hs => ⟨?_, elsewhere stream hs⟩) own
  rw [attempts]

theorem advance_discard (O : h.Orderly) (B : h.Balanced incoming) {limit : Option Duration}
    (l : Ledger h (h.repliesOn incoming command.stream) command.stream finished
      (some (command, .discard command limit)))
    (ht : h.threads[i]? = some ⟨.request command timeout, .discard command limit, none⟩)
    (free : h.endpoint.waitingOn command.stream = []) :
    Orderly { h with
      endpoint := h.endpoint.discard command.stream
      threads := h.threads.set i ⟨.request command timeout, .transmit command limit, none⟩ } ∧
    Balanced { h with
      endpoint := h.endpoint.discard command.stream
      threads := h.threads.set i ⟨.request command timeout, .transmit command limit, none⟩ }
      incoming := by
  refine ⟨O.step rfl O.ready (fun _ => .inl) (fun stream => ?_) (modest_of_mem_set (.request ..)),
    B.onward l ht rfl rfl [] (by simp) rfl (fun stream => ?_) (.transmit limit)⟩
  · simp only [discard, StreamTable.modify, StreamTable.get_set]
    split
    · next e => exact e ▸ ⟨rfl, rfl⟩
    · exact ⟨rfl, rfl⟩
  · by_cases hs : command.stream = stream
    · subst hs
      rw [free]
      simp only [waitingOn, List.append_eq_nil_iff] at free
      simp [waitingOn, discard, StreamTable.modify, Slot.clear, free.2]
    · simp only [waitingOn, discard, StreamTable.modify, StreamTable.get_set_of_ne _ hs]

theorem advance_transmit (O : h.Orderly) (B : h.Balanced incoming) {limit : Option Duration}
    (l : Ledger h (h.repliesOn incoming command.stream) command.stream finished
      (some (command, .transmit command limit)))
    (ht : h.threads[i]? = some ⟨.request command timeout, .transmit command limit, none⟩) :
    ∃ c, h.endpoint.send command = (.ok (), c) ∧
      Orderly { h with
        endpoint := c
        threads := h.threads.set i ⟨.request command timeout,
          .listen (.forBytes command.stream command.id limit), none⟩
        attempts := h.attempts ++ [⟨.command command, .ok ()⟩] } ∧
      Balanced { h with
        endpoint := c
        threads := h.threads.set i ⟨.request command timeout,
          .listen (.forBytes command.stream command.id limit), none⟩
        attempts := h.attempts ++ [⟨.command command, .ok ()⟩] } incoming := by
  have short : payloadHeaderSize + command.payload.length ≤ Frame.maxPayload := by
    have := (l.stage _ rfl).2.1
    simp only [payloadLimit, payloadHeaderSize, Frame.maxPayload, Frame.maxSize, Header.size] at *
    omega
  obtain ⟨sent, ready⟩ := send_of_ready O.running O.ready short
  obtain ⟨link, outbound, count, hc⟩ := h.endpoint.send_eq command
  obtain ⟨c, send⟩ : ∃ c, h.endpoint.send command = (.ok (), c) := ⟨_, Prod.ext sent rfl⟩
  rw [send] at ready hc
  refine ⟨c, send, ?_⟩
  subst hc
  refine ⟨O.step rfl ready (fun b hb => ?_) (fun _ => ⟨rfl, rfl⟩)
      (modest_of_mem_set (.request ..)),
    B.onward l ht rfl rfl [command.body] (fun stream => ?_) rfl (fun _ => rfl)
      (.listen limit (.inl rfl))⟩
  · rcases mem_or_eq_of_mem_concat hb with hb | rfl
    · exact .inl hb
    · exact .inr ⟨rfl, by simp⟩
  rw [sentOn_append]
  by_cases hs : command.stream = stream <;> simp [sentOn, delivered, Message.bodyOn, hs]

theorem advance_listen (O : h.Orderly) (B : h.Balanced incoming) {limit : Option Duration}
    {seen : Option Nat} (hseen : seen = none ∨ seen = some 0)
    (l : Ledger h (h.repliesOn incoming command.stream) command.stream finished
      (some (command, .listen ⟨command.stream, command.id, none, limit, seen⟩)))
    (ht : h.threads[i]? = some ⟨.request command timeout,
      .listen ⟨command.stream, command.id, none, limit, seen⟩, none⟩)
    (hu : Thread.take ⟨.request command timeout,
        .listen ⟨command.stream, command.id, none, limit, seen⟩, none⟩
      (Call.step h.endpoint (.listen ⟨command.stream, command.id, none, limit, seen⟩)).2 = some u) :
    Orderly { h with
      endpoint :=
        (Call.step h.endpoint (.listen ⟨command.stream, command.id, none, limit, seen⟩)).1
      threads := h.threads.set i u } ∧
    Balanced { h with
      endpoint :=
        (Call.step h.endpoint (.listen ⟨command.stream, command.id, none, limit, seen⟩)).1
      threads := h.threads.set i u } incoming := by
  have slot := O.roomy command.stream
  -- nobody gives up waiting on this stream, so that the wait has seen no cancellation
  have cancels : seen.getD (h.endpoint.slots.get command.stream).cancels = 0 := by
    rcases hseen with rfl | rfl
    · exact slot.2
    · rfl
  cases hi : (h.endpoint.slots.get command.stream).item with
  | some body =>
    have step : Call.step h.endpoint
        (.listen ⟨command.stream, command.id, none, limit, seen⟩) =
        ({ h.endpoint with slots := h.endpoint.slots.modify command.stream Slot.clear },
          .done (reading command body)) := by
      simp only [Call.step, Slot.pop, hi]
      rfl
    rw [step] at hu ⊢
    cases hu
    refine ⟨O.step rfl O.ready (fun _ => .inl) (fun stream => ?_) (modest_of_mem_set (.request ..)),
      B.finish l ht rfl rfl rfl ?_ fun stream hs => ?_⟩
    · simp only [StreamTable.modify, StreamTable.get_set]
      split
      · next e => exact e ▸ ⟨rfl, rfl⟩
      · exact ⟨rfl, rfl⟩
    · simp [waitingOn, StreamTable.modify, Slot.clear, hi]
    · simp only [waitingOn, StreamTable.modify, StreamTable.get_set_of_ne _ hs]
  | none =>
    have waits : (h.endpoint.slots.get command.stream).pop 0 = .waiting := by
      simp [Slot.pop, hi, slot.1, slot.2]
    cases seen with
    | some n =>
      simp only [Call.step, cancels, waits] at hu
      cases hu
    | none =>
      have step : Call.step h.endpoint
          (.listen ⟨command.stream, command.id, none, limit, none⟩) =
          (h.endpoint, .next (.listen ⟨command.stream, command.id, none, limit, some 0⟩)) := by
        simp only [Call.step, cancels, waits]
      rw [step] at hu ⊢
      cases hu
      exact ⟨O.step rfl O.ready (fun _ => .inl) (fun _ => ⟨rfl, rfl⟩)
          (modest_of_mem_set (.request ..)),
        B.onward l ht rfl rfl [] (by simp) rfl (fun _ => rfl) (.listen limit (.inr rfl))⟩

theorem advance_request (O : h.Orderly) (B : h.Balanced incoming)
    (ht : h.threads[i]? = some ⟨.request command timeout, call, none⟩)
    (hu : Thread.take ⟨.request command timeout, call, none⟩ (call.step h.endpoint).2 = some u)
    (clear : ∀ stream finished c timeout,
      Ledger h (h.repliesOn incoming stream) stream finished (some (c, .discard c timeout)) →
      h.endpoint.waitingOn stream = [])
    (eq : h' = { h with
      endpoint := (call.step h.endpoint).1, threads := h.threads.set i u
      attempts := h.attempts ++ call.attempts h.endpoint }) :
    h'.Orderly ∧ h'.Balanced incoming := by
  obtain ⟨finished, current, l⟩ := B command.stream
  have here : (command, .underway call) ∈ h.requestsOn command.stream :=
    List.mem_filterMap.mpr ⟨_, List.mem_of_getElem? ht, Thread.requestOn_request rfl⟩
  obtain rfl := l.current_eq here
  obtain ⟨-, -, stage⟩ : _ ∧ _ ∧ Stage command call := l.stage _ rfl
  subst eq
  cases stage with
  | discard limit =>
    cases hu
    have step := advance_discard O B l ht (clear _ _ _ _ l)
    rwa [← List.append_nil h.attempts] at step
  | transmit limit =>
    obtain ⟨c, hc, step⟩ := advance_transmit O B l ht
    simp only [Call.step, Call.attempts, hc] at hu ⊢
    cases hu
    exact step
  | listen limit hseen =>
    have step := advance_listen O B hseen l ht hu
    rwa [← List.append_nil h.attempts] at step

end

/-! ## Other steps -/

omit [FrameLink L] in
/-- A step that no request takes part in. -/
theorem Balanced.apart (B : h.Balanced incoming)
    (requests : ∀ stream, h'.requestsOn stream = h.requestsOn stream)
    (sent : ∀ stream, sentOn h'.attempts stream = sentOn h.attempts stream)
    (slots : h'.endpoint.slots = h.endpoint.slots)
    (receiving : h'.endpoint.receiving = h.endpoint.receiving) (heard : h'.heard = h.heard) :
    h'.Balanced incoming := by
  intro stream
  obtain ⟨finished, current, l⟩ := B stream
  rw [repliesOn, heard]
  exact ⟨finished, current, l.same (requests stream) (sent stream) (by
    rw [waitingOn, slots, receiving]
    rfl)⟩

theorem advance_sync (O : h.Orderly) (B : h.Balanced incoming) {timeout : Duration} {call : Call}
    (ht : h.threads[i]? = some ⟨.sync timeout, call, none⟩) (S : SyncStage L call)
    (hu : Thread.take ⟨.sync timeout, call, none⟩ (call.step h.endpoint).2 = some u)
    (eq : h' = { h with
      endpoint := (call.step h.endpoint).1, threads := h.threads.set i u
      attempts := h.attempts ++ call.attempts h.endpoint }) :
    h'.Orderly ∧ h'.Balanced incoming := by
  obtain ⟨slots, ready, tried, onward⟩ := S.step O.running O.ready
  have kept := Call.step_kept h.endpoint call
  have modest : u.Modest L ∧ u.errand = .sync timeout := by
    rcases Thread.take_cases hu with ⟨result, -, rfl⟩ | ⟨next, hn, rfl⟩
    · exact ⟨.sync timeout fun h => (nomatch h), rfl⟩
    · rw [hn] at onward
      exact ⟨.sync timeout fun _ => onward, rfl⟩
  subst eq
  refine ⟨O.step kept.running ready (fun a ha => ?_) (fun stream => ?_)
    (modest_of_mem_set modest.1),
    B.apart (fun stream => ?_) (fun stream => ?_) slots kept.receiving rfl⟩
  · rcases List.mem_append.mp ha with ha | ha
    · exact .inl ha
    · refine .inr ⟨(tried a ha).1, ?_⟩
      rw [(tried a ha).2]
      exact fun h => nomatch h
  · simp only [slots]
    exact ⟨trivial, trivial⟩
  · exact filterMap_set_of_none ht rfl (by
      rw [Thread.requestOn, modest.2]
      rfl)
  · have none_sent : sentOn (call.attempts h.endpoint) stream = [] := by
      rw [sentOn, List.filterMap_eq_nil_iff]
      intro m hm
      obtain ⟨a, ha, e⟩ := List.mem_filterMap.mp hm
      obtain ⟨ok, sync⟩ := tried a ha
      rw [ok] at e
      cases e
      rw [sync]
      rfl
    rw [sentOn_append, none_sent, List.append_nil]

omit [FrameLink L] in
theorem requestsOn_concat (h : Host L) (t : Thread) (stream : StreamId) :
    ({ h with threads := h.threads ++ [t] } : Host L).requestsOn stream =
      h.requestsOn stream ++ (t.requestOn stream).toList := by
  rw [requestsOn, List.filterMap_append, requestsOn]
  cases e : t.requestOn stream <;> simp [e]

omit [FrameLink L] in
/-- A request that may be made finds no other under way on its stream. -/
theorem current_eq_none {command : Command} {timeout : Option Duration}
    (ok : h.permits (.begin (.request command timeout)) = true)
    (l : Ledger h replies command.stream finished current) : current = none := by
  cases hc : current with
  | none => rfl
  | some r =>
    have here : (r.1, .underway r.2) ∈ h.requestsOn command.stream := by
      rw [l.requests, hc]
      exact List.mem_append_right _ (List.mem_singleton_self _)
    obtain ⟨t, ht, on⟩ := List.mem_filterMap.mp here
    simp only [permits, Bool.and_eq_true, List.all_eq_true] at ok
    have free := ok.2 t ht
    obtain ⟨c, hc', e⟩ := Option.map_eq_some_iff.mp on
    simp only [hc', Option.isNone_some, Bool.false_or, Option.isSome_iff_exists] at free
    obtain ⟨result, hr⟩ := free
    simp [Thread.standing, hr] at e

theorem begin_request (O : h.Orderly) (B : h.Balanced incoming) {command : Command}
    {timeout : Option Duration} (ok : h.permits (.begin (.request command timeout)) = true) :
    Orderly { h with threads := h.threads ++ [.ofErrand (.request command timeout)] } ∧
      Balanced { h with threads := h.threads ++ [.ofErrand (.request command timeout)] }
        incoming := by
  refine ⟨O.step rfl O.ready (fun _ => .inl) (fun _ => ⟨rfl, rfl⟩) fun t ht => ?_, fun stream => ?_⟩
  · rcases mem_or_eq_of_mem_concat ht with ht | rfl
    · exact .inl ht
    · exact .inr (.request ..)
  · obtain ⟨finished, current, l⟩ := B stream
    by_cases hs : command.stream = stream
    · subst hs
      obtain rfl := current_eq_none ok l
      refine ⟨finished, some (command, .discard command timeout), ?_, l.sent, l.replies, ?_⟩
      · rw [requestsOn_concat, l.requests, Thread.requestOn_request (t := .ofErrand _) rfl]
        simp [Thread.standing, Thread.ofErrand, Errand.call, Call.request]
      · rintro r ⟨⟩
        simp only [permits, Bool.and_eq_true, decide_eq_true_eq] at ok
        exact ⟨rfl, ok.1, .discard timeout⟩
    · refine ⟨finished, current, l.same ?_ rfl rfl⟩
      rw [requestsOn_concat, Thread.requestOn, Thread.ofErrand, Errand.requestOn, if_neg hs]
      exact List.append_nil _

theorem hear_response (O : h.Orderly) {us : List Post} (B : h.Balanced (us.map Post.octets))
    (onStart : h.endpoint.onStart = none) (free : h.endpoint.receiving = none) {p : Post}
    (hp : us[h.heard]? = some p)
    (next : Discipline.controller.verdict h.endpoint.inbound p = .next) :
    Orderly { h with endpoint := h.endpoint.receive (some p.octets), heard := h.heard + 1 } ∧
      Balanced { h with endpoint := h.endpoint.receive (some p.octets), heard := h.heard + 1 }
        (us.map Post.octets) := by
  obtain ⟨handshake, slot, log, eq⟩ := receive_octets free onStart p
  have held : h.endpoint.holds p = (p.kind == .response) := by simp [holds, next]
  refine ⟨O.step (by rw [eq]) (by rw [eq]; exact O.ready) (fun _ => .inl)
    (fun _ => by rw [eq]; exact ⟨rfl, rfl⟩) fun _ ht => .inl ht, fun stream => ?_⟩
  obtain ⟨finished, current, l⟩ := B stream
  refine ⟨finished, current, l.requests, l.sent, ?_, l.stage⟩
  have heard : repliesOn { h with
      endpoint := h.endpoint.receive (some p.octets), heard := h.heard + 1 }
      (us.map Post.octets) stream =
      h.repliesOn (us.map Post.octets) stream ++ (p.payloadOn .response stream).toList := by
    rw [repliesOn, List.take_add_one, List.getElem?_map, hp, List.filterMap_append]
    cases e : p.payloadOn .response stream <;> simp [repliesOn, e]
  have waiting : (h.endpoint.receive (some p.octets)).waitingOn stream =
      h.endpoint.waitingOn stream ++ (p.payloadOn .response stream).toList := by
    rw [eq, waitingOn, waitingOn, free, held, Post.payloadOn]
    by_cases hk : p.kind = .response <;> by_cases hs : p.stream = stream <;>
      simp [hk, hs, Option.filter]
  rw [heard, waiting, l.replies, List.append_assoc]

theorem pass_response (O : h.Orderly) (B : h.Balanced incoming) {c : Controller L}
    (hd : h.endpoint.deliver = some c) :
    Orderly { h with endpoint := c } ∧ Balanced { h with endpoint := c } incoming := by
  obtain ⟨response, hr, room, eq⟩ := deliver_cases hd
  have roomy := (O.roomy response.stream).1
  have empty : (h.endpoint.slots.get response.stream).item = none := by
    rcases room with closed | ⟨-, empty⟩
    · rw [roomy] at closed
      cases closed
    · exact empty
  rw [if_neg (by simp [roomy])] at eq
  refine ⟨O.step (by rw [eq]) (by rw [eq]; exact O.ready) (fun _ => .inl) (fun stream => ?_)
    fun _ ht => .inl ht, fun stream => ?_⟩
  · rw [eq]
    simp only [StreamTable.get_set]
    split
    · next e => exact e ▸ ⟨rfl, rfl⟩
    · exact ⟨rfl, rfl⟩
  · obtain ⟨finished, current, l⟩ := B stream
    refine ⟨finished, current, l.same rfl rfl ?_⟩
    rw [eq, waitingOn, waitingOn, hr]
    by_cases hs : response.stream = stream
    · subst hs
      simp [empty, Option.filter]
    · simp [hs, StreamTable.get_set_of_ne _ hs, Option.filter]

/-- A step that is permitted keeps the books in order, as long as nothing waits on a stream where
a request begins. -/
theorem requests_act {us : List Post} {action : Action}
    (ha : h.act (us.map Post.octets) action = some h') (ok : h.permits action = true)
    (O : h.Orderly) (B : h.Balanced (us.map Post.octets))
    (clear : ∀ stream finished c timeout,
      Ledger h (h.repliesOn (us.map Post.octets) stream) stream finished
        (some (c, .discard c timeout)) → h.endpoint.waitingOn stream = [])
    (onStart : h.endpoint.onStart = none)
    (next : h.endpoint.receiving = none → ∀ p, us[h.heard]? = some p →
      Discipline.controller.verdict h.endpoint.inbound p = .next) :
    h'.Orderly ∧ h'.Balanced (us.map Post.octets) := by
  cases action with
  | begin errand =>
    cases errand with
    | request command timeout =>
      cases ha
      exact begin_request O B ok
    | sync timeout =>
      cases ha
      refine ⟨O.step rfl O.ready (fun _ => .inl) (fun _ => ⟨rfl, rfl⟩) fun t ht => ?_,
        B.apart (fun stream => ?_) (fun _ => rfl) rfl rfl rfl⟩
      · rcases mem_or_eq_of_mem_concat ht with ht | rfl
        · exact .inl ht
        · exact .inr (.sync timeout fun _ => .begin timeout)
      · rw [requestsOn_concat]
        exact List.append_nil _
    | receive => cases ok
    | awaitAgent => cases ok
  | advance j =>
    obtain ⟨⟨errand, call, result⟩, u, ht, hr, hu, eq⟩ := act_advance ha
    cases hr
    cases O.threads _ (List.mem_of_getElem? ht) with
    | request command timeout => exact advance_request O B ht hu clear eq
    | sync timeout S => exact advance_sync O B ht (S rfl) hu eq
  | expire j =>
    obtain ⟨⟨errand, call, result⟩, limit, u, ht, hr, -, hu, eq⟩ := act_expire ha
    cases hr
    simp only [permits, ht, Option.all_some] at ok
    cases O.threads _ (List.mem_of_getElem? ht) with
    | request command timeout => cases ok
    | sync timeout S =>
      have gone : u = ⟨.sync timeout, .syncWithdraw (.error (.timeout limit)), none⟩ := by
        cases S rfl <;> cases hu
        rfl
      subst gone
      subst eq
      exact ⟨O.step rfl O.ready (fun _ => .inl) (fun _ => ⟨rfl, rfl⟩)
          (modest_of_mem_set (.sync timeout fun _ => .withdraw _)),
        B.apart (fun stream => filterMap_set_of_none ht rfl rfl) (fun _ => rfl) rfl rfl rfl⟩
  | watch beacon standbyExit =>
    cases ha
    exact ⟨O.step rfl O.ready (fun _ => .inl) (fun _ => ⟨rfl, rfl⟩) fun _ ht => .inl ht,
      B.apart (fun _ => rfl) (fun _ => rfl) rfl rfl rfl⟩
  | hear =>
    obtain ⟨p, hp, free, rfl⟩ := act_hear_post ha
    exact hear_response O B onStart free hp (next free p hp)
  | pass =>
    obtain ⟨c, hd, rfl⟩ := Option.map_eq_some_iff.mp ha
    exact pass_response O B hd
  | _ => cases ok

end Host
end Controller
end CommandLink
