import CommandLink.Proofs.Controller.Intake
import CommandLink.Proofs.Controller.Requests
import CommandLink.Proofs.Controller.Sync

/-! # A stream in one hand

Whoever holds a stream makes requests on it one after the other, and everybody else keeps to other
streams (`Host.handles`). Then at most one call at a time is busy on the stream, and only that call
sends commands on it. What waits on the stream for a call is what waited before or what the receive
path has just taken in, whatever the step (`Host.waiting_act`). -/

namespace CommandLink

namespace Controller

variable {L : Type}

/-- The stream that a call is about. -/
def Call.stream? : Call → Option StreamId
  | .listen wait => some wait.stream
  | .discard command _ | .transmit command _ => some command.stream
  | _ => none

namespace Thread

/-- The call of a thread is under way on a stream. -/
def BusyOn (stream : StreamId) (t : Thread) : Prop :=
  t.result = none ∧ t.call.stream? = some stream

instance (stream : StreamId) (t : Thread) : Decidable (t.BusyOn stream) :=
  decidable_of_iff (t.result.isNone ∧ t.call.stream? = some stream) (by simp [BusyOn])

end Thread

/-- The response on a stream that the receive path holds. -/
def heldOn (c : Controller L) (stream : StreamId) : List Octets :=
  ((c.receiving.filter (·.stream == stream)).map PendingResponse.body).toList

theorem waitingOn_eq (c : Controller L) (stream : StreamId) :
    c.waitingOn stream = (c.slots.get stream).item.toList ++ c.heldOn stream := rfl

theorem Thread.errand_of_take {t u : Thread} {progress : Call.Result}
    (h : t.take progress = some u) : u.errand = t.errand := by
  rcases Thread.take_cases h with ⟨result, -, rfl⟩ | ⟨call, -, rfl⟩ <;> rfl

namespace Host

/-- Requests on a stream come one after the other, and nobody else sends or takes anything there. -/
def handles (stream : StreamId) (h : Host L) : Action → Bool
  | .begin (.request command _) =>
    command.stream ≠ stream || h.threads.all fun t => ¬ t.BusyOn stream
  | .begin (.receive other _ _ _) => other ≠ stream
  | .send command => command.stream ≠ stream
  | _ => true

/-- Thread `a` is busy on a stream. -/
def BusyAt (stream : StreamId) (h : Host L) (a : Nat) : Prop :=
  ∃ t, h.threads[a]? = some t ∧ t.BusyOn stream

end Host

/-! ## Calls stay on their streams -/

theorem Call.stream?_step [Datalink L] (c : Controller L) {call next : Call}
    (h : (call.step c).2 = .next next) : next.stream? = call.stream? := by
  cases call with
  | discard command timeout =>
    cases h
    rfl
  | _ =>
    simp only [Call.step] at h
    (repeat' split at h) <;> cases h <;> rfl

theorem Call.stream?_expire {call next : Call} {timeout : Duration}
    (h : call.expire timeout = .next next) : next.stream? = call.stream? := by
  cases call <;> cases h
  rfl

theorem Thread.BusyOn.of_take {stream : StreamId} {t u : Thread} {progress : Call.Result}
    (h : t.take progress = some u) (free : t.result = none)
    (onward : ∀ next, progress = .next next → next.stream? = t.call.stream?)
    (busy : u.BusyOn stream) : t.BusyOn stream := by
  rcases Thread.take_cases h with ⟨result, -, rfl⟩ | ⟨next, hn, rfl⟩
  · exact nomatch busy.1
  · exact ⟨free, (onward next hn).symm.trans busy.2⟩

namespace Host

variable {h h' : Host L} {incoming : List Octets} {action : Action} {stream : StreamId} {a i : Nat}

/-- How a step changes the threads: one is added, or one goes on or loses its patience. -/
inductive Shift (h h' : Host L) : Action → Prop
  | begin (errand : Errand) (threads : h'.threads = h.threads ++ [.ofErrand errand]) :
      Shift h h' (.begin errand)
  | move {action : Action} {i : Nat} {t u : Thread} {progress : Call.Result}
      (cause : action = .advance i ∨ action = .expire i ∧ t.call.limit.isSome)
      (ht : h.threads[i]? = some t) (free : t.result = none) (take : t.take progress = some u)
      (onward : ∀ next, progress = .next next → next.stream? = t.call.stream?)
      (threads : h'.threads = h.threads.set i u) : Shift h h' action
  | none {action : Action} (threads : h'.threads = h.threads) : Shift h h' action

theorem act_shift [Datalink L] (ha : h.act incoming action = some h') : Shift h h' action := by
  cases action with
  | begin errand =>
    cases ha
    exact .begin errand rfl
  | advance i =>
    obtain ⟨t, u, ht, free, htake, rfl⟩ := act_advance ha
    exact .move (.inl rfl) ht free htake (fun _ => Call.stream?_step _) rfl
  | expire i =>
    obtain ⟨t, limit, u, ht, free, hl, htake, rfl⟩ := act_expire ha
    exact .move (.inr ⟨rfl, by rw [hl]; rfl⟩) ht free htake (fun _ => Call.stream?_expire) rfl
  | hear =>
    obtain ⟨octets, -, -, rfl⟩ := act_hear ha
    exact .none rfl
  | pass =>
    obtain ⟨c, -, rfl⟩ := Option.map_eq_some_iff.mp ha
    exact .none rfl
  | _ =>
    cases ha
    exact .none rfl

/-- What a thread was before a step: the same, not there yet, or at the point that the step takes it
on from. -/
theorem thread_before [Datalink L] (ha : h.act incoming action = some h') {u : Thread}
    (hu : h'.threads[i]? = some u) :
    h.threads[i]? = some u ∨
      (∃ errand, action = .begin errand ∧ i = h.threads.length ∧ u = .ofErrand errand) ∨
      ∃ t progress, (action = .advance i ∨ action = .expire i ∧ t.call.limit.isSome) ∧
        h.threads[i]? = some t ∧ t.result = none ∧ t.take progress = some u ∧
        ∀ next, progress = .next next → next.stream? = t.call.stream? := by
  cases act_shift ha with
  | begin errand threads =>
    rw [threads] at hu
    rcases getElem?_concat_cases hu with hu | ⟨rfl, rfl⟩
    · exact .inl hu
    · exact .inr (.inl ⟨errand, rfl, rfl, rfl⟩)
  | @move _ j t u' progress cause ht free take onward threads =>
    rw [threads, List.getElem?_set] at hu
    split at hu
    · next e =>
      subst e
      split at hu
      · cases hu
        exact .inr (.inr ⟨t, progress, cause, ht, free, take, onward⟩)
      · cases hu
    · exact .inl hu
  | none threads => exact .inl (threads ▸ hu)

/-- A call that is busy on the stream was so before, unless it begins now and is the only one. -/
theorem busyAt_act [Datalink L] (ha : h.act incoming action = some h')
    (ok : h.handles stream action = true) (busy : h'.BusyAt stream a) :
    h.BusyAt stream a ∨ a = h.threads.length ∧ ∀ b, ¬ h.BusyAt stream b := by
  obtain ⟨u, hu, on⟩ := busy
  rcases thread_before ha hu with
    hu | ⟨errand, rfl, rfl, rfl⟩ | ⟨t, progress, -, ht, free, take, onward⟩
  · exact .inl ⟨u, hu, on⟩
  · have here : errand.call.stream? = some stream := on.2
    cases errand with
    | request command timeout =>
      have here : command.stream = stream := Option.some.inj here
      refine .inr ⟨rfl, fun b ⟨v, hv, busy⟩ => ?_⟩
      simp only [handles, here, ne_eq, not_true_eq_false, decide_false, Bool.false_or,
        List.all_eq_true, decide_eq_true_eq] at ok
      exact ok v (List.mem_of_getElem? hv) busy
    | receive other expected capacity timeout =>
      have here : other = stream := Option.some.inj here
      simp [handles, here] at ok
    | awaitAgent timeout => cases here
    | sync timeout => cases here
  · exact .inl ⟨t, ht, .of_take take free onward on⟩

/-- A thread changes when it goes on or its time runs out, and not once its call has returned. -/
theorem thread_act [Datalink L] (ha : h.act incoming action = some h') {t : Thread}
    (ht : h.threads[i]? = some t)
    (still : t.result.isSome ∨ action ≠ .advance i ∧ action ≠ .expire i) :
    h'.threads[i]? = some t := by
  cases act_shift ha with
  | begin errand threads =>
    rw [threads]
    exact getElem?_append_of_some ht _
  | @move _ j s u progress cause hs free take onward threads =>
    rw [threads, List.getElem?_set_ne]
    · exact ht
    · rintro rfl
      rw [ht] at hs
      cases hs
      rcases still with done | ⟨ahead, late⟩
      · rw [free] at done
        cases done
      · exact cause.elim ahead fun cause => late cause.1
  | none threads => rw [threads, ht]

end Host

/-! ## Who sends on a stream -/

variable [FrameLink L]

/-- The payloads of the commands on a stream that the link has taken. -/
def commandsOn (c : Controller L) (stream : StreamId) : List Octets :=
  (FrameLink.taken c.link).filterMap (payloadIn .command stream)

theorem Speech.commandsOn {c c' : Controller L} {attempts : List Attempt} {posts : List Post}
    (H : Speech c c' attempts posts) (stream : StreamId) :
    c'.commandsOn stream = c.commandsOn stream ++ sentOn attempts stream := by
  cases H with
  | silent link => simp [Controller.commandsOn, sentOn, delivered, link]
  | spared m he link => simp [Controller.commandsOn, sentOn, delivered, link]
  | lost m he link => simp [Controller.commandsOn, sentOn, delivered, link]
  | said m p hm hs link =>
    simp only [Controller.commandsOn, sentOn, delivered, link, List.filterMap_append,
      List.filterMap_cons, List.filterMap_nil, payloadIn_octets, hm.payloadOn stream]

theorem Call.commandsOn_step (c : Controller L) (call : Call) (stream : StreamId) :
    (call.step c).1.commandsOn stream = c.commandsOn stream ++ sentOn (call.attempts c) stream := by
  obtain ⟨posts, speech⟩ := call.step_speech c
  exact speech.commandsOn stream

/-- A request either fails to send its command, or has sent it and waits. -/
theorem Call.transmit_cases (c : Controller L) (command : Command) (timeout : Option Duration) :
    (∃ e, ((Call.transmit command timeout).step c).2 = .done (.error e)) ∨
      ((Call.transmit command timeout).step c).2 =
          .next (.listen (.forBytes command.stream command.id timeout)) ∧
        ((Call.transmit command timeout).step c).1.commandsOn command.stream =
          c.commandsOn command.stream ++ [command.body] := by
  have left := Call.commandsOn_step c (.transmit command timeout) command.stream
  cases hs : c.send command with
  | mk result c' =>
    cases result with
    | error e => exact .inl ⟨e, by simp only [Call.step, hs]⟩
    | ok u =>
      refine .inr ⟨by simp only [Call.step, hs], left.trans ?_⟩
      simp [Call.attempts, hs, sentOn, delivered, Message.bodyOn]

namespace Host

variable {h h' : Host L} {incoming : List Octets} {action : Action} {stream : StreamId} {a i : Nat}

/-- A command comes from a caller, from the callback that runs when the agent starts, or from a
request that has come to that point. -/
inductive Asked (h : Host L) (command : Command) : Action → Prop
  | caller : Asked h command (.send command)
  | hook (asks : h.endpoint.hookCommand = some command) : Asked h command .hear
  | request {i : Nat} {t : Thread} (ht : h.threads[i]? = some t) (free : t.result = none)
      {timeout : Option Duration} (call : t.call = .transmit command timeout) :
      Asked h command (.advance i)

theorem sentOn_act (ha : h.act incoming action = some h') :
    ∃ attempts, (∀ stream, h'.endpoint.commandsOn stream =
        h.endpoint.commandsOn stream ++ sentOn attempts stream) ∧
      ∀ attempt ∈ attempts, ∀ command, attempt.message = .command command →
        h.Asked command action := by
  cases action with
  | send command =>
    obtain ⟨posts, speech⟩ := h.endpoint.send_speech command
    cases ha
    refine ⟨_, speech.commandsOn, fun attempt hm c hc => ?_⟩
    cases List.mem_singleton.mp hm
    cases hc
    exact .caller
  | reset =>
    obtain ⟨posts, speech⟩ := h.endpoint.resetAgent_speech
    cases ha
    refine ⟨_, speech.commandsOn, fun attempt hm c hc => ?_⟩
    cases List.mem_singleton.mp hm
    cases hc
  | advance i =>
    obtain ⟨t, u, ht, free, -, rfl⟩ := act_advance ha
    obtain ⟨posts, speech⟩ := t.call.step_speech h.endpoint
    refine ⟨_, speech.commandsOn, fun attempt hm c hc => ?_⟩
    cases call : t.call with
    | transmit command timeout =>
      rw [call] at hm
      cases List.mem_singleton.mp hm
      cases hc
      exact .request ht free call
    | syncTransmit attempt =>
      rw [call] at hm
      cases List.mem_singleton.mp hm
      cases hc
    | _ =>
      rw [call] at hm
      cases hm
  | hear =>
    obtain ⟨octets, -, -, rfl⟩ := act_hear ha
    obtain ⟨attempts, posts, told, H⟩ := h.endpoint.receive_callsBack octets
    refine ⟨attempts, H.speech.commandsOn, fun attempt hm c hc => ?_⟩
    obtain ⟨-, command, asks, e⟩ := H.outcome attempt hm
    rw [hc] at e
    cases e
    exact .hook asks
  | expire i =>
    obtain ⟨t, limit, u, -, -, -, -, rfl⟩ := act_expire ha
    exact ⟨[], fun _ => (List.append_nil _).symm, fun _ hm => (List.not_mem_nil hm).elim⟩
  | pass =>
    obtain ⟨c, hc, rfl⟩ := Option.map_eq_some_iff.mp ha
    obtain ⟨response, -, -, rfl⟩ := deliver_cases hc
    exact ⟨[], fun _ => (List.append_nil _).symm, fun _ hm => (List.not_mem_nil hm).elim⟩
  | _ =>
    cases ha
    exact ⟨[], fun _ => (List.append_nil _).symm, fun _ hm => (List.not_mem_nil hm).elim⟩

theorem commandsOn_prefix (ha : h.act incoming action = some h') (stream : StreamId) :
    h.endpoint.commandsOn stream <+: h'.endpoint.commandsOn stream := by
  obtain ⟨attempts, sent, -⟩ := sentOn_act ha
  exact ⟨_, (sent stream).symm⟩

/-- Where no call that is busy on the stream goes on, no command is sent there. -/
theorem commandsOn_act (ha : h.act incoming action = some h')
    (ok : h.handles stream action = true)
    (hook : ∀ command, h.endpoint.hookCommand = some command → command.stream ≠ stream)
    (still : ∀ i, action = .advance i → ¬ h.BusyAt stream i) :
    h'.endpoint.commandsOn stream = h.endpoint.commandsOn stream := by
  obtain ⟨attempts, sent, asked⟩ := sentOn_act ha
  have silent : sentOn attempts stream = [] := by
    rw [sentOn, List.filterMap_eq_nil_iff]
    intro m hm
    obtain ⟨attempt, hattempt, e⟩ := List.mem_filterMap.mp hm
    cases hb : m.bodyOn stream with
    | none => rfl
    | some body =>
      obtain ⟨command, rfl, here, -⟩ := Message.mem_of_bodyOn hb
      have message : attempt.message = .command command := by
        split at e
        · exact Option.some.inj e
        · cases e
      cases asked attempt hattempt command message with
      | caller => simp [handles, here] at ok
      | hook asks => exact absurd here (hook command asks)
      | request ht free call =>
        exact absurd ⟨_, ht, free, by rw [call]; exact congrArg some here⟩ (still _ rfl)
  rw [sent stream, silent, List.append_nil]

theorem hookCommand_act (ha : h.act incoming action = some h') :
    h'.endpoint.hookCommand = h.endpoint.hookCommand := by
  have onStart : h'.endpoint.onStart = h.endpoint.onStart := by
    cases act_effect ha with
    | spoke attempts posts speech kept => exact kept.onStart
    | heard octets next free eq =>
      obtain ⟨attempts, posts, told, H⟩ := h.endpoint.receive_callsBack octets
      exact eq ▸ H.onStart
    | passed c deliver eq =>
      obtain ⟨response, -, -, rfl⟩ := deliver_cases deliver
      rw [eq]
  rw [hookCommand, onStart, hookCommand]

end Host

/-! ## What waits on a stream -/

/-- A call takes what is in a slot, or drops it, and puts nothing there. -/
theorem Call.item_step (c : Controller L) (call : Call) (stream : StreamId) {body : Octets}
    (h : ((call.step c).1.slots.get stream).item = some body) :
    (c.slots.get stream).item = some body := by
  have emptied : ∀ {s : StreamId} {slot : Slot Octets}, slot.item = none →
      ((c.slots.set s slot).get stream).item = some body →
      (c.slots.get stream).item = some body := by
    intro s slot empty hb
    rw [StreamTable.get_set] at hb
    split at hb
    · rw [empty] at hb
      cases hb
    · exact hb
  cases call with
  | listen wait =>
    simp only [Call.step] at h
    split at h
    · next body' slot' hp =>
      obtain ⟨-, rfl⟩ := Slot.taken_of_pop hp
      exact emptied rfl h
    · exact h
    · split at h <;> exact h
  | discard command timeout => exact emptied rfl h
  | transmit command timeout =>
    obtain ⟨link, outbound, sent, eq⟩ := c.send_eq command
    rwa [step_transmit, eq] at h
  | syncTransmit attempt =>
    obtain ⟨link, outbound, sent, eq⟩ := c.sendSync_eq attempt.payload
    rwa [step_syncTransmit, eq] at h
  | _ =>
    simp only [Call.step] at h
    (repeat' split at h) <;> exact h

/-- A call closes no slot, and opens none. -/
theorem Call.closed_step (c : Controller L) (call : Call) (stream : StreamId) :
    ((call.step c).1.slots.get stream).closed = (c.slots.get stream).closed := by
  have alike : ∀ {s : StreamId} {slot : Slot Octets}, slot.closed = (c.slots.get s).closed →
      ((c.slots.set s slot).get stream).closed = (c.slots.get stream).closed := by
    intro s slot same
    rw [StreamTable.get_set]
    split
    · next e => exact e ▸ same
    · rfl
  cases call with
  | listen wait =>
    simp only [Call.step]
    split
    · next body slot hp =>
      obtain ⟨-, rfl⟩ := Slot.taken_of_pop hp
      exact alike rfl
    · rfl
    · split <;> rfl
  | discard command timeout => exact alike rfl
  | transmit command timeout =>
    obtain ⟨link, outbound, sent, eq⟩ := c.send_eq command
    rw [step_transmit, eq]
  | syncTransmit attempt =>
    obtain ⟨link, outbound, sent, eq⟩ := c.sendSync_eq attempt.payload
    rw [step_syncTransmit, eq]
  | _ => simp only [Call.step] <;> (repeat' split) <;> rfl

/-- What one step of a wait comes to. -/
theorem Call.listen_cases (c : Controller L) (wait : Listening) :
    (∃ body, (c.slots.get wait.stream).item = some body ∧
      ((Call.listen wait).step c).2 = .done ((wait.read body).map .payload)) ∨
    (∃ e, ((Call.listen wait).step c).2 = .done (.error e)) ∨
    ((Call.listen wait).step c).2 = .blocked ∨
    ∃ seen, ((Call.listen wait).step c).2 = .next (.listen { wait with seen := seen }) := by
  simp only [Call.step]
  split
  · next body slot hp => exact .inl ⟨body, (Slot.taken_of_pop hp).1, rfl⟩
  · exact .inr (.inl ⟨_, rfl⟩)
  · split
    · exact .inr (.inr (.inl rfl))
    · exact .inr (.inr (.inr ⟨_, rfl⟩))

namespace Host

variable {h h' : Host L} {incoming : List Octets} {action : Action} {stream : StreamId}

/-- `new` are the responses on a stream that the receive path takes in with a step: it may hold them
now, and what waits on the stream is among them if it has not waited before. -/
structure TakesIn (incoming : List Octets) (stream : StreamId) (h h' : Host L)
    (new : List Octets) : Prop where
  replies : h'.repliesOn incoming stream = h.repliesOn incoming stream ++ new
  held : h'.endpoint.heldOn stream <:+ h.endpoint.heldOn stream ++ new
  waiting : ∀ body ∈ h'.endpoint.waitingOn stream,
    body ∈ h.endpoint.waitingOn stream ∨ body ∈ new

omit [FrameLink L] in
/-- A step of a caller takes nothing in. -/
theorem TakesIn.caller (heard : h'.heard = h.heard)
    (receiving : h'.endpoint.receiving = h.endpoint.receiving)
    (item : ∀ body, (h'.endpoint.slots.get stream).item = some body →
      (h.endpoint.slots.get stream).item = some body) : TakesIn incoming stream h h' [] := by
  have held : h'.endpoint.heldOn stream = h.endpoint.heldOn stream := by
    rw [heldOn, receiving, heldOn]
  refine ⟨by rw [repliesOn, heard, List.append_nil, repliesOn], by rw [held, List.append_nil],
    fun body hb => .inl ?_⟩
  rw [waitingOn_eq, held] at hb
  rcases List.mem_append.mp hb with hb | hb
  · exact List.mem_append_left _ (Option.mem_toList.mpr (item body (Option.mem_toList.mp hb)))
  · exact List.mem_append_right _ hb

/-- The receive path takes a frame, and holds it if it is a response. -/
theorem TakesIn.hear {octets : Octets} (next : incoming[h.heard]? = some octets)
    (free : h.endpoint.receiving = none) :
    TakesIn incoming stream h
      { h with endpoint := h.endpoint.receive (some octets), heard := h.heard + 1 }
      (payloadIn .response stream octets).toList := by
  have held : (h.endpoint.receive (some octets)).heldOn stream = [] ∨
      (h.endpoint.receive (some octets)).heldOn stream =
        (payloadIn .response stream octets).toList := by
    rcases h.endpoint.receive_receiving octets with e | ⟨response, e, found⟩
    · exact .inl (by rw [heldOn, e, free]; rfl)
    · refine .inr ?_
      rw [heldOn, e, found stream]
      by_cases hs : response.stream = stream <;> simp [hs, Option.filter]
  refine ⟨?_, ?_, fun body hb => ?_⟩
  · rw [repliesOn, take_succ_of_getElem? next, List.filterMap_append]
    cases e : payloadIn .response stream octets <;> simp [repliesOn, e]
  · rcases held with e | e
    · exact e ▸ List.nil_suffix
    · exact e ▸ List.suffix_append _ _
  · rw [waitingOn_eq, h.endpoint.receive_slots octets] at hb
    rcases List.mem_append.mp hb with hb | hb
    · exact .inl (List.mem_append_left _ hb)
    · rcases held with e | e
      · rw [e] at hb
        cases hb
      · exact .inr (e ▸ hb)

omit [FrameLink L] in
/-- The receive path passes on what it holds, or drops it. -/
theorem TakesIn.pass {c : Controller L} (hc : h.endpoint.deliver = some c) :
    TakesIn incoming stream h { h with endpoint := c } [] := by
  obtain ⟨response, hr, -, rfl⟩ := deliver_cases hc
  refine ⟨(List.append_nil _).symm, List.nil_suffix, fun body hb => .inl ?_⟩
  simp only [waitingOn_eq, heldOn, hr, Option.filter_none, Option.map_none, Option.toList_none,
    List.append_nil, Option.mem_toList] at hb ⊢
  split at hb
  · exact List.mem_append_left _ (Option.mem_toList.mpr hb)
  · simp only [StreamTable.get_set] at hb
    split at hb
    · next e =>
      cases hb
      simp [Option.filter, e]
    · exact List.mem_append_left _ (Option.mem_toList.mpr hb)

/-- Whatever the step, what waits on the stream has waited before or is taken in. -/
theorem waiting_act (ha : h.act incoming action = some h') (stream : StreamId) :
    ∃ new, TakesIn incoming stream h h' new := by
  cases action with
  | send command =>
    obtain ⟨link, outbound, sent, eq⟩ := h.endpoint.send_eq command
    have slots : (h.endpoint.send command).2.slots = h.endpoint.slots := by rw [eq]
    have receiving := (h.endpoint.send_kept command).receiving
    cases ha
    exact ⟨[], .caller rfl receiving fun body hb => by rw [← slots]; exact hb⟩
  | reset =>
    obtain ⟨link, outbound, sent, handshake, eq⟩ := h.endpoint.resetAgent_eq
    have slots : h.endpoint.resetAgent.2.slots = h.endpoint.slots := by rw [eq]
    have receiving := h.endpoint.resetAgent_kept.receiving
    cases ha
    exact ⟨[], .caller rfl receiving fun body hb => by rw [← slots]; exact hb⟩
  | advance i =>
    obtain ⟨t, u, -, -, -, rfl⟩ := act_advance ha
    exact ⟨[], .caller rfl (t.call.step_kept h.endpoint).receiving fun body =>
      t.call.item_step h.endpoint stream⟩
  | expire i =>
    obtain ⟨t, limit, u, -, -, -, -, rfl⟩ := act_expire ha
    exact ⟨[], .caller rfl rfl fun _ => id⟩
  | cancel other =>
    cases ha
    refine ⟨[], .caller rfl rfl fun body hb => ?_⟩
    simp only [Controller.cancel, StreamTable.modify, StreamTable.get_set] at hb
    split at hb
    · next e => exact e ▸ hb
    · exact hb
  | discard other =>
    cases ha
    exact ⟨[], .caller rfl rfl fun body hb =>
      Call.item_step h.endpoint (.discard ⟨other, .zero, []⟩ none) stream hb⟩
  | hear =>
    obtain ⟨octets, next, free, rfl⟩ := act_hear ha
    exact ⟨_, .hear next free⟩
  | pass =>
    obtain ⟨c, hc, rfl⟩ := Option.map_eq_some_iff.mp ha
    exact ⟨[], .pass hc⟩
  | _ =>
    cases ha
    exact ⟨[], .caller rfl rfl fun _ => id⟩

/-- No step closes a slot, and none opens one. -/
theorem closed_act (ha : h.act incoming action = some h') (stream : StreamId) :
    (h'.endpoint.slots.get stream).closed = (h.endpoint.slots.get stream).closed := by
  cases action with
  | send command =>
    obtain ⟨link, outbound, sent, eq⟩ := h.endpoint.send_eq command
    have slots : (h.endpoint.send command).2.slots = h.endpoint.slots := by rw [eq]
    cases ha
    exact congrArg (fun t => (StreamTable.get t stream).closed) slots
  | reset =>
    obtain ⟨link, outbound, sent, handshake, eq⟩ := h.endpoint.resetAgent_eq
    have slots : h.endpoint.resetAgent.2.slots = h.endpoint.slots := by rw [eq]
    cases ha
    exact congrArg (fun t => (StreamTable.get t stream).closed) slots
  | advance i =>
    obtain ⟨t, u, -, -, -, rfl⟩ := act_advance ha
    exact t.call.closed_step h.endpoint stream
  | expire i =>
    obtain ⟨t, limit, u, -, -, -, -, rfl⟩ := act_expire ha
    rfl
  | cancel other =>
    cases ha
    simp only [Controller.cancel, StreamTable.modify, StreamTable.get_set]
    split
    · next e => exact e ▸ rfl
    · rfl
  | discard other =>
    cases ha
    exact Call.closed_step h.endpoint (.discard ⟨other, .zero, []⟩ none) stream
  | hear =>
    obtain ⟨octets, -, -, rfl⟩ := act_hear ha
    exact congrArg (fun t => (StreamTable.get t stream).closed) (h.endpoint.receive_slots octets)
  | pass =>
    obtain ⟨c, hc, rfl⟩ := Option.map_eq_some_iff.mp ha
    obtain ⟨response, -, -, rfl⟩ := deliver_cases hc
    simp only
    split
    · rfl
    · rw [StreamTable.get_set]
      split
      · next e => exact e ▸ rfl
      · rfl
  | _ =>
    cases ha
    rfl

end Host
end Controller
end CommandLink
