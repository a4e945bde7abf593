import CommandLink.Proofs.Agent.Host

/-! # How commands get to their workers

A command that is not dropped as a repeat goes from the receive path into its stream's slot and from
there to the stream's worker. None is lost on that way as long as the slots of the open streams take
items: on each stream the commands that were handed to a worker and those that still wait are, in
this order, the commands that were heard (`Agent.Routed`). -/

namespace CommandLink

/-- The payload of the frame that an invocation goes back to. -/
def Invocation.body (i : Invocation) : Octets := CommandHeader.encode ⟨i.id⟩ ++ i.payload

namespace Agent

variable {L : Type}

/-- The invocations for commands on a stream. -/
def invocationsOn (a : Agent L) (stream : StreamId) : List Invocation :=
  a.invocations.filter (·.stream == stream)

/-- The commands on a stream that no worker has taken up yet. -/
def waitingOn (a : Agent L) (stream : StreamId) : List Octets :=
  (a.slots.get stream).item.toList ++
    ((a.receiving.filter (·.stream == stream)).map PendingCommand.body).toList

/-- Every command among the frames is a whole one, for an open stream. -/
def Addressed (a : Agent L) (posts : List Post) : Prop :=
  ∀ p ∈ posts, p.kind = .command → a.isOpen p.stream = true ∧
    ∃ i : Invocation, i.stream = p.stream ∧ p.payload = i.body

/-- Nothing of the commands among the frames `heard` is lost. -/
structure Routed (a : Agent L) (heard : List Post) : Prop where
  roomy : ∀ stream, a.isOpen stream = true → (a.slots.get stream).closed = false
  accounted : ∀ stream, (a.invocationsOn stream).map Invocation.body ++ a.waitingOn stream =
    retained (Discipline.agent.verdicts heard) (heard.map (Post.payloadOn .command stream))

/-- Nothing changes on the way of the commands. -/
structure SameWays (a b : Agent L) : Prop where
  serving : b.serving = a.serving
  slots : b.slots = a.slots
  receiving : b.receiving = a.receiving
  invocations : b.invocations = a.invocations

variable {a b : Agent L} {heard : List Post}

theorem isOpen_congr (h : b.serving = a.serving) (stream : StreamId) :
    b.isOpen stream = a.isOpen stream := by
  simp only [isOpen, h]

theorem Routed.same (R : a.Routed heard) (S : SameWays a b) : b.Routed heard := by
  refine ⟨fun stream ho => ?_, fun stream => ?_⟩
  · rw [isOpen_congr S.serving] at ho
    rw [S.slots]
    exact R.roomy stream ho
  · rw [invocationsOn, waitingOn, S.invocations, S.slots, S.receiving]
    exact R.accounted stream

/-- What waits on a stream is a whole command, and the stream is open. -/
theorem Routed.whole (R : a.Routed heard) (A : a.Addressed heard) {stream : StreamId}
    {body : Octets} (h : body ∈ a.waitingOn stream) :
    a.isOpen stream = true ∧ ∃ i : Invocation, i.stream = stream ∧ body = i.body := by
  have taken := mem_of_mem_retained (R.accounted stream ▸ List.mem_append_right _ h)
  obtain ⟨p, hp, eq⟩ := List.mem_map.mp taken
  simp only [Post.payloadOn, Option.ite_none_right_eq_some, Option.some.injEq] at eq
  obtain ⟨⟨hk, rfl⟩, hb⟩ := eq
  obtain ⟨ho, i, hi, hbody⟩ := A p hp hk
  exact ⟨ho, i, hi, hb.symm.trans hbody⟩

theorem mem_waitingOn_of_item {stream : StreamId} {body : Octets}
    (h : (a.slots.get stream).item = some body) : body ∈ a.waitingOn stream := by
  simp [waitingOn, h]

theorem mem_waitingOn_of_receiving {command : PendingCommand} (h : a.receiving = some command) :
    command.body ∈ a.waitingOn command.stream := by
  simp [waitingOn, h, Option.filter]

/-! ## Workers -/

/-- The invocation that a command comes to, if it is long enough for a header. -/
def invocationOf (stream : StreamId) (body : Octets) : Option Invocation :=
  match CommandHeader.decode body with
  | .ok header => some ⟨stream, header.id, body.drop payloadHeaderSize⟩
  | .error _ => none

theorem invocationOf_body (i : Invocation) : invocationOf i.stream i.body = some i := by
  simp only [invocationOf, Invocation.body, CommandHeader.decode_encode_append]
  rfl

theorem stream_of_invocationOf {stream : StreamId} {body : Octets} {i : Invocation}
    (h : invocationOf stream body = some i) : i.stream = stream := by
  unfold invocationOf at h
  split at h
  · rw [← Option.some.inj h]
  · cases h

/-- Taking the item out of a slot neither closes nor opens it. -/
theorem closed_modify_clear (slots : StreamTable (Slot Octets)) (stream s : StreamId) :
    ((slots.modify stream Slot.clear).get s).closed = (slots.get s).closed := by
  rw [StreamTable.modify, StreamTable.get_set]
  split
  · next e => rw [e, Slot.clear]
  · rfl

/-- A worker takes up a command that waits, answers it if it is too short, or stops. -/
theorem takeUp_ways {w : Worker} (h : a.takeUp w = some b) :
    (∃ body i, (a.slots.get w.stream).item = some body ∧ invocationOf w.stream body = some i ∧
      b = ({ a with slots := a.slots.modify w.stream Slot.clear }.setPhase w.id
        (.handling i)).record (.invoked i)) ∨
    (∃ body, (a.slots.get w.stream).item = some body ∧ invocationOf w.stream body = none ∧
      b = { a with slots := a.slots.modify w.stream Slot.clear }.setPhase w.id
        (.answering (responsePayload CommandId.zero (.error .error)))) ∨
    ((a.slots.get w.stream).item = none ∧ (a.slots.get w.stream).closed = true ∧
      b = a.setPhase w.id .stopped) := by
  unfold takeUp at h
  cases hitem : (a.slots.get w.stream).item with
  | some body =>
    simp only [Slot.pop, hitem] at h
    split at h
    · next header hd =>
      exact .inl ⟨body, _, rfl, by rw [invocationOf, hd], (Option.some.inj h).symm⟩
    · next hd => exact .inr (.inl ⟨body, rfl, by rw [invocationOf, hd], (Option.some.inj h).symm⟩)
  | none =>
    cases hc : (a.slots.get w.stream).closed with
    | false => simp [Slot.pop, hitem, hc] at h
    | true =>
      simp only [Slot.pop, hitem, hc, if_true, Option.some.injEq] at h
      exact .inr (.inr ⟨rfl, rfl, h.symm⟩)

/-- The same, where only whole commands wait. -/
theorem takeUp_cases {w : Worker} (h : a.takeUp w = some b)
    (whole : ∀ body, (a.slots.get w.stream).item = some body →
      ∃ i : Invocation, i.stream = w.stream ∧ body = i.body) :
    (∃ i : Invocation, i.stream = w.stream ∧ (a.slots.get w.stream).item = some i.body ∧
      b = ({ a with slots := a.slots.modify w.stream Slot.clear }.setPhase w.id
        (.handling i)).record (.invoked i)) ∨
    ((a.slots.get w.stream).item = none ∧ (a.slots.get w.stream).closed = true ∧
      b = a.setPhase w.id .stopped) := by
  have found : ∀ body, (a.slots.get w.stream).item = some body →
      ∃ i : Invocation, i.stream = w.stream ∧ body = i.body ∧
        invocationOf w.stream body = some i := by
    intro body hb
    obtain ⟨i, hi, rfl⟩ := whole body hb
    exact ⟨i, hi, rfl, hi ▸ invocationOf_body i⟩
  rcases takeUp_ways h with ⟨body, i, hb, hi, e⟩ | ⟨body, hb, hi, -⟩ | stopped
  · obtain ⟨j, hj, rfl, found⟩ := found body hb
    obtain rfl : i = j := Option.some.inj (hi.symm.trans found)
    exact .inl ⟨i, hj, hb, e⟩
  · obtain ⟨j, -, -, found⟩ := found body hb
    cases hi.symm.trans found
  · exact .inr stopped

theorem invocations_record (a : Agent L) (i : Invocation) :
    (a.record (.invoked i)).invocations = a.invocations ++ [i] := by
  simp [invocations, record]

theorem invocationsOn_record (a : Agent L) (i : Invocation) (stream : StreamId) :
    (a.record (.invoked i)).invocationsOn stream =
      a.invocationsOn stream ++ if i.stream = stream then [i] else [] := by
  rw [invocationsOn, invocations_record, List.filter_append]
  by_cases h : i.stream = stream <;> simp [invocationsOn, h]

theorem Routed.takeUp (R : a.Routed heard) (A : a.Addressed heard) {w : Worker}
    (h : a.takeUp w = some b) : b.serving = a.serving ∧ b.Routed heard := by
  rcases takeUp_cases h fun body hb => (R.whole A (mem_waitingOn_of_item hb)).2 with
    ⟨i, hi, hitem, rfl⟩ | ⟨-, -, rfl⟩
  · refine ⟨rfl, fun stream ho => ?_, fun stream => ?_⟩
    · have roomy := R.roomy stream ho
      simp only [setPhase, record, StreamTable.modify, StreamTable.get_set]
      split
      · next e => rwa [e]
      · exact roomy
    · rw [← R.accounted stream, invocationsOn_record, List.map_append, List.append_assoc]
      refine congrArg (_ ++ ·) ?_
      by_cases hs : w.stream = stream
      · subst hs
        simp [hi, waitingOn, setPhase, record, StreamTable.modify, Slot.clear, hitem]
      · have ne : i.stream ≠ stream := hi ▸ hs
        simp [ne, waitingOn, setPhase, record, StreamTable.modify, StreamTable.get_set_of_ne _ hs]
  · exact ⟨rfl, R.same ⟨rfl, rfl, rfl, rfl⟩⟩

/-! ## The receive path -/

variable [FrameLink L]

theorem Routed.receive (R : a.Routed heard) (free : a.receiving = none)
    (inbound : a.inbound = Discipline.agent.afterAll heard) {p : Post}
    (A : p.kind = .command → a.isOpen p.stream = true) :
    (a.receive (some p.octets)).serving = a.serving ∧
      (a.receive (some p.octets)).Routed (heard ++ [p]) := by
  have B := receive_becomes free p
  obtain ⟨link, outbound, sent, log, eq⟩ := B.eq
  have serving : (a.receive (some p.octets)).serving = a.serving := by rw [eq]
  have slots : (a.receive (some p.octets)).slots = a.slots := by rw [eq]
  have receiving : (a.receive (some p.octets)).receiving =
      if a.holds p then some ⟨p.stream, p.payload, p.seq⟩ else none := by rw [eq]
  refine ⟨serving, fun stream ho => ?_, fun stream => ?_⟩
  · rw [isOpen_congr serving] at ho
    rw [slots]
    exact R.roomy stream ho
  · rw [List.map_append, List.map_singleton, Discipline.verdicts_concat,
      retained_concat (by simp), ← R.accounted stream, invocationsOn, waitingOn, B.invocations,
      slots, receiving, ← inbound, waitingOn, free]
    have awaits : a.awaits p = (p.kind == .command) := by
      by_cases hk : p.kind = .command
      · simp [Agent.awaits, hk, A hk]
      · simp [Agent.awaits, hk]
    have held : a.holds p = (p.kind == .command &&
        Discipline.agent.verdict a.inbound p != .again) := by rw [holds, awaits]
    have step : (((if a.holds p then some (⟨p.stream, p.payload, p.seq⟩ : PendingCommand)
        else none).filter (·.stream == stream)).map PendingCommand.body).toList =
        (if Discipline.agent.verdict a.inbound p = .again then none
          else p.payloadOn .command stream).toList := by
      rw [held, Post.payloadOn]
      by_cases hv : Discipline.agent.verdict a.inbound p = .again <;>
        by_cases hk : p.kind = .command <;> by_cases hs : p.stream = stream <;>
        simp [hv, hk, hs, Option.filter]
    rw [step]
    simp [invocationsOn]

/-- A command that is passed on still waits, unless its slot refuses it. -/
theorem waitingOn_deliver (h : a.deliver = some b) {stream : StreamId}
    (roomy : ∀ command, a.receiving = some command → command.stream = stream →
      (a.slots.get stream).closed = false) : b.waitingOn stream = a.waitingOn stream := by
  obtain ⟨command, hr, ⟨closed, B⟩ | ⟨-, empty, B⟩, -⟩ := deliver_cases h
  · obtain ⟨link, outbound, sent, log, eq⟩ := B.eq
    have other : command.stream ≠ stream := by
      rintro rfl
      rw [roomy command hr rfl] at closed
      cases closed
    rw [eq]
    simp [waitingOn, hr, other, Option.filter]
  · obtain ⟨link, outbound, sent, log, eq⟩ := B.eq
    rw [eq]
    by_cases hs : command.stream = stream
    · subst hs
      simp [waitingOn, hr, empty, Option.filter]
    · simp [waitingOn, hr, hs, StreamTable.get_set_of_ne _ hs, Option.filter]

theorem Routed.deliver (R : a.Routed heard) (A : a.Addressed heard) (h : a.deliver = some b) :
    b.serving = a.serving ∧ b.Routed heard := by
  have waiting : ∀ stream, b.waitingOn stream = a.waitingOn stream := fun stream =>
    waitingOn_deliver h fun command hr hs =>
      hs ▸ R.roomy command.stream (R.whole A (mem_waitingOn_of_receiving hr)).1
  obtain ⟨command, hr, B, -⟩ := deliver_cases h
  have roomy := R.roomy command.stream (R.whole A (mem_waitingOn_of_receiving hr)).1
  rcases B with ⟨closed, -⟩ | ⟨-, -, B⟩
  · rw [roomy] at closed
    cases closed
  · obtain ⟨link, outbound, sent, log, eq⟩ := B.eq
    have serving : b.serving = a.serving := by rw [eq]
    have slots : b.slots = a.slots.set command.stream
        { a.slots.get command.stream with item := some command.body } := by rw [eq]
    refine ⟨serving, fun stream ho => ?_, fun stream => ?_⟩
    · rw [isOpen_congr serving] at ho
      rw [slots, StreamTable.get_set]
      split
      · exact roomy
      · exact R.roomy stream ho
    · rw [← R.accounted stream, waiting, invocationsOn, B.invocations]
      rfl

/-! ## Steps -/

theorem sendPayload_ways (a : Agent L) (kind : FrameKind) (stream : StreamId)
    (payload : Octets) : SameWays a (a.sendPayload kind stream.toOctet payload).2 := by
  obtain ⟨link, outbound, sent, h⟩ := a.sendPayload_eq kind stream payload
  rw [h]
  exact ⟨rfl, rfl, rfl, rfl⟩

namespace Host

variable {h h' : Host L} {ds : List Post} {action : Action}

/-- A step loses nothing on the way from the frames `ds`, as long as no stream is opened or
closed. -/
theorem routed_act (ha : h.act (ds.map Post.octets) action = some h') (idle : h.threads = [])
    (calls : ∀ errand caller, action ≠ .begin errand caller)
    (inbound : h.endpoint.receiving = none →
      h.endpoint.inbound = Discipline.agent.afterAll (ds.take h.heard))
    (A : h.endpoint.Addressed ds) (R : h.endpoint.Routed (ds.take h.heard)) :
    h'.threads = [] ∧ h'.endpoint.serving = h.endpoint.serving ∧
      h'.endpoint.Routed (ds.take h'.heard) := by
  have heard : h.endpoint.Addressed (ds.take h.heard) := fun p hp => A p (List.mem_of_mem_take hp)
  have same : ∀ {h'' : Host L}, SameWays h.endpoint h''.endpoint → h''.threads = [] →
      h''.heard = h.heard → h''.threads = [] ∧ h''.endpoint.serving = h.endpoint.serving ∧
        h''.endpoint.Routed (ds.take h''.heard) := by
    intro h'' S ht hh
    rw [hh]
    exact ⟨ht, S.serving, R.same S⟩
  cases action with
  | event header args =>
    cases ha
    exact same (h.endpoint.sendPayload_ways .event StreamId.control _) idle rfl
  | announce =>
    cases ha
    exact same (h.endpoint.sendPayload_ways .agentStart StreamId.control _) idle rfl
  | watch resets =>
    cases ha
    exact same ⟨rfl, rfl, rfl, rfl⟩ idle rfl
  | begin errand caller => exact absurd rfl (calls errand caller)
  | advance i => simp [act, advance, idle] at ha
  | hear =>
    obtain ⟨p, hp, free, rfl⟩ := act_hear_post ha
    have routed := R.receive free (inbound free) fun hk => (A p (List.mem_of_getElem? hp) hk).1
    refine ⟨idle, routed.1, ?_⟩
    rw [List.take_add_one, hp]
    exact routed.2
  | pass =>
    obtain ⟨a, hd, rfl⟩ := Option.map_eq_some_iff.mp ha
    exact ⟨idle, R.deliver heard hd⟩
  | takeUp i =>
    obtain ⟨w, a, -, -, hw, rfl⟩ := act_takeUp ha
    exact ⟨idle, R.takeUp heard hw⟩
  | handle i result =>
    obtain ⟨id, stream, invocation, -, rfl⟩ := act_handle ha
    exact same ⟨rfl, rfl, rfl, rfl⟩ idle rfl
  | answer i =>
    obtain ⟨id, stream, payload, -, rfl⟩ := act_answer ha
    have S := h.endpoint.sendPayload_ways .response stream payload
    exact same ⟨S.serving, S.slots, S.receiving, S.invocations⟩ idle rfl

end Host
end Agent
end CommandLink
