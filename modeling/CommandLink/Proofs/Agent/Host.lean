import CommandLink.Agent.Call
import CommandLink.Proofs.Agent.Hearing
import CommandLink.Proofs.Endpoint.Lists

/-! # An agent with its owner and its handler

`Host` is an agent with the calls of its owner that are under way or have returned, and with what
the handler has answered to each invocation. `Host.act` is one step of one thread: of a call, of a
worker, or of the receive path. The handler is not part of it: whatever it answers is an action. -/

namespace CommandLink
namespace Agent

/-- A call that may wait, as it is made. -/
inductive Errand
  | openStream
  | closeStream (stream : StreamId)
  deriving DecidableEq

def Errand.call : Errand → Call
  | .openStream => .openStream
  | .closeStream stream => .closeStream stream

structure Thread where
  /-- The worker that makes the call, if one does. -/
  caller : Option WorkerId
  call : Call
  result : Option (Except EndpointError Answer)

/-- Takes in what one step of the call comes to, unless the call waits. -/
def Thread.take (t : Thread) : Call.Result → Option Thread
  | .done result => some { t with result := some result }
  | .next call => some { t with call := call }
  | .blocked => none

/-- What the handler has answered to an invocation. -/
structure Outcome where
  invocation : Invocation
  result : Except Status Octets

structure Host (L : Type) where
  endpoint : Agent L
  threads : List Thread
  outcomes : List Outcome
  heard : Nat

inductive Action
  | event (header : EventHeader) (args : Octets)
  | announce
  /-- Registers the owner's interest in resets. -/
  | watch (resets : Bool)
  | begin (errand : Errand) (caller : Option WorkerId)
  /-- The call of a thread goes one step further. -/
  | advance (thread : Nat)
  /-- The receive path takes the next frame. -/
  | hear
  /-- The receive path passes on the command that it holds. -/
  | pass
  /-- A worker takes up the command in its slot, or stops. -/
  | takeUp (worker : Nat)
  /-- The handler of a worker's command answers. -/
  | handle (worker : Nat) (result : Except Status Octets)
  /-- A worker sends its response. -/
  | answer (worker : Nat)

namespace Host

/-- An agent that nobody has used yet. -/
def ofAgent (a : Agent L) : Host L := ⟨a, [], [], 0⟩

/-- Takes a call of the owner one step further. -/
def advance [Datalink L] (h : Host L) (i : Nat) : Option (Host L) :=
  match h.threads[i]? with
  | none => none
  | some t =>
    if t.result.isSome then none
    else
      let (endpoint, progress) := t.call.step h.endpoint t.caller
      (t.take progress).map fun t' =>
        { h with endpoint := endpoint, threads := h.threads.set i t' }

/-- One step, when the frames `incoming` have arrived so far. -/
def act [Datalink L] (h : Host L) (incoming : List Octets) : Action → Option (Host L)
  | .event header args => some { h with endpoint := (h.endpoint.sendEvent header args).2 }
  | .announce => some { h with endpoint := h.endpoint.announce.2 }
  | .watch resets => some { h with endpoint := { h.endpoint with onReset := resets } }
  | .begin errand caller => some { h with threads := h.threads ++ [⟨caller, errand.call, none⟩] }
  | .advance i => h.advance i
  | .hear =>
    if h.endpoint.receiving.isSome then none
    else
      (incoming[h.heard]?).map fun octets =>
        { h with endpoint := h.endpoint.receive (some octets), heard := h.heard + 1 }
  | .pass => h.endpoint.deliver.map fun a => { h with endpoint := a }
  | .takeUp i =>
    match h.endpoint.workers[i]? with
    | some w =>
      if w.phase = .waiting then
        (h.endpoint.takeUp w).map fun a => { h with endpoint := a }
      else none
    | none => none
  | .handle i result =>
    match h.endpoint.workers[i]? with
    | some ⟨id, _, .handling invocation⟩ =>
      some { h with
        endpoint := h.endpoint.handled id invocation result
        outcomes := h.outcomes ++ [⟨invocation, result⟩] }
    | _ => none
  | .answer i =>
    match h.endpoint.workers[i]? with
    | some ⟨id, stream, .answering payload⟩ =>
      some { h with endpoint := h.endpoint.answer ⟨id, stream, .answering payload⟩ payload }
    | _ => none

end Host

/-! ## What there is to a step -/

namespace Host

variable [Datalink L] {h h' : Host L} {incoming : List Octets} {i : Nat}

theorem act_hear (ha : h.act incoming .hear = some h') :
    ∃ octets, incoming[h.heard]? = some octets ∧ h.endpoint.receiving = none ∧
      h' = { h with endpoint := h.endpoint.receive (some octets), heard := h.heard + 1 } := by
  simp only [act] at ha
  split at ha
  · cases ha
  · next free =>
    obtain ⟨octets, hnext, rfl⟩ := Option.map_eq_some_iff.mp ha
    exact ⟨octets, hnext, by simpa using free, rfl⟩

theorem act_hear_post {ds : List Post} (ha : h.act (ds.map Post.octets) .hear = some h') :
    ∃ p, ds[h.heard]? = some p ∧ h.endpoint.receiving = none ∧
      h' = { h with endpoint := h.endpoint.receive (some p.octets), heard := h.heard + 1 } := by
  obtain ⟨octets, hnext, free, rfl⟩ := act_hear ha
  rw [List.getElem?_map] at hnext
  obtain ⟨p, hp, rfl⟩ := Option.map_eq_some_iff.mp hnext
  exact ⟨p, hp, free, rfl⟩

theorem act_takeUp (ha : h.act incoming (.takeUp i) = some h') :
    ∃ w a, h.endpoint.workers[i]? = some w ∧ w.phase = .waiting ∧ h.endpoint.takeUp w = some a ∧
      h' = { h with endpoint := a } := by
  simp only [act] at ha
  split at ha
  · next w hw =>
    split at ha
    · next waits =>
      obtain ⟨a, ht, rfl⟩ := Option.map_eq_some_iff.mp ha
      exact ⟨w, a, hw, waits, ht, rfl⟩
    · cases ha
  · cases ha

theorem act_handle {result : Except Status Octets}
    (ha : h.act incoming (.handle i result) = some h') :
    ∃ id stream invocation,
      h.endpoint.workers[i]? = some ⟨id, stream, .handling invocation⟩ ∧
      h' = { h with
        endpoint := h.endpoint.handled id invocation result
        outcomes := h.outcomes ++ [⟨invocation, result⟩] } := by
  simp only [act] at ha
  split at ha
  · next id stream invocation hw =>
    cases ha
    exact ⟨id, stream, invocation, hw, rfl⟩
  · cases ha

theorem act_answer (ha : h.act incoming (.answer i) = some h') :
    ∃ id stream payload, h.endpoint.workers[i]? = some ⟨id, stream, .answering payload⟩ ∧
      h' = { h with endpoint := h.endpoint.answer ⟨id, stream, .answering payload⟩ payload } := by
  simp only [act] at ha
  split at ha
  · next id stream payload hw =>
    cases ha
    exact ⟨id, stream, payload, hw, rfl⟩
  · cases ha

end Host

/-! ## What a step does to the two halves of the agent -/

/-- The receiving half stays as it is, but for slots and workers. -/
structure Kept (a b : Agent L) : Prop where
  ear : b.ear = a.ear
  receiving : b.receiving = a.receiving
  config : b.config = a.config
  running : b.running = a.running

/-- The kinds of the frames that an agent sends of its own accord. -/
inductive Utterance : FrameKind → Prop
  | event : Utterance .event
  | agentStart : Utterance .agentStart
  | response : Utterance .response

section
variable [FrameLink L]

theorem sendPayload_kept (a : Agent L) (kind : FrameKind) (stream : StreamId)
    (payload : Octets) : Kept a (a.sendPayload kind stream.toOctet payload).2 := by
  obtain ⟨link, outbound, sent, h⟩ := a.sendPayload_eq kind stream payload
  rw [h]
  exact ⟨rfl, rfl, rfl, rfl⟩

theorem sendPayload_utterance (a : Agent L) {kind : FrameKind} (hk : Utterance kind)
    (stream : StreamId) (payload : Octets) :
    ∃ posts, Smooth Utterance a (a.sendPayload kind stream.toOctet payload).2 posts := by
  obtain ⟨posts, h⟩ := a.sendPayload_posts kind stream payload
  exact ⟨posts, h.mono fun _ e => e ▸ hk⟩

/-- The calls that do not shut the agent down, at each of their points. -/
def Call.Mild : Call → Prop
  | .shutdownBegin | .shutdownClose | .shutdownTake | .join _ .stopLink => False
  | _ => True

omit [FrameLink L] in
/-- Such a call leaves link and numbers alone, and goes on as such a call. -/
theorem Call.Mild.step [Datalink L] {call : Call} (H : call.Mild) (a : Agent L)
    (caller : Option WorkerId) :
    (∃ serving slots workers, (call.step a caller).1 =
      { a with serving := serving, slots := slots, workers := workers }) ∧
    ∀ next, (call.step a caller).2 = .next next → next.Mild := by
  have same : ∃ serving slots workers,
      a = { a with serving := serving, slots := slots, workers := workers } :=
    ⟨a.serving, a.slots, a.workers, rfl⟩
  cases call with
  | openFind =>
    simp only [Call.step]
    split
    · refine ⟨same, fun next h => ?_⟩
      cases h
      trivial
    · exact ⟨same, fun _ h => nomatch h⟩
  | openStart stream =>
    simp only [Call.step, startWorker]
    split
    · next a' h =>
      split at h
      · cases h
      · cases h
        exact ⟨⟨_, _, _, rfl⟩, fun _ h => nomatch h⟩
    · exact ⟨same, fun _ h => nomatch h⟩
  | closeTake stream =>
    simp only [Call.step]
    split
    · exact ⟨same, fun _ h => nomatch h⟩
    · split
      · refine ⟨⟨_, a.slots, a.workers, rfl⟩, fun next h => ?_⟩
        cases h
        trivial
      · exact ⟨same, fun _ h => nomatch h⟩
  | closeSlot stream worker =>
    refine ⟨⟨a.serving, _, a.workers, rfl⟩, fun next h => ?_⟩
    cases h
    trivial
  | shutdownBegin => exact H.elim
  | shutdownClose => exact H.elim
  | shutdownTake => exact H.elim
  | join ws after =>
    cases after with
    | stopLink => exact H.elim
    | finish =>
      simp only [Call.step]
      split
      · exact ⟨same, fun _ h => nomatch h⟩
      · exact ⟨same, fun _ h => nomatch h⟩

omit [FrameLink L] in
theorem takeUp_eq {a b : Agent L} {w : Worker} (h : a.takeUp w = some b) :
    ∃ slots workers log, b = { a with slots := slots, workers := workers, log := log } := by
  unfold takeUp at h
  split at h
  · split at h
    · cases h
      exact ⟨_, _, _, rfl⟩
    · cases h
      exact ⟨_, _, a.log, rfl⟩
  · cases h
    exact ⟨a.slots, _, a.log, rfl⟩
  · cases h

namespace Host

/-- How a step may change an agent: it sends of its own accord, or the receive path takes in a frame
or passes a command on. -/
inductive Effect (incoming : List Octets) (h h' : Host L) : Prop
  | spoke (posts : List Post) (smooth : Smooth Utterance h.endpoint h'.endpoint posts)
      (kept : Kept h.endpoint h'.endpoint) (heard : h'.heard = h.heard)
  | heard (octets : Octets) (next : incoming[h.heard]? = some octets)
      (free : h.endpoint.receiving = none)
      (eq : h' = { h with endpoint := h.endpoint.receive (some octets), heard := h.heard + 1 })
  | passed (a : Agent L) (deliver : h.endpoint.deliver = some a)
      (eq : h' = { h with endpoint := a })

/-- No call is under way that shuts the agent down. -/
def Mild (h : Host L) : Prop := ∀ t ∈ h.threads, t.call.Mild

theorem Effect.quiet {incoming : List Octets} {h h' : Host L}
    (eq : ∃ serving slots workers log onReset, h'.endpoint = { h.endpoint with
      serving := serving, slots := slots, workers := workers, log := log, onReset := onReset })
    (heard : h'.heard = h.heard) : Effect incoming h h' := by
  obtain ⟨serving, slots, workers, log, onReset, eq⟩ := eq
  exact .spoke [] (.refl (by rw [eq]) (by rw [eq]) (by rw [eq]))
    ⟨by rw [eq]; rfl, by rw [eq], by rw [eq], by rw [eq]⟩ heard

theorem Effect.utterance {incoming : List Octets} {h h' : Host L} {kind : FrameKind}
    (hk : Utterance kind) (stream : StreamId) (payload : Octets)
    (eq : h'.endpoint = (h.endpoint.sendPayload kind stream.toOctet payload).2)
    (heard : h'.heard = h.heard) : Effect incoming h h' := by
  obtain ⟨posts, smooth⟩ := h.endpoint.sendPayload_utterance hk stream payload
  exact .spoke posts (eq ▸ smooth) (eq ▸ h.endpoint.sendPayload_kept kind stream payload) heard

theorem advance_effect {incoming : List Octets} {h h' : Host L} {i : Nat} (H : h.Mild)
    (ha : h.advance i = some h') : Effect incoming h h' ∧ h'.Mild := by
  unfold advance at ha
  split at ha
  · cases ha
  · next t ht =>
    split at ha
    · cases ha
    · obtain ⟨t', htake, rfl⟩ := Option.map_eq_some_iff.mp ha
      obtain ⟨⟨serving, slots, workers, eq⟩, onward⟩ :=
        (H t (List.mem_of_getElem? ht)).step h.endpoint t.caller
      refine ⟨.quiet ⟨serving, slots, workers, h.endpoint.log, h.endpoint.onReset, eq⟩ rfl, ?_⟩
      intro u hu
      rcases List.mem_or_eq_of_mem_set hu with hu | rfl
      · exact H u hu
      · unfold Thread.take at htake
        split at htake
        · cases htake
          exact H t (List.mem_of_getElem? ht)
        · next next hnext =>
          cases htake
          exact onward next hnext
        · cases htake

theorem act_effect {incoming : List Octets} {h h' : Host L} {action : Action} (H : h.Mild)
    (ha : h.act incoming action = some h') : Effect incoming h h' ∧ h'.Mild := by
  cases action with
  | event header args =>
    cases ha
    exact ⟨.utterance .event StreamId.control _ rfl rfl, H⟩
  | announce =>
    cases ha
    exact ⟨.utterance .agentStart StreamId.control _ rfl rfl, H⟩
  | watch resets =>
    cases ha
    exact ⟨.quiet ⟨_, _, _, _, _, rfl⟩ rfl, H⟩
  | begin errand caller =>
    cases ha
    refine ⟨.quiet ⟨_, _, _, _, _, rfl⟩ rfl, ?_⟩
    intro t ht
    rcases mem_or_eq_of_mem_concat ht with ht | rfl
    · exact H t ht
    · cases errand <;> trivial
  | advance i => exact advance_effect H ha
  | hear =>
    obtain ⟨octets, next, free, eq⟩ := act_hear ha
    exact ⟨.heard octets next free eq, by rw [eq]; exact H⟩
  | pass =>
    obtain ⟨a, hd, rfl⟩ := Option.map_eq_some_iff.mp ha
    exact ⟨.passed a hd rfl, H⟩
  | takeUp i =>
    obtain ⟨w, a, -, -, hw, rfl⟩ := act_takeUp ha
    obtain ⟨slots, workers, log, eq⟩ := takeUp_eq hw
    exact ⟨.quiet ⟨h.endpoint.serving, slots, workers, log, h.endpoint.onReset, eq⟩ rfl, H⟩
  | handle i result =>
    obtain ⟨id, stream, invocation, -, rfl⟩ := act_handle ha
    exact ⟨.quiet ⟨_, _, _, _, _, rfl⟩ rfl, H⟩
  | answer i =>
    obtain ⟨id, stream, payload, -, rfl⟩ := act_answer ha
    obtain ⟨posts, smooth⟩ := h.endpoint.sendPayload_utterance .response stream payload
    have kept := h.endpoint.sendPayload_kept .response stream payload
    have waits : Smooth Utterance (h.endpoint.sendPayload .response stream.toOctet payload).2
        ((h.endpoint.sendPayload .response stream.toOctet payload).2.setPhase id .waiting) [] :=
      .refl rfl rfl rfl
    exact ⟨.spoke _ (smooth.trans waits)
      ⟨kept.ear, kept.receiving, kept.config, kept.running⟩ rfl, H⟩

end Host
end
end Agent
end CommandLink
