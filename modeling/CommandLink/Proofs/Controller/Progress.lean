import CommandLink.Proofs.Controller.Requests

/-! # How far a controller is from rest

Each step by which a controller goes on with what has begun brings it closer to rest. Sending a
frame puts work on the agent, and `effort` allows for that: a frame to the agent stands for nine
steps, a frame from the agent for two. Where no such step is left, each request waits at an empty
slot. -/

namespace CommandLink
namespace Controller

variable {L : Type}

/-- The steps that a call can still take or make the agent take. -/
def Call.effort : Call → Nat
  | .listen wait => if wait.seen.isSome then 1 else 2
  -- its frame, two steps of listening, and the step itself
  | .transmit _ _ => 12
  | .discard _ _ => 13
  | .awaitAgent _ => 1
  | .syncWithdraw _ => 1
  | .syncListen _ seen => if seen.isSome then 2 else 3
  | .syncTransmit _ => 13
  | .syncPublish _ => 14
  | .syncClear _ => 15
  | .syncPrepare _ => 16
  | .syncBegin _ => 17

def Thread.effort (t : Thread) : Nat := if t.result.isSome then 0 else t.call.effort

/-- The actions that go on with what has begun, and time runs out for nobody. -/
def Action.goesOn : Action → Bool
  | .advance _ | .hear | .pass => true
  | _ => false

def Host.effort (h : Host L) : Nat :=
  total Thread.effort h.threads + h.endpoint.receiving.toList.length

variable [FrameLink L]

theorem Speech.sent_le {c c' : Controller L} {attempts : List Attempt} {posts : List Post}
    (speech : Speech c c' attempts posts) :
    c'.stats.sent ≤ c.stats.sent + attempts.length := by
  cases speech with
  | silent _ _ sent => simp [sent]
  | spared m _ _ _ sent => simp [sent]
  | lost m _ _ _ sent => simp [sent]
  | said m p _ _ _ _ sent => simp [sent]

/-- What is left of a call after a step of it. -/
def Call.left : Call.Result → Nat
  | .next call => call.effort
  | _ => 0

/-- A call that goes on has less to do, even if it sends a frame. -/
theorem Call.left_step_lt (c : Controller L) (call : Call) (h : (call.step c).2 ≠ .blocked) :
    left (call.step c).2 + 9 * (call.attempts c).length < call.effort := by
  cases call with
  | listen wait =>
    simp only [step] at h ⊢
    split
    · simp only [left, attempts, effort, List.length_nil]
      split <;> decide
    · simp only [left, attempts, effort, List.length_nil]
      split <;> decide
    · next waits =>
      simp only [waits] at h
      split at h
      · exact absurd rfl h
      · next unseen => simp [left, attempts, effort, unseen]
  | transmit command timeout =>
    simp only [step]
    split <;> simp [left, attempts, effort, Listening.forBytes]
  | discard command timeout => simp [step, left, attempts, effort]
  | awaitAgent timeout =>
    simp only [step]
    split
    · simp [left, attempts, effort]
    · split <;> simp [left, attempts, effort]
  | syncBegin timeout =>
    simp only [step]
    split <;> simp [left, attempts, effort]
  | syncPrepare timeout =>
    simp only [step]
    split
    · split <;> simp [left, attempts, effort]
    · simp [left, attempts, effort]
  | syncClear attempt => simp [step, left, attempts, effort]
  | syncPublish attempt => simp [step, left, attempts, effort]
  | syncTransmit attempt =>
    simp only [step]
    split <;> simp [left, attempts, effort]
  | syncListen timeout seen =>
    simp only [step] at h ⊢
    split
    · simp only [left, attempts, effort, List.length_nil]
      split <;> decide
    · simp only [left, attempts, effort, List.length_nil]
      split <;> decide
    · next waits =>
      simp only [waits] at h
      split at h
      · exact absurd rfl h
      · simp [left, attempts, effort]
  | syncWithdraw result => simp [step, left, attempts, effort]

omit [FrameLink L] in
theorem Thread.effort_of_take {t u : Thread} {progress : Call.Result} (waits : t.result = none)
    (h : t.take progress = some u) : progress ≠ .blocked ∧ u.effort = Call.left progress := by
  rcases take_cases h with ⟨result, rfl, rfl⟩ | ⟨next, rfl, rfl⟩
  · exact ⟨fun h => (nomatch h), rfl⟩
  · simp [effort, waits, Call.left]

namespace Host

variable {h h' : Host L} {us : List Post} {action : Action}

/-- With each frame that is said nine more steps may follow, with each frame that is heard two
fewer. -/
theorem effort_act (ha : h.act (us.map Post.octets) action = some h') (goes : action.goesOn = true)
    (onStart : h.endpoint.onStart = none) :
    h'.effort + 9 * h'.endpoint.stats.sent + 2 * h.heard <
      h.effort + 9 * h.endpoint.stats.sent + 2 * h'.heard := by
  cases action with
  | advance i =>
    obtain ⟨t, u, ht, waits, hu, rfl⟩ := act_advance ha
    obtain ⟨moves, left⟩ := Thread.effort_of_take waits hu
    have step := Call.left_step_lt h.endpoint t.call moves
    obtain ⟨posts, speech⟩ := t.call.step_speech h.endpoint
    have sent := speech.sent_le
    have sum := total_set ht Thread.effort u
    have own : t.effort = t.call.effort := by simp [Thread.effort, waits]
    have receiving := (t.call.step_kept h.endpoint).receiving
    simp only [effort, receiving]
    omega
  | hear =>
    obtain ⟨p, -, free, rfl⟩ := act_hear_post ha
    obtain ⟨handshake, slot, log, eq⟩ := receive_octets free onStart p
    rw [eq]
    have held : (if h.endpoint.holds p then
        some (⟨p.stream, p.payload, p.seq⟩ : PendingResponse) else none).toList.length ≤ 1 :=
      Option.length_toList_le
    simp only [effort, free, Ear.stats, Option.toList_none, List.length_nil]
    omega
  | pass =>
    obtain ⟨c, hd, rfl⟩ := Option.map_eq_some_iff.mp ha
    obtain ⟨response, hr, -, eq⟩ := deliver_cases hd
    rw [eq]
    simp only [effort, hr, Ear.stats, Option.toList_none, Option.toList_some, List.length_nil,
      List.length_singleton]
    omega
  | _ => cases goes

/-! ## Rest -/

omit [FrameLink L] in
theorem deliver_of_room {c : Controller L} {response : PendingResponse}
    (hr : c.receiving = some response) (empty : (c.slots.get response.stream).item = none) :
    ∃ c', c.deliver = some c' := by
  cases hc : (c.slots.get response.stream).closed <;> simp [deliver, hr, Slot.push, empty, hc]

/-- A request that goes no further waits, and its slot is empty. -/
theorem waits_of_quiet (quiet : ∀ i, h.advance i = none) {replies : List Octets}
    {stream : StreamId} {finished : List (Command × Octets)} {command : Command} {call : Call}
    (l : Ledger h replies stream finished (some (command, call))) :
    awaited (some (command, call)) = [command.body] ∧
      (h.endpoint.slots.get stream).item = none := by
  have here : (command, .underway call) ∈ h.requestsOn stream := by
    rw [l.requests]
    exact List.mem_append_right _ (List.mem_singleton_self _)
  obtain ⟨t, ht, on⟩ := List.mem_filterMap.mp here
  obtain ⟨command', -, e⟩ := Option.map_eq_some_iff.mp on
  have waits : t.result = none ∧ t.call = call := by
    simp only [Thread.standing, Prod.mk.injEq] at e
    split at e
    · simp at e
    · next hr => exact ⟨hr, by simpa using e.2⟩
  obtain ⟨i, hi⟩ := List.getElem?_of_mem ht
  have blocked : t.take (call.step h.endpoint).2 = none := by
    have := quiet i
    simpa [advance, hi, waits.1, waits.2] using this
  obtain ⟨rfl, -, stage⟩ : command.stream = stream ∧ _ ∧ Stage command call := l.stage _ rfl
  cases stage with
  | discard limit => cases blocked
  | transmit limit =>
    simp only [Call.step] at blocked
    split at blocked <;> cases blocked
  | listen limit hseen =>
    refine ⟨rfl, ?_⟩
    cases hi : (h.endpoint.slots.get command.stream).item with
    | none => rfl
    | some body => simp [Call.step, Slot.pop, hi, Thread.take] at blocked

end Host
end Controller
end CommandLink
