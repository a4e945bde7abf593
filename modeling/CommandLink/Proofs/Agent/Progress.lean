import CommandLink.Proofs.Agent.Deeds
import CommandLink.Proofs.Agent.Service

/-! # How far an agent is from rest

Each step by which an agent goes on with what it has heard brings it closer to rest, and a frame
that it hears stands for nine steps. Where no such step is left, no command waits and no response is
due. -/

namespace CommandLink

namespace WorkerPhase

/-- The steps that a worker can still take or make the controller take. -/
def effort : WorkerPhase → Nat
  | .waiting => 1
  | .handling _ => 5
  | .answering _ => 4
  | .stopped => 0

@[simp] theorem effort_waiting : effort .waiting = 1 := rfl

@[simp] theorem effort_handling (i : Invocation) : effort (.handling i) = 5 := rfl

@[simp] theorem effort_answering (payload : Octets) : effort (.answering payload) = 4 := rfl

end WorkerPhase

namespace Agent

variable {L : Type}

/-- The actions that go on with what has begun. -/
def Action.goesOn : Action → Bool
  | .hear | .pass | .takeUp _ | .handle _ _ | .answer _ => true
  | _ => false

def Host.effort (h : Host L) : Nat :=
  h.endpoint.slots.total (5 * ·.item.toList.length) +
    total (·.phase.effort) h.endpoint.workers + 8 * h.endpoint.receiving.toList.length

/-! ## Frames sent in one step -/

/-- A command that is held is not answered yet, and anything else by two frames at most. -/
theorem receive_sent_le [FrameLink L] {a : Agent L} (free : a.receiving = none)
    (octets : Octets) : (a.receive (some octets)).stats.sent +
      2 * (a.receive (some octets)).receiving.toList.length ≤ a.stats.sent + 2 := by
  have said := (a.attempts_receive (some octets)).sent_le
  cases held : (a.receive (some octets)).receiving with
  | none => exact Nat.le_trans said (Nat.add_le_add_left (a.length_reaction_le octets) _)
  | some command =>
    rw [reaction_of_held free held] at said
    exact Nat.add_le_add_right said 2

/-! ## Workers -/

theorem workers_setPhase {a : Agent L} (H : ∀ (i : Nat) w, a.workers[i]? = some w → w.id = i)
    {i : WorkerId} {w : Worker} (hw : a.workers[i]? = some w) (phase : WorkerPhase) :
    (a.setPhase i phase).workers = a.workers.set i { w with phase := phase } := by
  apply List.ext_getElem?
  intro j
  rw [getElem?_setPhase H, List.getElem?_set]
  by_cases e : i = j
  · subst e
    rw [if_pos rfl, if_pos (List.getElem?_eq_some_iff.mp hw).1, hw]
    simp
  · rw [if_neg e]
    cases a.workers[j]? <;> simp [Ne.symm e]

theorem effort_setPhase {a : Agent L} (H : ∀ (i : Nat) w, a.workers[i]? = some w → w.id = i)
    {i : WorkerId} {w : Worker} (hw : a.workers[i]? = some w) (phase : WorkerPhase) :
    total (·.phase.effort) (a.setPhase i phase).workers + w.phase.effort =
      total (·.phase.effort) a.workers + phase.effort := by
  rw [workers_setPhase H hw]
  exact total_set hw (·.phase.effort) { w with phase := phase }

theorem takeUp_effort {a b : Agent L} {w : Worker} (h : a.takeUp w = some b) :
    ∃ phase, b.workers = (a.setPhase w.id phase).workers ∧ b.receiving = a.receiving ∧
      b.stats = a.stats ∧ b.slots.total (5 * ·.item.toList.length) + phase.effort ≤
        a.slots.total (5 * ·.item.toList.length) := by
  unfold takeUp at h
  cases hi : (a.slots.get w.stream).item with
  | some body =>
    have slots := a.slots.total_set (5 * ·.item.toList.length) w.stream
      { a.slots.get w.stream with item := none }
    simp only [hi, Option.toList_some, Option.toList_none, List.length_singleton,
      List.length_nil] at slots
    simp only [Slot.pop, hi] at h
    split at h
    · cases h
      exact ⟨_, rfl, rfl, rfl, Nat.le_of_eq slots⟩
    · cases h
      exact ⟨_, rfl, rfl, rfl, Nat.le_of_succ_le (Nat.le_of_eq slots)⟩
  | none =>
    cases hc : (a.slots.get w.stream).closed with
    | false => simp [Slot.pop, hi, hc] at h
    | true =>
      simp only [Slot.pop, hi, hc, if_true, Option.some.injEq] at h
      subst h
      exact ⟨.stopped, rfl, rfl, rfl, Nat.le_refl _⟩

namespace Host

variable [FrameLink L] {h h' : Host L} {ds : List Post} {action : Action}

/-- A step beside hearing costs two for each frame that it says, and more. -/
theorem effort_move {incoming : List Octets} (ha : h.act incoming action = some h')
    (goes : action.goesOn = true) (hm : action ≠ .hear)
    (numbered : ∀ (i : Nat) w, h.endpoint.workers[i]? = some w → w.id = i) :
    h'.effort + 2 * (h'.endpoint.stats.sent - h.endpoint.stats.sent) < h.effort ∧
      h'.heard = h.heard := by
  cases action with
  | hear => exact absurd rfl hm
  | pass =>
    obtain ⟨b, hd, rfl⟩ := Option.map_eq_some_iff.mp ha
    obtain ⟨command, hr, B, -⟩ := deliver_cases hd
    obtain ⟨command, held, attempts⟩ := attempts_deliver hd
    cases hr.symm.trans held
    have said := attempts.sent_le
    have report := length_lossReport_le h.endpoint.inbound command.stream command.seq
    refine ⟨?_, rfl⟩
    rcases B with ⟨closed, B⟩ | ⟨closed, empty, B⟩
    · obtain ⟨link, outbound, sent, log, eq⟩ := B.eq
      rw [eq, handover, closed] at said
      rw [eq]
      simp only [effort, hr, Ear.stats, if_true, List.length_append, Option.toList_some,
        Option.toList_none, List.length_singleton, List.length_nil] at said ⊢
      omega
    · obtain ⟨link, outbound, sent, log, eq⟩ := B.eq
      have slots := h.endpoint.slots.total_set (5 * ·.item.toList.length) command.stream
        { h.endpoint.slots.get command.stream with item := some command.body }
      rw [eq, handover, closed] at said
      rw [eq]
      simp only [effort, hr, empty, List.nil_append, Ear.stats, Bool.false_eq_true, if_false,
        Option.toList_some, Option.toList_none, List.length_singleton, List.length_nil]
        at said slots ⊢
      omega
  | takeUp i =>
    obtain ⟨w, a, hw, waits, hb, rfl⟩ := act_takeUp ha
    obtain ⟨phase, workers, receiving, stats, slots⟩ := takeUp_effort hb
    have phases := effort_setPhase numbered hw phase
    rw [waits, WorkerPhase.effort_waiting] at phases
    rw [numbered i w hw] at workers
    refine ⟨?_, rfl⟩
    simp only [effort, workers, receiving, stats]
    omega
  | handle i result =>
    obtain ⟨id, stream, invocation, hw, rfl⟩ := act_handle ha
    obtain rfl : id = i := numbered i _ hw
    have phases := effort_setPhase numbered hw
      (.answering (responsePayload invocation.id result))
    rw [WorkerPhase.effort_handling, WorkerPhase.effort_answering] at phases
    refine ⟨?_, rfl⟩
    simp only [effort, handled, setPhase] at phases ⊢
    omega
  | answer i =>
    obtain ⟨id, stream, payload, hw, rfl⟩ := act_answer ha
    obtain rfl : id = i := numbered i _ hw
    have phases := effort_setPhase numbered hw .waiting
    have said := (h.endpoint.attempts_answer ⟨id, stream, .answering payload⟩ payload).sent_le
    obtain ⟨link, outbound, sent, eq⟩ :=
      h.endpoint.answer_eq ⟨id, stream, .answering payload⟩ payload
    rw [WorkerPhase.effort_answering, WorkerPhase.effort_waiting] at phases
    rw [eq] at said
    refine ⟨?_, rfl⟩
    simp only [effort, eq, setPhase, List.length_singleton] at phases said ⊢
    omega
  | _ => cases goes

/-- With each frame that is heard nine fewer steps may follow, with each frame that is said two
more. -/
theorem effort_act (ha : h.act (ds.map Post.octets) action = some h') (goes : action.goesOn = true)
    (numbered : ∀ (i : Nat) w, h.endpoint.workers[i]? = some w → w.id = i) :
    h'.effort + 2 * h'.endpoint.stats.sent + 9 * h.heard <
      h.effort + 2 * h.endpoint.stats.sent + 9 * h'.heard := by
  by_cases hm : action = .hear
  · subst hm
    obtain ⟨octets, -, free, rfl⟩ := act_hear ha
    have aside := h.endpoint.receive_aside octets
    have said := receive_sent_le free octets
    have held : (h.endpoint.receive (some octets)).receiving.toList.length ≤ 1 :=
      Option.length_toList_le
    simp only [effort, aside.slots, aside.workers, free, Option.toList_none, List.length_nil]
    omega
  · obtain ⟨lower, heard⟩ := effort_move ha goes hm numbered
    omega

/-- Whatever it is that is heard, it stands for no more than nine steps. -/
theorem effort_hear {incoming : List Octets} (ha : h.act incoming .hear = some h') :
    h'.effort ≤ h.effort + 8 ∧ h'.heard = h.heard + 1 ∧ h.heard < incoming.length := by
  obtain ⟨octets, hnext, free, rfl⟩ := act_hear ha
  have H := h.endpoint.receive_aside octets
  refine ⟨?_, rfl, lt_length_of_getElem? hnext⟩
  have held : (h.endpoint.receive (some octets)).receiving.toList.length ≤ 1 :=
    Option.length_toList_le
  simp only [effort, H.slots, H.workers, free, Option.toList_none, List.length_nil]
  omega

/-- A call adds at most a worker that waits. -/
theorem effort_call {call : Call} (mild : call.Mild) (caller : Option WorkerId)
    (threads : List Thread) :
    effort { h with endpoint := (call.step h.endpoint caller).1, threads := threads } ≤
      h.effort + 1 := by
  have same : effort { h with threads := threads } ≤ h.effort + 1 := Nat.le_succ _
  cases call with
  | openFind =>
    simp only [Call.step]
    split <;> exact same
  | openStart s =>
    simp only [Call.step]
    split
    · next b hb =>
      unfold startWorker at hb
      split at hb
      · cases hb
      · cases hb
        have slots := h.endpoint.slots.total_set (5 * ·.item.toList.length) s
          (h.endpoint.slots.get s).reopen
        simp only [Slot.reopen] at slots
        simp only [effort, StreamTable.modify, Slot.reopen, total_concat,
          WorkerPhase.effort_waiting]
        omega
    · exact same
  | closeTake s =>
    simp only [Call.step]
    split
    · exact same
    · split <;> exact same
  | closeSlot s worker =>
    have slots := h.endpoint.slots.total_set (5 * ·.item.toList.length) s
      (h.endpoint.slots.get s).close
    simp only [Slot.close, Option.toList_none, List.length_nil] at slots
    simp only [Call.step, effort, StreamTable.modify, Slot.close]
    omega
  | shutdownBegin => exact mild.elim
  | shutdownClose => exact mild.elim
  | shutdownTake => exact mild.elim
  | join workers after =>
    cases after with
    | stopLink => exact mild.elim
    | finish =>
      simp only [Call.step]
      split <;> exact same

/-- The owner of an agent makes no work for it but by opening streams. -/
theorem effort_beside {incoming : List Octets} (mild : h.Mild)
    (ha : h.act incoming action = some h') (goes : action.goesOn = false) :
    h'.effort ≤ h.effort + 1 ∧ h'.heard = h.heard := by
  have sends : ∀ (kind : FrameKind) (payload : Octets), effort { h with
      endpoint := (h.endpoint.sendPayload kind StreamId.control.toOctet payload).2 } =
        h.effort := by
    intro kind payload
    obtain ⟨link, outbound, sent, eq⟩ := h.endpoint.sendPayload_eq kind StreamId.control payload
    rw [eq]
    rfl
  cases action with
  | event header args =>
    cases ha
    exact ⟨Nat.le_succ_of_le (Nat.le_of_eq (sends .event _)), rfl⟩
  | announce =>
    cases ha
    exact ⟨Nat.le_succ_of_le (Nat.le_of_eq (sends .agentStart _)), rfl⟩
  | watch resets =>
    cases ha
    exact ⟨Nat.le_succ _, rfl⟩
  | begin errand caller =>
    cases ha
    exact ⟨Nat.le_succ _, rfl⟩
  | advance i =>
    simp only [act, advance] at ha
    split at ha
    · cases ha
    · next t ht =>
      split at ha
      · cases ha
      · obtain ⟨t', -, rfl⟩ := Option.map_eq_some_iff.mp ha
        exact ⟨effort_call (mild t (List.mem_of_getElem? ht)) t.caller _, rfl⟩
  | _ => cases goes

/-! ## Rest -/

omit [FrameLink L] in
theorem takeUp_of_item {a : Agent L} {w : Worker} {body : Octets}
    (h : (a.slots.get w.stream).item = some body) : ∃ b, a.takeUp w = some b := by
  unfold takeUp
  simp only [Slot.pop, h]
  split <;> exact ⟨_, rfl⟩

theorem deliver_of_room {a : Agent L} {command : PendingCommand} (hr : a.receiving = some command)
    (empty : (a.slots.get command.stream).item = none) : ∃ b, a.deliver = some b := by
  cases hc : (a.slots.get command.stream).closed <;> simp [deliver, hr, Slot.push, empty, hc]

/-- Where no worker goes on, each of them waits or has stopped. -/
theorem idle_of_quiet {incoming : List Octets}
    (quiet : ∀ action : Action, action.goesOn = true → action.short = true →
      h.act incoming action = none) (i : Nat) (w : Worker)
    (hw : h.endpoint.workers[i]? = some w) : w.phase = .waiting ∨ w.phase = .stopped := by
  obtain ⟨id, stream, phase⟩ := w
  cases phase with
  | waiting => exact .inl rfl
  | stopped => exact .inr rfl
  | handling invocation =>
    have stays := quiet (.handle i (.error .error)) rfl rfl
    simp [act, hw] at stays
  | answering payload =>
    have stays := quiet (.answer i) rfl rfl
    simp [act, hw] at stays

/-- An agent that goes no further has heard everything and has answered everything. -/
theorem rests_of_quiet {incoming : List Octets} {heard : List Post} (S : h.Serves)
    (R : h.endpoint.Routed heard) (A : h.endpoint.Addressed heard)
    (room : ∀ command, h.endpoint.receiving = some command →
      (h.endpoint.slots.get command.stream).item = none)
    (quiet : ∀ action : Action, action.goesOn = true → action.short = true →
      h.act incoming action = none) :
    incoming.length ≤ h.heard ∧ ∀ stream, h.endpoint.waitingOn stream = [] ∧
      h.endpoint.handlingOn stream = [] ∧ h.endpoint.answeringOn stream = [] := by
  have free : h.endpoint.receiving = none := by
    cases hr : h.endpoint.receiving with
    | none => rfl
    | some command =>
      obtain ⟨b, hb⟩ := deliver_of_room hr (room command hr)
      have stays := quiet .pass rfl rfl
      simp [act, hb] at stays
  have phases := idle_of_quiet quiet
  refine ⟨?_, fun stream => ⟨?_, nothing_in_hand phases stream⟩⟩
  · have stays := quiet .hear rfl rfl
    simpa [act, free] using stays
  · have empty : (h.endpoint.slots.get stream).item = none := by
      cases hi : (h.endpoint.slots.get stream).item with
      | none => rfl
      | some body =>
        obtain ⟨i, hs⟩ := isOpen_iff.mp (R.whole A (mem_waitingOn_of_item hi)).1
        obtain ⟨w, hw, rfl, active⟩ := S.staffed.served stream i hs
        have waits := (phases i w hw).resolve_right active
        obtain ⟨b, hb⟩ := takeUp_of_item hi
        have stays := quiet (.takeUp i) rfl rfl
        simp [act, hw, waits, hb] at stays
    simp [waitingOn, empty, free]

end Host
end Agent
end CommandLink
