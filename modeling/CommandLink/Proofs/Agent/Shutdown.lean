import CommandLink.Proofs.Agent.Arrivals
import CommandLink.Proofs.Agent.Prepared

/-! # An agent that is shut down

A call that shuts the agent down lets nothing be sent any more, closes every slot, takes every
worker out of the table, and waits until these workers have stopped. From its return on nothing can
be sent. If no stream was opened since it began, none is open then, and no worker takes up a command
(`Agent.Host.shutdown_final`). A worker that has not stopped is at work on a last command, and a
call answers for it that has not returned, or that the worker itself has made
(`Agent.Thread.Holds`). To open a stream is not refused, though, and starts a worker
(`Agent.Host.opened_after_shutdown`). -/

namespace CommandLink
namespace Agent

section
variable {L : Type}

/-! ## Nothing is sent -/

section
variable [Datalink L] {a : Agent L} (halted : a.running = false)
include halted

theorem sendPayload_of_halted (kind : FrameKind) (stream : UInt8) (payload : Octets) :
    a.sendPayload kind stream payload = (.error .shutdown, a) := by
  simp [sendPayload, halted]

theorem notify_of_halted (kind : FrameKind) (stream : UInt8) : a.notify kind stream = a := by
  rw [notify, sendPayload_of_halted halted]

theorem link_reportGap (stream : StreamId) (seq : SeqNum) :
    (a.reportGap stream seq).link = a.link := by
  unfold reportGap
  split
  · rw [notify_of_halted (by exact halted)]
  · rfl

theorem link_answerSync (stream : StreamId) (payload : Octets) :
    (a.answerSync stream payload).link = a.link := by
  unfold answerSync
  split
  · split
    · rw [notify_of_halted halted]
    · simp only [sendPayload_of_halted halted]
  · rw [notify_of_halted halted]

theorem link_restart : a.restart.link = a.link := by
  have renewed : a.renewed.running = false := halted
  rw [restart_eq_renewed]
  split
  · rw [announce, sendPayload_of_halted renewed]
    rfl
  · rfl

end

section
variable [FrameLink L] {a b : Agent L} (halted : a.running = false)
include halted

theorem link_accept (header : Header) (stream : StreamId) (payload : Octets) :
    (a.accept header stream payload).link = a.link := by
  have told : ∀ b : Agent L, b = a → ((b.reportGap stream header.seq).remember header.seq).link =
      a.link := by
    rintro b rfl
    exact link_reportGap halted stream header.seq
  unfold accept
  simp only
  split
  · rw [link_restart ((a.reportGap_aside _ _).running.trans halted)]
    exact link_reportGap halted stream header.seq
  · exact link_answerSync halted stream payload
  · split
    · rfl
    · split
      · split
        · rfl
        · exact told _ (notify_of_halted halted _ _)
      · exact told a rfl
      · exact told _ (notify_of_halted halted _ _)

theorem link_receive (buffer : Option Octets) : (a.receive buffer).link = a.link := by
  cases buffer with
  | none => rfl
  | some octets =>
    have counted : ∀ stats, ({ a with stats := stats } : Agent L).running = false := fun _ => halted
    simp only [receive]
    split
    · rfl
    · rw [notify_of_halted (counted _)]
      rfl
    · rw [notify_of_halted (counted _)]
      rfl
    · exact link_accept (counted _) _ _ _

theorem link_deliver (h : a.deliver = some b) : b.link = a.link := by
  unfold deliver at h
  split at h
  · cases h
  · next command _ =>
    have free : ({ a with receiving := none } : Agent L).running = false := halted
    simp only at h
    split at h
    · cases h
    · cases h
      rw [refuse, notify_of_halted free]
      exact link_reportGap free command.stream command.seq
    · cases h
      exact link_reportGap (by exact free) command.stream command.seq

end
end

/-! ## What anyone but a call does -/

section
variable {L : Type} [FrameLink L]

/-- What is left alone by a step that is not one of a call. -/
structure Tended (a b : Agent L) : Prop where
  running : b.running = a.running
  serving : b.serving = a.serving
  link : a.running = false → b.link = a.link
  shut : ∀ stream, (a.slots.get stream).Shut → (b.slots.get stream).Shut
  workers : b.workers = a.workers ∨ ∃ (i : Nat) (w : Worker) (phase : WorkerPhase),
    a.workers[i]? = some w ∧ w.phase ≠ .stopped ∧ b.workers = (a.setPhase i phase).workers
  invocations : (∀ stream, (a.slots.get stream).Shut) → b.invocations = a.invocations

variable {a b : Agent L}

theorem Aside.tended (H : Aside a b) (link : a.running = false → b.link = a.link) :
    Tended a b where
  running := H.running
  serving := H.serving
  link := link
  shut stream := by
    rw [H.slots]
    exact id
  workers := .inl H.workers
  invocations _ := H.invocations

theorem tended_sendPayload {kind : FrameKind} (hk : kind ≠ .response) (stream : UInt8)
    (payload : Octets) : Tended a (a.sendPayload kind stream payload).2 :=
  (a.sendPayload_aside hk stream payload).tended fun halted => by
    rw [sendPayload_of_halted halted]

theorem tended_receive (buffer : Option Octets) : Tended a (a.receive buffer) :=
  (a.aside_receive buffer).tended fun halted => link_receive halted buffer

theorem tended_deliver (h : a.deliver = some b) : Tended a b := by
  obtain ⟨command, -, B, -⟩ := deliver_cases h
  have link := fun halted => link_deliver halted h
  rcases B with ⟨-, B⟩ | ⟨opened, -, B⟩ <;> obtain ⟨⟨l, outbound, sent, log, eq⟩, told⟩ := B
  · refine ⟨by rw [eq], by rw [eq], link, fun stream => ?_, .inl (by rw [eq]), fun _ => told⟩
    rw [eq]
    exact id
  · refine ⟨by rw [eq], by rw [eq], link, fun stream S => ?_, .inl (by rw [eq]), fun _ => told⟩
    rw [eq]
    simp only [StreamTable.get_set]
    split
    · next same =>
      rw [same, S.closed] at opened
      cases opened
    · exact S

omit [FrameLink L] in
theorem tended_takeUp {i : Nat} {w : Worker} (hw : a.workers[i]? = some w)
    (numbered : w.id = i) (waits : w.phase = .waiting) (h : a.takeUp w = some b) : Tended a b := by
  subst numbered
  have active : w.phase ≠ .stopped := by simp [waits]
  have cleared : ∀ stream, (a.slots.get stream).Shut →
      ((a.slots.modify w.stream Slot.clear).get stream).Shut := fun _ =>
    StreamTable.get_modify_preserves (P := Slot.Shut) fun _ => Slot.Shut.clear
  rcases takeUp_ways h with ⟨body, invocation, hb, -, rfl⟩ | ⟨body, hb, -, rfl⟩ | ⟨-, -, rfl⟩
  · refine ⟨rfl, rfl, fun _ => rfl, cleared, .inr ⟨w.id, w, _, hw, active, rfl⟩, ?_⟩
    intro S
    rw [(S w.stream).empty] at hb
    cases hb
  · refine ⟨rfl, rfl, fun _ => rfl, cleared, .inr ⟨w.id, w, _, hw, active, rfl⟩, ?_⟩
    intro S
    rw [(S w.stream).empty] at hb
    cases hb
  · exact ⟨rfl, rfl, fun _ => rfl, fun _ => id, .inr ⟨w.id, w, _, hw, active, rfl⟩,
      fun _ => rfl⟩

theorem tended_answer {i : Nat} {w : Worker} (hw : a.workers[i]? = some w) (numbered : w.id = i)
    (active : w.phase ≠ .stopped) (payload : Octets) : Tended a (a.answer w payload) := by
  obtain ⟨link, outbound, sent, eq⟩ := a.answer_eq w payload
  have silent : a.running = false → (a.answer w payload).link = a.link := by
    intro halted
    rw [answer, sendPayload_of_halted halted]
    rfl
  rw [eq, numbered] at *
  exact ⟨rfl, rfl, silent, fun _ => id, .inr ⟨i, w, _, hw, active, rfl⟩, fun _ => rfl⟩

end

/-! ## What a call does -/

/-- The calls that have begun to shut the agent down, and have not returned at once. -/
def Call.Stops : Call → Prop
  | .shutdownClose | .shutdownTake | .join _ .stopLink => True
  | _ => False

/-- Those of them that have closed the slots. -/
def Call.HasClosed : Call → Prop
  | .shutdownTake | .join _ .stopLink => True
  | _ => False

/-- Those of them that have taken every worker. -/
def Call.HasTaken : Call → Prop
  | .join _ .stopLink => True
  | _ => False

theorem Call.HasTaken.hasClosed {call : Call} (H : call.HasTaken) : call.HasClosed := by
  cases call with
  | join _ after =>
    cases after with
    | stopLink => trivial
    | finish => exact H
  | _ => exact H.elim

theorem Call.HasClosed.stops {call : Call} (H : call.HasClosed) : call.Stops := by
  cases call with
  | shutdownTake => trivial
  | join _ after =>
    cases after with
    | stopLink => trivial
    | finish => exact H
  | _ => exact H.elim

/-- What a call that opens no stream leaves as it is. -/
structure Spares (a b : Agent L) : Prop where
  halted : a.running = false → b.running = false
  log : b.log = a.log
  workers : b.workers = a.workers
  shut : ∀ stream, (a.slots.get stream).Shut → (b.slots.get stream).Shut
  unserved : ∀ stream, a.serving.get stream = none → b.serving.get stream = none

theorem Spares.refl (a : Agent L) : Spares a a := ⟨id, rfl, rfl, fun _ => id, fun _ => id⟩

theorem startWorker_eq {a b : Agent L} {stream : StreamId} (h : a.startWorker stream = .ok b) :
    a.serving.get stream = none ∧ b = { a with
      slots := a.slots.modify stream Slot.reopen
      serving := a.serving.set stream (some a.workers.length)
      workers := a.workers ++ [⟨a.workers.length, stream, .waiting⟩] } := by
  unfold startWorker at h
  split at h
  · cases h
  · next free =>
    cases h
    exact ⟨by simpa [isOpen] using free, rfl⟩

section
variable [Datalink L] {a : Agent L} {caller : Option WorkerId} {call next : Call}

theorem Call.spares_step (unopened : ∀ stream, call ≠ .openStart stream) :
    Spares a (call.step a caller).1 := by
  cases call with
  | openStart stream => exact absurd rfl (unopened stream)
  | openFind =>
    simp only [step]
    split <;> exact .refl a
  | closeTake stream =>
    simp only [step]
    split
    · exact .refl a
    · split
      · exact ⟨id, rfl, rfl, fun _ => id, fun r hr => by
          rw [StreamTable.get_set]
          split
          · rfl
          · exact hr⟩
      · exact .refl a
  | closeSlot stream worker =>
    exact ⟨id, rfl, rfl, fun r => StreamTable.get_modify_preserves (P := Slot.Shut)
      fun s _ => s.shut_close, fun _ => id⟩
  | shutdownBegin =>
    simp only [step]
    split
    · exact ⟨fun _ => rfl, rfl, rfl, fun _ => id, fun _ => id⟩
    · exact .refl a
  | shutdownClose =>
    exact ⟨id, rfl, rfl, fun r _ => by
      rw [step, StreamTable.get_map]
      exact Slot.shut_close _, fun _ => id⟩
  | shutdownTake =>
    exact ⟨id, rfl, rfl, fun _ => id, fun r _ => StreamTable.get_fill none r⟩
  | join workers after =>
    simp only [step]
    split
    · cases after with
      | finish => exact .refl a
      | stopLink => exact ⟨id, rfl, rfl, fun _ => id, fun _ => id⟩
    · exact .refl a

theorem Call.openStart_step (a : Agent L) (caller : Option WorkerId) (stream : StreamId) :
    ((Call.openStart stream).step a caller).1 = a ∨
      a.startWorker stream = .ok ((Call.openStart stream).step a caller).1 := by
  simp only [step]
  split
  · next b h => exact .inr h
  · exact .inl rfl

theorem Call.halted_step (halted : a.running = false) :
    (call.step a caller).1.running = false := by
  by_cases opens : ∃ stream, call = .openStart stream
  · obtain ⟨stream, rfl⟩ := opens
    rcases openStart_step a caller stream with same | started
    · rw [same]
      exact halted
    · rw [(startWorker_eq started).2]
      exact halted
  · exact (spares_step fun s e => opens ⟨s, e⟩).halted halted

theorem Call.numbered_step (numbered : ∀ (i : Nat) w, a.workers[i]? = some w → w.id = i)
    (i : Nat) {w : Worker} (hw : (call.step a caller).1.workers[i]? = some w) : w.id = i := by
  by_cases opens : ∃ stream, call = .openStart stream
  · obtain ⟨stream, rfl⟩ := opens
    rcases openStart_step a caller stream with same | started
    · exact numbered i w (same ▸ hw)
    · rw [(startWorker_eq started).2] at hw
      rcases getElem?_concat_cases hw with hw | ⟨rfl, rfl⟩
      · exact numbered i w hw
      · rfl
  · rw [(spares_step fun s e => opens ⟨s, e⟩).workers] at hw
    exact numbered i w hw

/-- Only the last step of a shutdown does something to the link. -/
theorem Call.link_step (other : ¬ call.HasTaken) : (call.step a caller).1.link = a.link := by
  cases call with
  | join workers after =>
    cases after with
    | stopLink => exact absurd trivial other
    | finish =>
      simp only [step]
      split <;> rfl
  | openStart stream =>
    rcases openStart_step a caller stream with same | started
    · rw [same]
    · rw [(startWorker_eq started).2]
  | openFind | closeTake | shutdownBegin =>
    simp only [step]
    (repeat' split) <;> rfl
  | _ => rfl

/-- A shutdown goes on only if the agent was running when it began. -/
theorem Call.stops_step (h : (call.step a caller).2 = .next next) (stops : next.Stops) :
    call.Stops ∨ a.running = true ∧ (call.step a caller).1.running = false := by
  cases call with
  | shutdownBegin =>
    simp only [step] at h ⊢
    split at h
    · next running =>
      rw [if_pos running]
      exact .inr ⟨running, rfl⟩
    · cases h
  | shutdownClose | shutdownTake => exact .inl trivial
  | _ =>
    simp only [step] at h
    (repeat' split at h) <;> cases h <;> exact stops.elim

theorem Call.hasClosed_step (h : (call.step a caller).2 = .next next) (closed : next.HasClosed) :
    call.HasClosed ∨ ∀ stream, ((call.step a caller).1.slots.get stream).Shut := by
  cases call with
  | shutdownClose =>
    refine .inr fun stream => ?_
    rw [step, StreamTable.get_map]
    exact Slot.shut_close _
  | shutdownTake => exact .inl trivial
  | _ =>
    simp only [step] at h
    (repeat' split at h) <;> cases h <;> exact closed.elim

theorem Call.hasTaken_step (h : (call.step a caller).2 = .next next) (taken : next.HasTaken) :
    ∀ stream, (call.step a caller).1.serving.get stream = none := by
  cases call with
  | shutdownTake => exact StreamTable.get_fill none
  | _ =>
    simp only [step] at h
    (repeat' split at h) <;> cases h <;> exact taken.elim

end

/-! ## Who answers for a worker -/

/-- The workers that the call has taken out of the table. -/
def Call.taken : Call → List WorkerId
  | .closeSlot _ worker => [worker]
  | .join workers _ => workers
  | _ => []

/-- The call has taken the worker, and has not returned or does not wait for it: the worker itself
makes the call. -/
def Thread.Holds (t : Thread) (worker : WorkerId) : Prop :=
  worker ∈ t.call.taken ∧ (t.result = none ∨ t.caller = some worker)

theorem Thread.take_cases {t u : Thread} {progress : Call.Result}
    (h : t.take progress = some u) :
    (∃ result, progress = .done result ∧ u = { t with result := some result }) ∨
      ∃ call, progress = .next call ∧ u = { t with call := call } := by
  unfold take at h
  split at h
  · cases h
    exact .inl ⟨_, rfl, rfl⟩
  · cases h
    exact .inr ⟨_, rfl, rfl⟩
  · cases h

section
variable [Datalink L] {a : Agent L} {t u : Thread} {call : Call} {caller : Option WorkerId}
  {i : Nat} {w : Worker}

/-- A worker that a call answers for has stopped when the call returns, or makes the call. -/
theorem Thread.holds_join {workers : List WorkerId} {after : AfterJoin}
    (numbered : ∀ (i : Nat) w, a.workers[i]? = some w → w.id = i)
    (call : t.call = .join workers after)
    (take : t.take (t.call.step a t.caller).2 = some u) (hw : a.workers[i]? = some w)
    (mem : i ∈ workers) : w.phase = .stopped ∨ u.Holds i := by
  obtain ⟨caller, call', result⟩ := t
  cases call
  simp only [Call.step] at take
  split at take
  · next all =>
    rcases of_decide_eq_true (List.all_eq_true.mp all i mem) with own | stopped
    · refine .inr ?_
      cases after <;> cases take <;> exact ⟨mem, .inr own.symm⟩
    · exact .inl ((hasStopped_iff numbered hw).mp stopped)
  · cases take

theorem Thread.holds_step (numbered : ∀ (i : Nat) w, a.workers[i]? = some w → w.id = i)
    (free : t.result = none) (take : t.take (t.call.step a t.caller).2 = some u)
    (hw : a.workers[i]? = some w) (mem : i ∈ t.call.taken) : w.phase = .stopped ∨ u.Holds i := by
  cases call : t.call with
  | closeSlot stream worker =>
    rw [call] at take mem
    cases take
    exact .inr ⟨mem, .inl free⟩
  | join workers after =>
    rw [call] at mem
    exact Thread.holds_join numbered call take hw mem
  | _ =>
    rw [call] at mem
    exact absurd mem List.not_mem_nil

/-- A worker that goes from the table is answered for by the call that has taken it. -/
theorem Thread.served_step (free : t.result = none)
    (take : t.take (t.call.step a t.caller).2 = some u) {stream : StreamId}
    (served : a.serving.get stream = some i) :
    (t.call.step a t.caller).1.serving.get stream = some i ∨ u.Holds i := by
  obtain ⟨caller, call, result⟩ := t
  cases call with
  | openStart r =>
    refine .inl ?_
    rcases Call.openStart_step a caller r with same | started
    · rw [same]
      exact served
    · obtain ⟨unserved, eq⟩ := startWorker_eq started
      have other : r ≠ stream := by
        rintro rfl
        exact nomatch unserved.symm.trans served
      rw [eq, StreamTable.get_set_of_ne _ other]
      exact served
  | closeTake r =>
    simp only [Call.step] at take ⊢
    split
    · exact .inl served
    · next open_ =>
      rw [if_neg open_] at take
      split at take
      · next worker hr =>
        by_cases here : r = stream
        · subst here
          cases hr.symm.trans served
          cases take
          exact .inr ⟨List.mem_singleton_self _, .inl free⟩
        · refine .inl ?_
          rw [StreamTable.get_set_of_ne _ here]
          exact served
      · exact .inl served
  | shutdownTake =>
    cases take
    exact .inr ⟨List.mem_filterMap.mpr ⟨stream, StreamId.mem_all stream, served⟩, .inl free⟩
  | openFind | shutdownBegin =>
    simp only [Call.step]
    split <;> exact .inl served
  | join workers after =>
    simp only [Call.step]
    (repeat' split) <;> exact .inl served
  | closeSlot | shutdownClose => exact .inl served

/-- A worker that has just started is in the table. -/
theorem Call.served_of_new (hw : (call.step a caller).1.workers[i]? = some w) :
    a.workers[i]? = some w ∨ (call.step a caller).1.serving.get w.stream = some i := by
  by_cases opens : ∃ stream, call = .openStart stream
  · obtain ⟨stream, rfl⟩ := opens
    rcases openStart_step a caller stream with same | started
    · exact .inl (same ▸ hw)
    · rw [(startWorker_eq started).2] at hw ⊢
      rcases getElem?_concat_cases hw with hw | ⟨rfl, rfl⟩
      · exact .inl hw
      · exact .inr (StreamTable.get_set_self _ _ _)
  · rw [(spares_step fun s e => opens ⟨s, e⟩).workers] at hw
    exact .inl hw

end

namespace Host

/-- At most one call shuts the agent down, and the agent does not run once it has begun. -/
structure Halting (h : Host L) : Prop where
  numbered : ∀ (i : Nat) w, h.endpoint.workers[i]? = some w → w.id = i
  halted : ∀ t ∈ h.threads, t.call.Stops → h.endpoint.running = false
  single : ∀ (i j : Nat) (t u : Thread), h.threads[i]? = some t → h.threads[j]? = some u →
    t.call.Stops → u.call.Stops → i = j

/-- How an agent and its callers stand whose streams are not opened once a shutdown has begun. -/
structure Custody (h : Host L) : Prop extends Halting h where
  closed : ∀ t ∈ h.threads, t.call.HasClosed → ∀ stream, (h.endpoint.slots.get stream).Shut
  unserved : ∀ t ∈ h.threads, t.call.HasTaken → ∀ stream, h.endpoint.serving.get stream = none
  /-- A worker has stopped, or is in the table, or a call answers for it. -/
  kept : ∀ (i : Nat) w, h.endpoint.workers[i]? = some w → w.phase = .stopped ∨
    h.endpoint.serving.get w.stream = some i ∨ ∃ t ∈ h.threads, t.Holds i

section
variable [Datalink L] {h h' : Host L} {i : Nat}

theorem advance_cases (ha : h.advance i = some h') :
    ∃ t u, h.threads[i]? = some t ∧ t.result = none ∧
      t.take (t.call.step h.endpoint t.caller).2 = some u ∧
      h' = { h with
        endpoint := (t.call.step h.endpoint t.caller).1, threads := h.threads.set i u } := by
  simp only [advance] at ha
  split at ha
  · cases ha
  · next t ht =>
    split at ha
    · cases ha
    · next free =>
      obtain ⟨u, hu, rfl⟩ := Option.map_eq_some_iff.mp ha
      exact ⟨t, u, ht, by simpa using free, hu, rfl⟩

theorem Halting.advance (H : h.Halting) (ha : h.advance i = some h') :
    h'.Halting := by
  obtain ⟨t, u, ht, free, take, rfl⟩ := advance_cases ha
  have own : t.call.Stops → h.endpoint.running = false :=
    H.halted t (List.mem_of_getElem? ht)
  have begins : u.call.Stops → t.call.Stops ∨
      h.endpoint.running = true ∧ (t.call.step h.endpoint t.caller).1.running = false := by
    intro stops
    rcases Thread.take_cases take with ⟨result, -, rfl⟩ | ⟨next, onward, rfl⟩
    · exact .inl stops
    · exact Call.stops_step onward stops
  -- A shutdown begins while the agent runs, so no other call has begun one.
  have alone : ∀ (j : Nat) v, (h.threads.set i u)[j]? = some v → u.call.Stops → v.call.Stops →
      i = j := by
    intro j v hv stops stops'
    by_cases same : i = j
    · exact same
    · rw [List.getElem?_set_ne same] at hv
      rcases begins stops with already | ⟨running, -⟩
      · exact H.single i j t v ht hv already stops'
      · exact nomatch (H.halted v (List.mem_of_getElem? hv) stops').symm.trans running
  refine ⟨fun j w hw => Call.numbered_step H.numbered j hw, fun v mem stops => ?_,
    fun j k v v' hv hv' stops stops' => ?_⟩
  · rcases List.mem_or_eq_of_mem_set mem with mem | rfl
    · exact Call.halted_step (H.halted v mem stops)
    · rcases begins stops with already | ⟨-, halted⟩
      · exact Call.halted_step (own already)
      · exact halted
  · by_cases here : i = j
    · subst here
      rw [List.getElem?_set_self (lt_length_of_getElem? ht)] at hv
      cases hv
      exact alone k v' hv' stops stops'
    by_cases there : i = k
    · subst there
      rw [List.getElem?_set_self (lt_length_of_getElem? ht)] at hv'
      cases hv'
      exact (alone j v hv stops' stops).symm
    · rw [List.getElem?_set_ne here] at hv
      rw [List.getElem?_set_ne there] at hv'
      exact H.single j k v v' hv hv' stops stops'

theorem Custody.advance (C : h.Custody) (ha : h.advance i = some h')
    (prompt : ∀ t stream, h.threads[i]? = some t → t.call = .openStart stream →
      h.endpoint.running = true) : h'.Custody := by
  have H := C.toHalting.advance ha
  obtain ⟨t, u, ht, free, take, rfl⟩ := advance_cases ha
  have mem := List.mem_of_getElem? ht
  -- Nothing is opened once somebody has got as far as to close the slots.
  have spares : ∀ v ∈ h.threads, v.call.HasClosed →
      Spares h.endpoint (t.call.step h.endpoint t.caller).1 := by
    intro v hv closed
    apply Call.spares_step
    intro stream opens
    exact nomatch (C.halted v hv closed.stops).symm.trans (prompt t stream ht opens)
  refine ⟨H, fun v hv closed stream => ?_, fun v hv taken stream => ?_, fun j w hw => ?_⟩
  · rcases List.mem_or_eq_of_mem_set hv with hv | rfl
    · exact (spares v hv closed).shut stream (C.closed v hv closed stream)
    · rcases Thread.take_cases take with ⟨result, -, rfl⟩ | ⟨next, onward, rfl⟩
      · exact (spares t mem closed).shut stream (C.closed t mem closed stream)
      · rcases Call.hasClosed_step onward closed with already | now
        · exact (spares t mem already).shut stream (C.closed t mem already stream)
        · exact now stream
  · rcases List.mem_or_eq_of_mem_set hv with hv | rfl
    · exact (spares v hv taken.hasClosed).unserved stream (C.unserved v hv taken stream)
    · rcases Thread.take_cases take with ⟨result, -, rfl⟩ | ⟨next, onward, rfl⟩
      · exact (spares t mem taken.hasClosed).unserved stream (C.unserved t mem taken stream)
      · exact Call.hasTaken_step onward taken stream
  · have here : u ∈ h.threads.set i u := List.mem_set (lt_length_of_getElem? ht) u
    rcases Call.served_of_new hw with hw | served
    · rcases C.kept j w hw with stopped | served | ⟨v, hv, held⟩
      · exact .inl stopped
      · rcases Thread.served_step free take served with served | held
        · exact .inr (.inl served)
        · exact .inr (.inr ⟨u, here, held⟩)
      · obtain ⟨k, hk⟩ := List.getElem?_of_mem hv
        by_cases own : i = k
        · subst own
          rw [ht] at hk
          cases hk
          rcases Thread.holds_step C.numbered free take hw held.1 with stopped | held
          · exact .inl stopped
          · exact .inr (.inr ⟨u, here, held⟩)
        · refine .inr (.inr ⟨v, List.mem_of_getElem? ((List.getElem?_set_ne own).trans hk), held⟩)
    · exact .inr (.inl served)

end

/-! ## Everything that may happen -/

end Host

/-- One step of anybody. The link may hand over whatever it likes, and lose it. -/
inductive Deed
  | act (action : Action)
  /-- The receive path takes the next buffer, unless it still holds a command. -/
  | hear (buffer : Option Octets)
  /-- Somebody, a worker perhaps, shuts the agent down. -/
  | deinit (caller : Option WorkerId)

namespace Host

section
variable [Datalink L]

def enact (h : Host L) : Deed → Option (Host L)
  | .act action => h.act [] action
  | .hear buffer =>
    if h.endpoint.receiving.isSome then none
    else some { h with endpoint := h.endpoint.receive buffer }
  | .deinit caller => some { h with threads := h.threads ++ [⟨caller, .deinit, none⟩] }

/-- Takes steps one after the other, if each of them can be taken. -/
def enactAll (h : Host L) (deeds : List Deed) : Option (Host L) := deeds.foldlM enact h

/-- A call opens the stream that it has found, although a shutdown has begun. -/
def tardy (h : Host L) : Deed → Bool
  | .act (.advance i) =>
    match h.threads[i]? with
    | some ⟨_, .openStart _, _⟩ => !h.endpoint.running
    | _ => false
  | _ => false

/-- Takes such steps, none of which is tardy. -/
def enactTimely (h : Host L) (deeds : List Deed) : Option (Host L) :=
  deeds.foldlM (fun h deed => if h.tardy deed then none else h.enact deed) h

theorem enactAll_of_timely {h h' : Host L} {deeds : List Deed}
    (run : h.enactTimely deeds = some h') :
    h.enactAll deeds = some h' := by
  induction deeds generalizing h with
  | nil => exact run
  | cons deed deeds ih =>
    rw [enactTimely, List.foldlM_cons] at run
    obtain ⟨m, step, rest⟩ := Option.bind_eq_some_iff.mp run
    rw [enactAll, List.foldlM_cons, (Option.ite_none_left_eq_some.mp step).2]
    exact ih rest

end

section
variable [FrameLink L] {h h' : Host L} {deed : Deed} {deeds : List Deed} {i : Nat}

/-- What a step that is not one of a call does. -/
inductive Beside (h h' : Host L) : Prop
  | tended (tended : Tended h.endpoint h'.endpoint) (threads : h'.threads = h.threads)
  /-- A call is made, and has not begun. -/
  | called (caller : Option WorkerId) (call : Call) (fresh : call.taken = [] ∧ ¬ call.Stops)
      (endpoint : h'.endpoint = h.endpoint)
      (threads : h'.threads = h.threads ++ [⟨caller, call, none⟩])

/-- A step is one of a call or leaves the calls alone. -/
theorem enact_cases (numbered : ∀ (i : Nat) w, h.endpoint.workers[i]? = some w → w.id = i)
    (ha : h.enact deed = some h') :
    (∃ i, deed = .act (.advance i) ∧ h.advance i = some h') ∨ Beside h h' := by
  cases deed with
  | hear buffer =>
    obtain ⟨-, ha⟩ := Option.ite_none_left_eq_some.mp ha
    cases ha
    exact .inr <| .tended (tended_receive buffer) rfl
  | deinit caller =>
    cases ha
    exact .inr <| .called caller .deinit ⟨rfl, id⟩ rfl rfl
  | act action =>
    have ha : h.act [] action = some h' := ha
    cases action with
    | event header args =>
      cases ha
      exact .inr <| .tended (tended_sendPayload (by decide) _ _) rfl
    | announce =>
      cases ha
      exact .inr <| .tended (tended_sendPayload (by decide) _ _) rfl
    | watch resets =>
      cases ha
      exact .inr <| .tended ⟨rfl, rfl, fun _ => rfl, fun _ => id, .inl rfl, fun _ => rfl⟩ rfl
    | begin errand caller =>
      cases ha
      exact .inr <| .called caller errand.call (by cases errand <;> exact ⟨rfl, id⟩) rfl rfl
    | advance i => exact .inl ⟨i, rfl, ha⟩
    | hear =>
      obtain ⟨octets, none, -, -⟩ := act_hear ha
      cases none
    | pass =>
      obtain ⟨a, delivered, rfl⟩ := Option.map_eq_some_iff.mp ha
      exact .inr <| .tended (tended_deliver delivered) rfl
    | takeUp j =>
      obtain ⟨w, a, hw, waits, taken, rfl⟩ := act_takeUp ha
      exact .inr <| .tended (tended_takeUp hw (numbered j w hw) waits taken) rfl
    | handle j result =>
      obtain ⟨worker, stream, invocation, hw, rfl⟩ := act_handle ha
      cases numbered j _ hw
      exact .inr <| .tended ⟨rfl, rfl, fun _ => rfl, fun _ => id, .inr ⟨_, _, _, hw, nofun, rfl⟩,
        fun _ => rfl⟩ rfl
    | answer j =>
      obtain ⟨id, stream, payload, hw, rfl⟩ := act_answer ha
      exact .inr <| .tended (tended_answer hw (numbered j _ hw) nofun payload) rfl

omit [FrameLink L] in
theorem Halting.beside (H : h.Halting) (B : Beside h h') : h'.Halting := by
  cases B with
  | tended T threads =>
    refine ⟨fun j w hw => ?_, fun t mem stops => ?_, by rw [threads]; exact H.single⟩
    · rcases T.workers with same | ⟨k, v, phase, hv, -, eq⟩
      · exact H.numbered j w (same ▸ hw)
      · exact numbered_setPhase H.numbered k phase j w (eq ▸ hw)
    · rw [T.running]
      exact H.halted t (threads ▸ mem) stops
  | called caller call fresh endpoint threads =>
    refine ⟨by rw [endpoint]; exact H.numbered, fun t mem stops => ?_,
      fun j k t u ht hu stops stops' => ?_⟩
    · rw [endpoint]
      rw [threads] at mem
      rcases mem_or_eq_of_mem_concat mem with mem | rfl
      · exact H.halted t mem stops
      · exact absurd stops fresh.2
    · rw [threads] at ht hu
      rcases getElem?_concat_cases ht with ht | ⟨-, rfl⟩
      · rcases getElem?_concat_cases hu with hu | ⟨-, rfl⟩
        · exact H.single j k t u ht hu stops stops'
        · exact absurd stops' fresh.2
      · exact absurd stops fresh.2

omit [FrameLink L] in
theorem Custody.beside (C : h.Custody) (B : Beside h h') : h'.Custody := by
  have H := C.toHalting.beside B
  cases B with
  | tended T threads =>
    refine ⟨H, fun t mem closed stream => ?_, fun t mem taken stream => ?_, fun j w hw => ?_⟩
    · exact T.shut stream (C.closed t (threads ▸ mem) closed stream)
    · rw [T.serving]
      exact C.unserved t (threads ▸ mem) taken stream
    · rw [T.serving, threads]
      rcases T.workers with same | ⟨k, v, phase, hv, active, eq⟩
      · exact C.kept j w (same ▸ hw)
      · rw [eq, getElem?_setPhase C.numbered, Option.map_eq_some_iff] at hw
        obtain ⟨u, hu, rfl⟩ := hw
        split
        · next own =>
          subst own
          rw [hv] at hu
          cases hu
          exact .inr ((C.kept j v hv).resolve_left active)
        · exact C.kept j u hu
  | called caller call fresh endpoint threads =>
    have older : ∀ t ∈ h'.threads, t.call.HasClosed → t ∈ h.threads := by
      intro t mem closed
      rw [threads] at mem
      rcases mem_or_eq_of_mem_concat mem with mem | rfl
      · exact mem
      · exact absurd closed.stops fresh.2
    refine ⟨H, fun t mem closed stream => ?_, fun t mem taken stream => ?_, fun j w hw => ?_⟩
    · rw [endpoint]
      exact C.closed t (older t mem closed) closed stream
    · rw [endpoint]
      exact C.unserved t (older t mem taken.hasClosed) taken stream
    · rw [endpoint] at hw ⊢
      rw [threads]
      rcases C.kept j w hw with stopped | served | ⟨t, mem, held⟩
      · exact .inl stopped
      · exact .inr (.inl served)
      · exact .inr (.inr ⟨t, List.mem_append_left _ mem, held⟩)

theorem Halting.enact (H : h.Halting) (ha : h.enact deed = some h') : h'.Halting := by
  rcases enact_cases H.numbered ha with ⟨i, -, ha⟩ | B
  · exact H.advance ha
  · exact H.beside B

theorem Custody.enact (C : h.Custody) (prompt : h.tardy deed = false)
    (ha : h.enact deed = some h') : h'.Custody := by
  rcases enact_cases C.numbered ha with ⟨i, rfl, ha⟩ | B
  · apply C.advance ha
    rintro ⟨caller, call, result⟩ stream ht rfl
    simpa [tardy, ht] using prompt
  · exact C.beside B

/-! ## After a shutdown -/

/-- The call of a thread has shut the agent down. -/
structure Ended (i : Nat) (t : Thread) (h : Host L) : Prop extends Halting h where
  thread : h.threads[i]? = some t
  returned : t.result.isSome
  taken : t.call.HasTaken

variable {t : Thread}

omit [FrameLink L] in
theorem Ended.mem (E : Ended i t h) : t ∈ h.threads := List.mem_of_getElem? E.thread

omit [FrameLink L] in
theorem Ended.running (E : Ended i t h) : h.endpoint.running = false :=
  E.halted t E.mem E.taken.hasClosed.stops

/-- Neither a call nor anything else does something to the link any more. -/
theorem Ended.enact (E : Ended i t h) (ha : h.enact deed = some h') :
    Ended i t h' ∧ h'.endpoint.link = h.endpoint.link := by
  have H := E.toHalting.enact ha
  rcases enact_cases E.numbered ha with ⟨j, -, ha⟩ | B
  · obtain ⟨u, v, hu, free, -, rfl⟩ := advance_cases ha
    have other : j ≠ i := by
      rintro rfl
      cases hu.symm.trans E.thread
      simpa [free] using E.returned
    refine ⟨⟨H, (List.getElem?_set_ne other).trans E.thread, E.returned, E.taken⟩, ?_⟩
    apply Call.link_step
    intro taken
    exact other (E.single j i u t hu E.thread taken.hasClosed.stops E.taken.hasClosed.stops)
  · cases B with
    | tended T threads =>
      exact ⟨⟨H, threads ▸ E.thread, E.returned, E.taken⟩, T.link E.running⟩
    | called caller call fresh endpoint threads =>
      refine ⟨⟨H, ?_, E.returned, E.taken⟩, congrArg Agent.link endpoint⟩
      rw [threads]
      exact getElem?_append_of_some E.thread _

/-- No worker takes up a command any more. -/
theorem Ended.invocations (E : Ended i t h) (C : h.Custody) (prompt : h.tardy deed = false)
    (ha : h.enact deed = some h') : h'.endpoint.invocations = h.endpoint.invocations := by
  rcases enact_cases E.numbered ha with ⟨j, rfl, ha⟩ | B
  · obtain ⟨⟨caller, call, result⟩, v, hu, free, -, rfl⟩ := advance_cases ha
    have spares : Spares h.endpoint (call.step h.endpoint caller).1 := by
      apply Call.spares_step
      rintro stream rfl
      simp [tardy, hu, E.running] at prompt
    show Agent.invocations _ = _
    rw [Agent.invocations, spares.log]
    rfl
  · cases B with
    | tended T threads => exact T.invocations (C.closed t E.mem E.taken.hasClosed)
    | called caller call fresh endpoint threads => exact congrArg Agent.invocations endpoint

omit [FrameLink L] in
theorem custody_of_poised {a : Agent L} (P : a.Poised none) : (ofAgent a).Custody := by
  have alone : ∀ t, t ∉ (ofAgent a).threads := fun _ => List.not_mem_nil
  refine ⟨⟨P.numbered, fun t ht => (alone t ht).elim, fun j k t u ht => nomatch ht⟩,
    fun t ht => (alone t ht).elim, fun t ht => (alone t ht).elim, fun j w hw => ?_⟩
  by_cases stopped : w.phase = .stopped
  · exact .inl stopped
  · exact .inr (.inl ((P.serves j w hw stopped).resolve_right nofun))

/-! ## Runs -/

variable {deeds : List Deed}

theorem Ended.onward (E : Ended i t h) (run : h.enactAll deeds = some h') :
    Ended i t h' ∧ h'.endpoint.link = h.endpoint.link :=
  foldlM_preserves (I := fun m => Ended i t m ∧ m.endpoint.link = h.endpoint.link) (fun H ha => by
    obtain ⟨E, same⟩ := H
    obtain ⟨E', still⟩ := E.enact ha
    exact ⟨E', still.trans same⟩) run ⟨E, rfl⟩

theorem Custody.onward (C : h.Custody) (run : h.enactTimely deeds = some h') : h'.Custody :=
  foldlM_preserves (fun C ha => by
    obtain ⟨prompt, ha⟩ := Option.ite_none_left_eq_some.mp ha
    exact C.enact (by simpa using prompt) ha) run C

theorem Ended.invocations_onward (E : Ended i t h) (C : h.Custody)
    (run : h.enactTimely deeds = some h') :
    h'.endpoint.invocations = h.endpoint.invocations := by
  obtain ⟨-, -, untold⟩ := foldlM_preserves (I := fun m => Ended i t m ∧ m.Custody ∧
    m.endpoint.invocations = h.endpoint.invocations) (fun H ha => by
      obtain ⟨E, C, same⟩ := H
      obtain ⟨prompt, ha⟩ := Option.ite_none_left_eq_some.mp ha
      rw [Bool.not_eq_true] at prompt
      exact ⟨(E.enact ha).1, C.enact prompt ha, (E.invocations C prompt ha).trans same⟩)
    run ⟨E, C, rfl⟩
  exact untold

/-- From the return of a call that shuts the agent down, whatever is done before and after, nothing
can be sent, and nothing is done to the link. If no stream is opened once a shutdown has begun, no
stream is open either, no worker takes up a command, and each has stopped, but for one at work that
a call has taken which has not returned, or which the worker itself has made. -/
theorem shutdown_final {link : L} {config : AgentConfig} {more : List Deed}
    {caller : Option WorkerId} {workers : List WorkerId} {result : Except EndpointError Answer}
    (run : (ofAgent (Agent.start link config).2).enactAll deeds = some h)
    (ended : h.threads[i]? = some ⟨caller, .join workers .stopLink, some result⟩)
    (later : h.enactAll more = some h') :
    h'.endpoint.running = false ∧
    (∀ header args, h'.endpoint.sendEvent header args = (.error .shutdown, h'.endpoint)) ∧
    h'.endpoint.announce = (.error .shutdown, h'.endpoint) ∧
    h'.endpoint.link = h.endpoint.link ∧
    ((ofAgent (Agent.start link config).2).enactTimely (deeds ++ more) = some h' →
      (∀ stream, h'.endpoint.isOpen stream = false) ∧
      h'.endpoint.invocations = h.endpoint.invocations ∧
      ∀ (j : Nat) w, h'.endpoint.workers[j]? = some w →
        w.phase = .stopped ∨ ∃ t ∈ h'.threads, t.Holds j) := by
  have prepared : Prepared link config (Agent.start link config).2 := .start
  have C₀ := custody_of_poised prepared.poised.2
  have E : Ended i _ h := ⟨foldlM_preserves Halting.enact run C₀.toHalting, ended, rfl, trivial⟩
  obtain ⟨E', silent⟩ := E.onward later
  have halted := E'.running
  refine ⟨halted, fun header args => sendPayload_of_halted halted _ _ _,
    sendPayload_of_halted halted _ _ _, silent, fun timely => ?_⟩
  rw [enactTimely, List.foldlM_append] at timely
  obtain ⟨m, timely, timely'⟩ := Option.bind_eq_some_iff.mp timely
  cases (enactAll_of_timely timely).symm.trans run
  have C := C₀.onward timely
  have C' := C.onward timely'
  have unserved := C'.unserved _ E'.mem E'.taken
  refine ⟨fun stream => ?_, E.invocations_onward C timely', fun j w hw => ?_⟩
  · rw [isOpen, unserved stream]
    rfl
  · rcases C'.kept j w hw with stopped | served | held
    · exact .inl stopped
    · rw [unserved] at served
      cases served
    · exact .inr held

end

/-! ## An agent on a serial link -/

/-- The slots of an agent that holds no command are closed. -/
theorem enactTimely_shutdownClose [Datalink L] {h : Host L} {i : Nat} {caller : Option WorkerId}
    {slot : Slot Octets} (ht : h.threads[i]? = some ⟨caller, .shutdownClose, none⟩)
    (slots : h.endpoint.slots = .fill slot) (deeds : List Deed) :
    h.enactTimely (.act (.advance i) :: deeds) = enactTimely { h with
      endpoint := { h.endpoint with slots := .fill slot.close }
      threads := h.threads.set i ⟨caller, .shutdownTake, none⟩ } deeds := by
  have step : h.enact (.act (.advance i)) = some { h with
      endpoint := { h.endpoint with slots := .fill slot.close }
      threads := h.threads.set i ⟨caller, .shutdownTake, none⟩ } := by
    simp [enact, act, advance, ht, Call.step, Thread.take, slots]
  rw [enactTimely, List.foldlM_cons, step]
  simp only [tardy, ht]
  rfl

def onSerial : Host PacketLink := ofAgent (Agent.start (.ofConfig .default) ⟨"1.0", true⟩).2

/-- The stream that the owner opens. -/
def second : StreamId := (StreamId.ofOctet? 1).getD StreamId.control

def commandFor (stream : StreamId) (seq : SeqNum) : Option Octets :=
  some (Post.octets ⟨.command, seq, stream, [5, 1, 0, 0], by decide⟩)

/-- Two workers are in their handlers. The owner is about to close the stream of the second, and the
handler of the first has begun to shut the agent down. -/
def midway : List Deed :=
  [.act (.begin .openStream none), .act (.advance 0), .act (.advance 0),
    .hear (commandFor second .first), .act .pass, .act (.takeUp 1),
    .act (.begin (.closeStream second) none), .act (.advance 1),
    .hear (commandFor StreamId.control SeqNum.first.next), .act .pass, .act (.takeUp 0),
    .deinit (some 0), .act (.advance 2)]

/-- Both handlers return, and the first worker stops. Another command comes too late. -/
def aftermath : List Deed :=
  [.act (.handle 0 (.ok [])), .act (.handle 1 (.ok [])), .act (.answer 0), .act (.answer 1),
    .hear (commandFor StreamId.control SeqNum.first.next.next), .act .announce, .act (.takeUp 0),
    .act (.advance 1)]

theorem shutdown_final_midway :
    ∃ (deeds : List Deed) (h h' : Host PacketLink),
      onSerial.enactAll deeds = some h ∧
      h.threads[2]? = some ⟨some 0, .join [0] .stopLink, some (.ok .done)⟩ ∧
      h.enactAll aftermath = some h' ∧
      h.endpoint.workers.map Worker.phase =
        [.handling ⟨StreamId.control, ⟨5, 1, 0⟩, []⟩, .handling ⟨second, ⟨5, 1, 0⟩, []⟩] ∧
      h'.endpoint.workers.map Worker.phase = [.stopped, .waiting] ∧
      h'.endpoint.link = h.endpoint.link ∧ (∀ stream, h'.endpoint.isOpen stream = false) ∧
      h'.endpoint.invocations = h.endpoint.invocations := by
  obtain ⟨m, run, threads, slots⟩ : ∃ m : Host PacketLink, onSerial.enactTimely midway = some m ∧
      m.threads[2]? = some ⟨some 0, .shutdownClose, none⟩ ∧ m.endpoint.slots = .fill .empty :=
    ⟨_, rfl, rfl, rfl⟩
  have outcome : ((onSerial.enactTimely midway).bind fun m =>
      (enactTimely { m with
        endpoint := { m.endpoint with slots := .fill Slot.empty.close }
        threads := m.threads.set 2 ⟨some 0, .shutdownTake, none⟩ }
        [.act (.advance 2), .act (.advance 2)]).bind fun h =>
      (h.enactTimely aftermath).map fun h' => (h.threads[2]?, h.endpoint.workers.map Worker.phase,
        h'.endpoint.workers.map Worker.phase)) =
      some (some ⟨some 0, .join [0] .stopLink, some (.ok .done)⟩,
        [.handling ⟨StreamId.control, ⟨5, 1, 0⟩, []⟩, .handling ⟨second, ⟨5, 1, 0⟩, []⟩],
        [.stopped, .waiting]) := rfl
  rw [run, Option.bind_some, ← enactTimely_shutdownClose threads slots] at outcome
  obtain ⟨h, closing, outcome⟩ := Option.bind_eq_some_iff.mp outcome
  obtain ⟨h', later, outcome⟩ := Option.map_eq_some_iff.mp outcome
  obtain ⟨ended, phases, phases'⟩ : _ ∧ _ ∧ _ := by simpa only [Prod.mk.injEq] using outcome
  have timely : onSerial.enactTimely (midway ++ .act (.advance 2) ::
      [.act (.advance 2), .act (.advance 2)]) = some h := by
    rw [enactTimely, List.foldlM_append]
    exact Option.bind_eq_some_iff.mpr ⟨m, run, closing⟩
  have whole : onSerial.enactTimely ((midway ++ .act (.advance 2) ::
      [.act (.advance 2), .act (.advance 2)]) ++ aftermath) = some h' := by
    rw [enactTimely, List.foldlM_append]
    exact Option.bind_eq_some_iff.mpr ⟨h, timely, later⟩
  have run' := enactAll_of_timely timely
  have later' := enactAll_of_timely later
  obtain ⟨-, -, -, silent, final⟩ := shutdown_final run' ended later'
  obtain ⟨shut, untold, -⟩ := final whole
  exact ⟨_, h, h', run', ended, later', phases, phases', silent, shut, untold⟩

/-- A stream is opened after the shutdown, and its worker waits for a command. -/
theorem opened_after_shutdown :
    ∃ (deeds : List Deed) (h h' : Host PacketLink), onSerial.enactAll deeds = some h ∧
      h.threads[0]? = some ⟨none, .join [0] .stopLink, some (.ok .done)⟩ ∧
      h.enactAll [.act (.begin .openStream none), .act (.advance 1), .act (.advance 1)] = some h' ∧
      h'.threads.map Thread.result = [some (.ok .done), some (.ok (.opened StreamId.control))] ∧
      h'.endpoint.isOpen StreamId.control = true ∧
      h'.endpoint.workers.map Worker.phase = [.stopped, .waiting] := by
  obtain ⟨m, run, threads, slots⟩ : ∃ m : Host PacketLink,
      onSerial.enactTimely [.deinit none, .act (.advance 0)] = some m ∧
      m.threads[0]? = some ⟨none, .shutdownClose, none⟩ ∧ m.endpoint.slots = .fill .empty :=
    ⟨_, rfl, rfl, rfl⟩
  have outcome : ((onSerial.enactTimely [.deinit none, .act (.advance 0)]).bind fun m =>
      (enactTimely { m with
        endpoint := { m.endpoint with slots := .fill Slot.empty.close }
        threads := m.threads.set 0 ⟨none, .shutdownTake, none⟩ }
        [.act (.advance 0), .act (.takeUp 0), .act (.advance 0)]).bind fun h =>
      (h.enactAll [.act (.begin .openStream none), .act (.advance 1), .act (.advance 1)]).map
        fun h' => (h.threads[0]?, h'.threads.map Thread.result,
          h'.endpoint.isOpen StreamId.control, h'.endpoint.workers.map Worker.phase)) =
      some (some ⟨none, .join [0] .stopLink, some (.ok .done)⟩,
        [some (.ok .done), some (.ok (.opened StreamId.control))], true,
        [.stopped, .waiting]) := rfl
  rw [run, Option.bind_some, ← enactTimely_shutdownClose threads slots] at outcome
  obtain ⟨h, closing, outcome⟩ := Option.bind_eq_some_iff.mp outcome
  obtain ⟨h', later, outcome⟩ := Option.map_eq_some_iff.mp outcome
  obtain ⟨ended, results, opened, phases⟩ : _ ∧ _ ∧ _ ∧ _ := by
    simpa only [Prod.mk.injEq] using outcome
  have timely : onSerial.enactTimely ([.deinit none, .act (.advance 0)] ++ .act (.advance 0) ::
      [.act (.advance 0), .act (.takeUp 0), .act (.advance 0)]) = some h := by
    rw [enactTimely, List.foldlM_append]
    exact Option.bind_eq_some_iff.mpr ⟨m, run, closing⟩
  exact ⟨_, h, h', enactAll_of_timely timely, ended, later, results, opened, phases⟩

end Host
end Agent
end CommandLink
