import CommandLink.Proofs.Agent.Attendance
import CommandLink.Proofs.Agent.Deeds

/-! # One worker after the other

The owner of an agent and its handlers may open and close streams at any time, and a call that
closes a stream takes three steps: it takes the worker out of the table, closes the slot, and waits
until the worker has stopped. As long as no call opens a stream again of which a worker has not
stopped, no stream has two workers, and each open stream has one, with a slot that takes commands
(`Agent.Host.one_worker_each`). A call that does so is not refused, though. The earlier worker then
stays, or the slot of the stream is closed under the later one (`Agent.Host.workers_crowd`). Even
without such a call, a command that waits for room in the slot may wait until the stream is open
again (`Agent.Host.command_outlives_closing`). -/

namespace CommandLink
namespace Agent

section
variable {L : Type} {a b : Agent L} {stream : StreamId} {i j : WorkerId}

/-- The stream has one worker, the one in the table, and its slot takes commands. -/
structure Manned (a : Agent L) (stream : StreamId) (i : WorkerId) : Prop where
  serving : a.serving.get stream = some i
  roomy : (a.slots.get stream).closed = false
  alone : ∀ j, a.OnDuty stream j ↔ j = i

/-- Some worker of the stream has not stopped. -/
def lingers (a : Agent L) (stream : StreamId) : Bool :=
  a.workers.any fun w => w.stream = stream ∧ w.phase ≠ .stopped

theorem lingers_iff : a.lingers stream = true ↔ ∃ i, a.OnDuty stream i := by
  simp only [lingers, List.any_eq_true, decide_eq_true_eq, OnDuty, List.mem_iff_getElem?]
  constructor
  · rintro ⟨w, ⟨i, hw⟩, here⟩
    exact ⟨i, w, hw, here⟩
  · rintro ⟨i, w, hw, here⟩
    exact ⟨w, ⟨i, hw⟩, here⟩

theorem onDuty_startWorker (h : a.startWorker stream = .ok b) {s : StreamId} :
    b.OnDuty s j ↔ a.OnDuty s j ∨ stream = s ∧ j = a.workers.length := by
  rw [(startWorker_eq h).2]
  constructor
  · rintro ⟨w, hw, here, active⟩
    rcases getElem?_concat_cases hw with hw | ⟨rfl, rfl⟩
    · exact .inl ⟨w, hw, here, active⟩
    · exact .inr ⟨here, rfl⟩
  · rintro (⟨w, hw, here, active⟩ | ⟨rfl, rfl⟩)
    · exact ⟨w, getElem?_append_of_some hw _, here, active⟩
    · exact ⟨_, List.getElem?_concat_length, rfl, nofun⟩

/-! ## What anyone but a call does -/

/-- From `a` to `b` no stream is opened or closed, and only the worker of a closed slot stops. -/
structure Lasting (a b : Agent L) : Prop where
  serving : b.serving = a.serving
  closed : ∀ s, (b.slots.get s).closed = (a.slots.get s).closed
  duty : ∀ {s i}, b.OnDuty s i → a.OnDuty s i
  kept : ∀ {s i}, (a.slots.get s).closed = false → a.OnDuty s i → b.OnDuty s i

theorem lasting_of_same (serving : b.serving = a.serving) (slots : b.slots = a.slots)
    (workers : b.workers = a.workers) : Lasting a b where
  serving := serving
  closed s := by rw [slots]
  duty duty := by rwa [OnDuty, workers] at duty
  kept _ duty := by rwa [OnDuty, workers]

/-- A worker goes on to another phase, and stops only if its slot is closed. -/
theorem lasting_setPhase (numbered : ∀ (i : Nat) w, a.workers[i]? = some w → w.id = i) {w : Worker}
    (hw : a.workers[i]? = some w) (active : w.phase ≠ .stopped) {phase : WorkerPhase}
    (workers : b.workers = (a.setPhase i phase).workers)
    (stays : phase = .stopped → (a.slots.get w.stream).closed = true)
    (serving : b.serving = a.serving)
    (closed : ∀ s, (b.slots.get s).closed = (a.slots.get s).closed) : Lasting a b := by
  have moved : ∀ {s j}, b.OnDuty s j ↔ (a.setPhase i phase).OnDuty s j := by
    intro s j
    rw [OnDuty, workers]
    rfl
  refine ⟨serving, closed, fun duty => ?_, fun roomy duty => ?_⟩
  · exact ((onDuty_setPhase numbered hw active).mp (moved.mp duty)).1
  · refine moved.mpr ((onDuty_setPhase numbered hw active).mpr ⟨duty, ?_⟩)
    rintro stops rfl
    obtain ⟨v, hv, rfl, -⟩ := duty
    cases hw.symm.trans hv
    cases (stays stops).symm.trans roomy

theorem lasting_takeUp (numbered : ∀ (i : Nat) w, a.workers[i]? = some w → w.id = i) {w : Worker}
    (hw : a.workers[i]? = some w) (waits : w.phase = .waiting) (h : a.takeUp w = some b) :
    Lasting a b := by
  have active : w.phase ≠ .stopped := by simp [waits]
  have cleared := closed_modify_clear a.slots w.stream
  cases numbered i w hw
  rcases takeUp_ways h with ⟨body, invocation, -, -, rfl⟩ | ⟨body, -, -, rfl⟩ | ⟨-, shut, rfl⟩
  · exact lasting_setPhase numbered hw active rfl nofun rfl cleared
  · exact lasting_setPhase numbered hw active rfl nofun rfl cleared
  · exact lasting_setPhase numbered hw active rfl (fun _ => shut) rfl fun _ => rfl

section
variable [FrameLink L]

theorem lasting_deliver (h : a.deliver = some b) : Lasting a b := by
  obtain ⟨command, -, B, -⟩ := deliver_cases h
  rcases B with ⟨-, B⟩ | ⟨-, -, B⟩ <;> obtain ⟨link, outbound, sent, log, eq⟩ := B.eq
  · exact lasting_of_same (by rw [eq]) (by rw [eq]) (by rw [eq])
  · rw [eq]
    refine ⟨rfl, fun s => ?_, id, fun _ => id⟩
    simp only [StreamTable.get_set]
    split
    · next e => rw [e]
    · rfl

theorem lasting_receive (a : Agent L) (buffer : Option Octets) : Lasting a (a.receive buffer) := by
  have H := a.aside_receive buffer
  exact lasting_of_same H.serving H.slots H.workers

theorem lasting_sendPayload (a : Agent L) (kind : FrameKind) (stream : UInt8) (payload : Octets) :
    Lasting a (a.sendPayload kind stream payload).2 := by
  obtain ⟨link, outbound, sent, eq⟩ := a.sendPayload_touches kind stream payload
  exact lasting_of_same (by rw [eq]) (by rw [eq]) (by rw [eq])

end

/-! ## What a call does -/

section
variable [Datalink L] {caller : Option WorkerId} {call : Call}

/-- What a call does in one step, and how it goes on, unless it is one that shuts the agent down. -/
inductive Call.Deal (a : Agent L) : Call → Agent L → Result → Prop
  | nothing {call : Call} {progress : Result}
      (onward : ∀ stream i, progress ≠ .next (.closeSlot stream i)) : Deal a call a progress
  | starts {stream : StreamId} {b : Agent L} (start : a.startWorker stream = .ok b) :
      Deal a (.openStart stream) b (.done (.ok (.opened stream)))
  | takes {stream : StreamId} {i : WorkerId} (serving : a.serving.get stream = some i) :
      Deal a (.closeTake stream) { a with serving := a.serving.set stream none }
        (.next (.closeSlot stream i))
  | closes {stream : StreamId} {i : WorkerId} :
      Deal a (.closeSlot stream i) { a with slots := a.slots.modify stream Slot.close }
        (.next (.join [i] .finish))

theorem Call.deal (going : ¬ call.Stops) (running : (call.step a caller).1.running = true) :
    Deal a call (call.step a caller).1 (call.step a caller).2 := by
  cases call with
  | openFind =>
    simp only [step]
    split <;> exact .nothing (by simp)
  | openStart stream =>
    simp only [step]
    split
    · next b start => exact .starts start
    · exact .nothing (by simp)
  | closeTake stream =>
    simp only [step]
    split
    · exact .nothing (by simp)
    · split
      · next i serving => exact .takes serving
      · exact .nothing (by simp)
  | closeSlot stream i => exact .closes
  | shutdownBegin =>
    simp only [step] at running ⊢
    split
    · next was =>
      rw [if_pos was] at running
      cases running
    · exact .nothing (by simp)
  | shutdownClose | shutdownTake => exact absurd trivial going
  | join workers after =>
    cases after with
    | stopLink => exact absurd trivial going
    | finish =>
      simp only [step]
      split <;> exact .nothing (by simp)

/-- A call keeps what it has taken. -/
theorem Thread.taken_step {t u : Thread} (take : t.take (t.call.step a t.caller).2 = some u)
    (mem : i ∈ t.call.taken) : i ∈ u.call.taken := by
  obtain ⟨caller, call, result⟩ := t
  cases call with
  | closeSlot stream worker =>
    cases take
    exact mem
  | join workers after =>
    simp only [Call.step] at take
    split at take
    · cases after <;> cases take <;> exact mem
    · cases take
  | _ => exact absurd mem List.not_mem_nil

end
end

namespace Host

/-! ## Runs in which no stream is opened too soon -/

section
variable {L : Type}

/-- A call opens a stream again of which a worker has not stopped. -/
def hasty (h : Host L) : Deed → Bool
  | .act (.advance i) =>
    match h.threads[i]? with
    | some ⟨_, .openStart stream, _⟩ => !h.endpoint.isOpen stream && h.endpoint.lingers stream
    | _ => false
  | _ => false

/-- Takes steps one after the other, none of which is hasty. -/
def enactPatiently [Datalink L] (h : Host L) (deeds : List Deed) : Option (Host L) :=
  deeds.foldlM (fun h deed => if h.hasty deed then none else h.enact deed) h

/-- The call of a thread has taken a worker out of the table and is about to close its slot. -/
def Closing (h : Host L) (k : Nat) (stream : StreamId) (i : WorkerId) : Prop :=
  ∃ t, h.threads[k]? = some t ∧ t.call = .closeSlot stream i

/-- How an agent and its callers stand if no stream is opened too soon. -/
structure Succession (h : Host L) : Prop where
  sole : ∀ {stream i j}, h.endpoint.OnDuty stream i → h.endpoint.OnDuty stream j → i = j
  served : ∀ {stream i}, h.endpoint.serving.get stream = some i →
    h.endpoint.OnDuty stream i ∧ (h.endpoint.slots.get stream).closed = false
  /-- A worker that is taken out of the table does not stop before its slot is closed. -/
  leaving : ∀ {k stream i}, h.Closing k stream i → h.endpoint.serving.get stream = none ∧
    h.endpoint.OnDuty stream i ∧ (h.endpoint.slots.get stream).closed = false
  once : ∀ {j k stream i i'}, h.Closing j stream i → h.Closing k stream i' → j = k

variable {h h' : Host L} {deed : Deed} {deeds more : List Deed} {stream : StreamId}
  {i : WorkerId} {k : Nat}

theorem Succession.manned (S : h.Succession) (serving : h.endpoint.serving.get stream = some i) :
    h.endpoint.Manned stream i := by
  obtain ⟨duty, roomy⟩ := S.served serving
  refine ⟨serving, roomy, fun j => ⟨fun other => S.sole other duty, ?_⟩⟩
  rintro rfl
  exact duty

theorem Succession.lasting (S : h.Succession) (T : Lasting h.endpoint h'.endpoint)
    (closing : ∀ {k stream i}, h'.Closing k stream i → h.Closing k stream i) : h'.Succession := by
  refine ⟨fun first second => S.sole (T.duty first) (T.duty second), fun serving => ?_,
    fun leaves => ?_, fun first second => S.once (closing first) (closing second)⟩
  · rw [T.serving] at serving
    obtain ⟨duty, roomy⟩ := S.served serving
    exact ⟨T.kept roomy duty, (T.closed _).trans roomy⟩
  · obtain ⟨unserved, duty, roomy⟩ := S.leaving (closing leaves)
    exact ⟨T.serving ▸ unserved, T.kept roomy duty, (T.closed _).trans roomy⟩

/-- A stream is opened that no worker serves any more. -/
theorem Succession.start (S : h.Succession)
    (start : h.endpoint.startWorker stream = .ok h'.endpoint)
    (gone : ∀ i, ¬ h.endpoint.OnDuty stream i)
    (closing : ∀ {k s i}, h'.Closing k s i → h.Closing k s i) : h'.Succession := by
  have duties := fun {s j} => onDuty_startWorker start (s := s) (j := j)
  obtain ⟨-, eq⟩ := startWorker_eq start
  refine ⟨fun first second => ?_, fun {s j} serving => ?_, fun {k s i} leaves => ?_,
    fun first second => S.once (closing first) (closing second)⟩
  · rcases duties.mp first with first | ⟨rfl, rfl⟩
    · rcases duties.mp second with second | ⟨rfl, -⟩
      · exact S.sole first second
      · exact absurd first (gone _)
    · rcases duties.mp second with second | ⟨-, rfl⟩
      · exact absurd second (gone _)
      · rfl
  · rw [eq, StreamTable.get_set] at serving
    split at serving
    · next here =>
      cases serving
      refine ⟨duties.mpr (.inr ⟨here, rfl⟩), ?_⟩
      simp [eq, here, StreamTable.modify, Slot.reopen]
    · next elsewhere =>
      obtain ⟨duty, roomy⟩ := S.served serving
      refine ⟨duties.mpr (.inl duty), ?_⟩
      simpa only [eq, StreamTable.get_modify_of_ne _ elsewhere] using roomy
  · obtain ⟨untaken, duty, roomy⟩ := S.leaving (closing leaves)
    have elsewhere : stream ≠ s := by
      rintro rfl
      exact gone i duty
    refine ⟨?_, duties.mpr (.inl duty), ?_⟩
    · simpa only [eq, StreamTable.get_set_of_ne _ elsewhere] using untaken
    · simpa only [eq, StreamTable.get_modify_of_ne _ elsewhere] using roomy

/-- A call takes the worker of a stream out of the table, and goes on to close its slot. -/
theorem Succession.take (S : h.Succession) (serving : h.endpoint.serving.get stream = some i)
    (eq : h'.endpoint =
      { h.endpoint with serving := h.endpoint.serving.set stream none })
    (closing : ∀ {j s i'}, h'.Closing j s i' →
      h.Closing j s i' ∨ j = k ∧ s = stream ∧ i' = i) : h'.Succession := by
  obtain ⟨duty, roomy⟩ := S.served serving
  -- while another call is about to close the slot, the stream is not in the table
  have untaken : ∀ {j i}, ¬ h.Closing j stream i := by
    intro j i leaves
    cases (S.leaving leaves).1.symm.trans serving
  refine ⟨fun first second => ?_, fun {s j} served => ?_, fun {j s i'} leaves => ?_,
    fun {j j' s i₁ i₂} first second => ?_⟩
  · rw [eq] at first second
    exact S.sole first second
  · rw [eq] at served ⊢
    simp only [StreamTable.get_set] at served
    split at served
    · cases served
    · exact S.served served
  · rw [eq]
    rcases closing leaves with before | ⟨-, rfl, rfl⟩
    · obtain ⟨untaken, duty, roomy⟩ := S.leaving before
      refine ⟨?_, duty, roomy⟩
      simp only [StreamTable.get_set]
      split
      · rfl
      · exact untaken
    · exact ⟨StreamTable.get_set_self _ _ _, duty, roomy⟩
  · rcases closing first with before | ⟨here, rfl, rfl⟩
    · rcases closing second with before' | ⟨-, rfl, -⟩
      · exact S.once before before'
      · exact absurd before untaken
    · rcases closing second with before' | ⟨here', -, -⟩
      · exact absurd before' untaken
      · exact here.trans here'.symm

/-- A call closes the slot of the stream that it has taken out of the table. -/
theorem Succession.close (S : h.Succession) (mine : h.Closing k stream i)
    (eq : h'.endpoint =
      { h.endpoint with slots := h.endpoint.slots.modify stream Slot.close })
    (closing : ∀ {j s i'}, h'.Closing j s i' → h.Closing j s i' ∧ j ≠ k) : h'.Succession := by
  refine ⟨fun first second => ?_, fun {s j} served => ?_, fun {j s i'} leaves => ?_,
    fun first second => S.once (closing first).1 (closing second).1⟩
  · rw [eq] at first second
    exact S.sole first second
  · rw [eq] at served ⊢
    have elsewhere : stream ≠ s := by
      rintro rfl
      cases (S.leaving mine).1.symm.trans served
    obtain ⟨duty, roomy⟩ := S.served served
    exact ⟨duty, by simpa only [StreamTable.get_modify_of_ne _ elsewhere] using roomy⟩
  · obtain ⟨leaves, other⟩ := closing leaves
    have elsewhere : stream ≠ s := by
      rintro rfl
      exact other (S.once leaves mine)
    obtain ⟨untaken, duty, roomy⟩ := S.leaving leaves
    rw [eq]
    exact ⟨untaken, duty, by simpa only [StreamTable.get_modify_of_ne _ elsewhere] using roomy⟩

/-- Of the calls that are about to close a slot, each was so before, or is the one that has gone on
to do so. -/
theorem closing_advanced {endpoint : Agent L} {t u : Thread} {progress : Call.Result}
    (ht : h.threads[k]? = some t) (take : t.take progress = some u) {j : Nat}
    (leaves : Closing { h with endpoint := endpoint, threads := h.threads.set k u } j stream i) :
    h.Closing j stream i ∧ (j = k → ∃ result, progress = .done result) ∨
      j = k ∧ progress = .next (.closeSlot stream i) := by
  obtain ⟨v, hv, call⟩ := leaves
  by_cases same : j = k
  · subst same
    rw [List.getElem?_set_self (lt_length_of_getElem? ht)] at hv
    cases hv
    rcases Thread.take_cases take with ⟨result, rfl, rfl⟩ | ⟨next, rfl, rfl⟩
    · exact .inl ⟨⟨t, ht, call⟩, fun _ => ⟨result, rfl⟩⟩
    · exact .inr ⟨rfl, call ▸ rfl⟩
  · rw [List.getElem?_set_ne (Ne.symm same)] at hv
    exact .inl ⟨⟨v, hv, call⟩, fun e => absurd e same⟩

end

variable {L : Type} [FrameLink L] {h h' : Host L} {deed : Deed} {deeds more : List Deed}
  {stream : StreamId} {i : WorkerId} {k : Nat}

theorem lasting_enact (numbered : ∀ (i : Nat) w, h.endpoint.workers[i]? = some w → w.id = i)
    (ha : h.enact deed = some h') (other : ∀ k, deed ≠ .act (.advance k)) :
    Lasting h.endpoint h'.endpoint := by
  cases enacted ha with
  | event header args => exact h.endpoint.lasting_sendPayload ..
  | announce => exact h.endpoint.lasting_sendPayload ..
  | advance => exact absurd rfl (other _)
  | hear buffer => exact h.endpoint.lasting_receive buffer
  | pass deliver => exact lasting_deliver deliver
  | takeUp worker waits take => exact lasting_takeUp numbered worker waits take
  | @handle _ id stream invocation result worker =>
    cases numbered _ _ worker
    exact lasting_setPhase numbered worker (by simp) rfl (by simp) rfl fun _ => rfl
  | @answer _ id stream payload worker =>
    cases numbered _ _ worker
    obtain ⟨link, outbound, sent, eq⟩ :=
      h.endpoint.answer_eq ⟨id, stream, .answering payload⟩ payload
    rw [eq]
    exact lasting_setPhase numbered worker (by simp) rfl (by simp) rfl fun _ => rfl
  | _ => exact lasting_of_same rfl rfl rfl

theorem Succession.advance (S : h.Succession) (H : h.Halting)
    (patient : h.hasty (.act (.advance k)) = false) (ha : h.advance k = some h')
    (running : h'.endpoint.running = true) : h'.Succession := by
  obtain ⟨t, u, ht, free, take, rfl⟩ := advance_cases ha
  have going : ¬ t.call.Stops := fun stops => by
    have halted : (t.call.step h.endpoint t.caller).1.running = false :=
      Call.halted_step (H.halted t (List.mem_of_getElem? ht) stops)
    cases halted.symm.trans running
  have deal := Call.deal going running
  obtain ⟨caller, call, result⟩ := t
  generalize (call.step h.endpoint caller).1 = b at deal
  generalize (call.step h.endpoint caller).2 = progress at deal take
  cases deal with
  | nothing onward =>
    refine S.lasting (lasting_of_same rfl rfl rfl) fun leaves => ?_
    rcases closing_advanced ht take leaves with ⟨before, -⟩ | ⟨-, next⟩
    · exact before
    · exact absurd next (onward _ _)
  | @starts stream b start =>
    refine S.start start (fun i duty => ?_) fun leaves => ?_
    · have unserved := (startWorker_eq start).1
      have lingers := lingers_iff.mpr ⟨i, duty⟩
      simp [hasty, ht, isOpen, unserved, lingers] at patient
    · rcases closing_advanced ht take leaves with ⟨before, -⟩ | ⟨-, next⟩
      · exact before
      · cases next
  | takes serving =>
    refine S.take (k := k) serving rfl fun leaves => ?_
    rcases closing_advanced ht take leaves with ⟨before, -⟩ | ⟨here, next⟩
    · exact .inl before
    · cases next
      exact .inr ⟨here, rfl, rfl⟩
  | closes =>
    refine S.close ⟨_, ht, rfl⟩ rfl fun leaves => ?_
    rcases closing_advanced ht take leaves with ⟨before, done⟩ | ⟨-, next⟩
    · refine ⟨before, fun here => ?_⟩
      obtain ⟨result, eq⟩ := done here
      cases eq
    · cases next

/-- Calls go on by themselves; apart from that, calls are only made. -/
theorem threads_enact (ha : h.enact deed = some h') (other : ∀ k, deed ≠ .act (.advance k)) :
    ∃ made, h'.threads = h.threads ++ made ∧ ∀ t ∈ made, t.call.taken = [] := by
  cases enacted ha with
  | begin errand caller =>
    refine ⟨_, rfl, fun t mem => ?_⟩
    cases List.mem_singleton.mp mem
    cases errand <;> rfl
  | deinit caller =>
    refine ⟨_, rfl, fun t mem => ?_⟩
    cases List.mem_singleton.mp mem
    rfl
  | advance => exact absurd rfl (other _)
  | _ => exact ⟨[], (List.append_nil _).symm, fun t mem => absurd mem List.not_mem_nil⟩

/-- As long as the agent runs and no stream is opened too soon. -/
theorem Succession.enact (S : h.Succession) (H : h.Halting) (patient : h.hasty deed = false)
    (ha : h.enact deed = some h') (running : h'.endpoint.running = true) : h'.Succession := by
  by_cases calls : ∃ k, deed = .act (.advance k)
  · obtain ⟨k, rfl⟩ := calls
    exact S.advance H patient ha running
  · have other : ∀ k, deed ≠ .act (.advance k) := fun k e => calls ⟨k, e⟩
    obtain ⟨made, threads, fresh⟩ := threads_enact ha other
    refine S.lasting (lasting_enact H.numbered ha other) fun {k stream i} leaves => ?_
    obtain ⟨t, ht, call⟩ := leaves
    rw [threads, List.getElem?_append] at ht
    split at ht
    · exact ⟨t, ht, call⟩
    · have taken := fresh t (List.mem_of_getElem? ht)
      rw [call] at taken
      cases taken

/-- The worker is in the table, or a call has taken it out. -/
def Assigned (h : Host L) (stream : StreamId) (i : WorkerId) : Prop :=
  h.endpoint.serving.get stream = some i ∨ ∃ t ∈ h.threads, i ∈ t.call.taken

/-- Only a call takes a worker out of the table, and it does not put it back. -/
theorem assigned_enact (H : h.Halting) (ha : h.enact deed = some h')
    (A : h.Assigned stream i) : h'.Assigned stream i := by
  by_cases calls : ∃ k, deed = .act (.advance k)
  · obtain ⟨k, rfl⟩ := calls
    obtain ⟨u, v, hu, free, take, rfl⟩ := advance_cases ha
    have here : v ∈ h.threads.set k v := List.mem_set (lt_length_of_getElem? hu) v
    rcases A with serving | ⟨t, mem, taken⟩
    · rcases Thread.served_step free take serving with stays | held
      · exact .inl stays
      · exact .inr ⟨v, here, held.1⟩
    · obtain ⟨j, ht⟩ := List.getElem?_of_mem mem
      by_cases same : k = j
      · subst same
        cases hu.symm.trans ht
        exact .inr ⟨v, here, Thread.taken_step take taken⟩
      · exact .inr ⟨t, List.mem_of_getElem? ((List.getElem?_set_ne same).trans ht), taken⟩
  · have other : ∀ k, deed ≠ .act (.advance k) := fun k e => calls ⟨k, e⟩
    obtain ⟨made, threads, -⟩ := threads_enact ha other
    rcases A with serving | ⟨t, mem, taken⟩
    · exact .inl ((lasting_enact H.numbered ha other).serving ▸ serving)
    · exact .inr ⟨t, threads ▸ List.mem_append_left made mem, taken⟩

/-! ## Runs -/

omit [FrameLink L] in
theorem succession_of_poised {a : Agent L} (P : a.Poised none) : (ofAgent a).Succession := by
  have none_leaves : ∀ {k s i}, ¬ (ofAgent a).Closing k s i := by
    rintro k s i ⟨t, ht, -⟩
    cases ht
  refine ⟨fun {s i j} first second => ?_, fun serving => ?_,
    fun leaves => absurd leaves none_leaves, fun first => absurd first none_leaves⟩
  · obtain ⟨v, hv, rfl, active⟩ := first
    obtain ⟨w, hw, same, active'⟩ := second
    have serves := (P.toStaffed.serving_iff hw active' w.stream).mpr rfl
    rw [same] at serves
    exact Option.some.inj (((P.toStaffed.serving_iff hv active v.stream).mpr rfl).symm.trans serves)
  · exact ⟨P.served _ _ serving, P.roomy _ (isOpen_of_serving serving)⟩

/-- As long as the agent runs and no stream is opened too soon. -/
theorem Succession.onward (S : h.Succession) (H : h.Halting)
    (run : h.enactPatiently deeds = some h') (running : h'.endpoint.running = true) :
    h'.Succession := by
  obtain ⟨kept, -⟩ := foldlM_preserves
    (I := fun m => (m.endpoint.running = true → m.Succession) ∧ m.Halting) (fun K step => by
      obtain ⟨S, H⟩ := K
      obtain ⟨patient, step⟩ := Option.ite_none_left_eq_some.mp step
      exact ⟨fun running => (S (running_enact step running)).enact H (by simpa using patient) step
        running, H.enact step⟩)
    run ⟨fun _ => S, H⟩
  exact kept running

theorem assigned_onward (H : h.Halting) (A : h.Assigned stream i)
    (run : h.enactPatiently deeds = some h') : h'.Halting ∧ h'.Assigned stream i :=
  foldlM_preserves (I := fun m => m.Halting ∧ m.Assigned stream i) (fun K step => by
    obtain ⟨H, A⟩ := K
    obtain ⟨-, step⟩ := Option.ite_none_left_eq_some.mp step
    exact ⟨H.enact step, assigned_enact H step A⟩) run ⟨H, A⟩

omit [FrameLink L] in
/-- A stream that is opened too soon has two workers. -/
theorem crowded_of_hasty [Datalink L] (hasty : h.hasty deed = true) (ha : h.enact deed = some h') :
    ∃ stream i j, i ≠ j ∧ h'.endpoint.OnDuty stream i ∧ h'.endpoint.OnDuty stream j := by
  unfold Host.hasty at hasty
  split at hasty
  · next k =>
    obtain ⟨t, u, ht, -, -, rfl⟩ := advance_cases (show h.advance k = some h' from ha)
    rw [ht] at hasty
    split at hasty
    · next caller stream result eq =>
      cases eq
      obtain ⟨shut, lingers⟩ : h.endpoint.isOpen stream = false ∧
          h.endpoint.lingers stream = true := by simpa using hasty
      obtain ⟨i, duty⟩ := lingers_iff.mp lingers
      have start : ∃ b, h.endpoint.startWorker stream = .ok b := by
        simp [startWorker, shut]
      obtain ⟨b, start⟩ := start
      have eq : ((Call.openStart stream).step h.endpoint caller).1 = b := by
        simp only [Call.step, start]
      have older : i ≠ h.endpoint.workers.length := by
        obtain ⟨w, hw, -⟩ := duty
        exact Nat.ne_of_lt (lt_length_of_getElem? hw)
      rw [eq]
      have duties := fun {s j} => onDuty_startWorker start (s := s) (j := j)
      exact ⟨stream, i, h.endpoint.workers.length, older, duties.mpr (.inl duty),
        duties.mpr (.inr ⟨rfl, rfl⟩)⟩
    · cases hasty
  · cases hasty

/-- An agent from its start, whatever arrives, whatever its owner and its handlers do meanwhile, as
long as it is not shut down and no call opens a stream again of which a worker has not stopped. No
stream has two workers, each open stream has one and a slot that takes commands, and it keeps them
until a call that closes the stream has taken the worker. Should a call then open a stream too soon,
that stream has two workers. -/
theorem one_worker_each {link : L} {config : AgentConfig}
    (run : (ofAgent (Agent.start link config).2).enactPatiently deeds = some h)
    (later : h.enactPatiently more = some h') (running : h'.endpoint.running = true) :
    (∀ stream i j, h'.endpoint.OnDuty stream i → h'.endpoint.OnDuty stream j → i = j) ∧
    (∀ stream, h'.endpoint.isOpen stream = true → ∃ i, h'.endpoint.Manned stream i) ∧
    (∀ stream i, h.endpoint.serving.get stream = some i → (∀ t ∈ h'.threads, i ∉ t.call.taken) →
      h'.endpoint.Manned stream i) ∧
    ∀ deed m, h'.hasty deed = true → h'.enact deed = some m →
      ∃ stream i j, i ≠ j ∧ m.endpoint.OnDuty stream i ∧ m.endpoint.OnDuty stream j := by
  have prepared : Prepared link config (Agent.start link config).2 := .start
  have poised := prepared.poised.2
  have began := (custody_of_poised poised).toHalting
  have whole : (ofAgent (Agent.start link config).2).enactPatiently (deeds ++ more) = some h' := by
    rw [enactPatiently, List.foldlM_append]
    exact Option.bind_eq_some_iff.mpr ⟨h, run, later⟩
  have S := (succession_of_poised poised).onward began whole running
  refine ⟨fun stream i j => S.sole, fun stream opened => ?_, fun stream i serving untaken => ?_,
    fun deed m => crowded_of_hasty⟩
  · obtain ⟨i, serving⟩ := isOpen_iff.mp opened
    exact ⟨i, S.manned serving⟩
  · have H : h.Halting := foldlM_preserves (fun H step =>
      Halting.enact H (Option.ite_none_left_eq_some.mp step).2) run began
    rcases (assigned_onward H (.inl serving) later).2 with stays | ⟨t, mem, taken⟩
    · exact S.manned stays
    · exact absurd taken (untaken t mem)

/-- A stream is opened, and a command is taken up on it. -/
def attended : List Deed :=
  [.act (.begin .openStream none), .act (.advance 0), .act (.advance 0),
    .hear (commandFor second .first), .act .pass, .act (.takeUp 1)]

/-- The stream is closed. Once its worker has stopped, the stream is opened again. -/
def succeeded : List Deed :=
  [.act (.begin (.closeStream second) (some 0)), .act (.advance 1), .act (.advance 1),
    .act (.handle 1 (.ok [])), .act (.answer 1), .act (.takeUp 1), .act (.advance 1),
    .act (.begin .openStream none), .act (.advance 2), .act (.advance 2)]

theorem one_worker_each_succeeded :
    ∃ h h' : Host PacketLink, onSerial.enactPatiently (attended ++ succeeded) = some h ∧
      h.enactPatiently [.hear (commandFor second SeqNum.first.next), .act .pass, .act (.takeUp 2),
        .act (.begin (.closeStream second) none)] = some h' ∧
      h'.endpoint.workers.map Worker.phase =
        [.waiting, .stopped, .handling ⟨second, ⟨5, 1, 0⟩, []⟩] ∧
      h'.endpoint.Manned second 2 := by
  obtain ⟨h, run, h', later, running, phases, serving, threads⟩ : ∃ h : Host PacketLink,
      onSerial.enactPatiently (attended ++ succeeded) = some h ∧
      ∃ h', h.enactPatiently [.hear (commandFor second SeqNum.first.next), .act .pass,
        .act (.takeUp 2), .act (.begin (.closeStream second) none)] = some h' ∧
      h'.endpoint.running = true ∧
      h'.endpoint.workers.map Worker.phase =
        [.waiting, .stopped, .handling ⟨second, ⟨5, 1, 0⟩, []⟩] ∧
      h.endpoint.serving.get second = some 2 ∧
      h'.threads.map (·.call) = [.openStart second, .join [1] .finish, .openStart second,
        .closeTake second] := ⟨_, rfl, _, rfl, rfl, rfl, rfl, rfl⟩
  have untaken : ∀ t ∈ h'.threads, 2 ∉ t.call.taken := by
    intro t mem
    have call : t.call ∈ h'.threads.map (·.call) := List.mem_map_of_mem mem
    rw [threads] at call
    simp only [List.mem_cons, List.not_mem_nil, or_false] at call
    rcases call with e | e | e | e <;> simp [e, Call.taken]
  have manned := (one_worker_each run later running).2.2.1 second 2 serving untaken
  exact ⟨h, h', run, later, phases, manned⟩

/-- The stream is closed, and is opened again while its worker is at work. Another command comes,
and the worker takes it up. -/
def crowded : List Deed :=
  [.act (.begin (.closeStream second) none), .act (.advance 1), .act (.advance 1),
    .act (.begin .openStream none), .act (.advance 2), .act (.advance 2),
    .act (.handle 1 (.ok [])), .act (.answer 1),
    .hear (commandFor second SeqNum.first.next), .act .pass, .act (.takeUp 1)]

/-- The stream is opened again before the call that closes it gets as far as to close the slot. -/
def cutOff : List Deed :=
  [.act (.handle 1 (.ok [])), .act (.answer 1),
    .act (.begin (.closeStream second) none), .act (.advance 1),
    .act (.begin .openStream none), .act (.advance 2), .act (.advance 2),
    .act (.advance 1), .act (.takeUp 1), .act (.takeUp 2), .act (.advance 1)]

/-- Two workers of one stream, each of which takes commands from its slot; and an open stream
without a worker, whose slot takes no commands. -/
theorem workers_crowd :
    (∃ h : Host PacketLink, onSerial.enactAll (attended ++ crowded) = some h ∧
      h.endpoint.running = true ∧ h.endpoint.isOpen second = true ∧
      h.endpoint.workers.map Worker.phase =
        [.waiting, .handling ⟨second, ⟨5, 1, 0⟩, []⟩, .waiting] ∧
      h.endpoint.OnDuty second 1 ∧ h.endpoint.OnDuty second 2) ∧
    ∃ h : Host PacketLink, onSerial.enactAll (attended ++ cutOff) = some h ∧
      h.endpoint.running = true ∧
      h.threads.map Thread.result =
        [some (.ok (.opened second)), some (.ok .done), some (.ok (.opened second))] ∧
      h.endpoint.isOpen second = true ∧ (h.endpoint.slots.get second).closed = true ∧
      ∀ i, ¬ h.endpoint.OnDuty second i := by
  constructor
  · exact ⟨_, rfl, rfl, rfl, rfl, ⟨_, rfl, rfl, nofun⟩, _, rfl, rfl, nofun⟩
  · obtain ⟨h, run, running, results, opened, closed, gone⟩ : ∃ h : Host PacketLink,
        onSerial.enactAll (attended ++ cutOff) = some h ∧ h.endpoint.running = true ∧
        h.threads.map Thread.result =
          [some (.ok (.opened second)), some (.ok .done), some (.ok (.opened second))] ∧
        h.endpoint.isOpen second = true ∧ (h.endpoint.slots.get second).closed = true ∧
        h.endpoint.lingers second = false := ⟨_, rfl, rfl, rfl, rfl, rfl, rfl⟩
    refine ⟨h, run, running, results, opened, closed, fun i duty => ?_⟩
    exact nomatch gone.symm.trans (lingers_iff.mpr ⟨i, duty⟩)

/-- The slot is full, another command waits for room in it, and the stream is closed. -/
def closedOver : List Deed :=
  [.hear (commandFor second SeqNum.first.next), .act .pass,
    .hear (commandFor second SeqNum.first.next.next),
    .act (.begin (.closeStream second) none), .act (.advance 1), .act (.advance 1)]

/-- The worker stops and the stream is opened again, and only then does the receive path look. -/
def overslept : List Deed :=
  [.act (.handle 1 (.ok [])), .act (.answer 1), .act (.takeUp 1), .act (.advance 1),
    .act (.begin .openStream none), .act (.advance 2), .act (.advance 2),
    .act .pass, .act (.takeUp 2)]

/-- No call is hasty here, and yet a command that waits when its stream is closed is executed after
the stream is opened again. -/
theorem command_outlives_closing :
    ∃ h h' : Host PacketLink, onSerial.enactPatiently (attended ++ closedOver) = some h ∧
      h.enactPatiently overslept = some h' ∧
      h.endpoint.receiving.isSome = true ∧ (h.endpoint.slots.get second).closed = true ∧
      h'.endpoint.receiving = none ∧
      h'.threads.map Thread.result =
        [some (.ok (.opened second)), some (.ok .done), some (.ok (.opened second))] ∧
      h'.endpoint.workers.map Worker.phase =
        [.waiting, .stopped, .handling ⟨second, ⟨5, 1, 0⟩, []⟩] :=
  ⟨_, _, rfl, rfl, rfl, rfl, rfl, rfl, rfl⟩

end Host
end Agent
end CommandLink
