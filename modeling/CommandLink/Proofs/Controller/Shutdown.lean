import CommandLink.Proofs.Controller.Progress
import CommandLink.Proofs.Controller.Readiness
import CommandLink.Proofs.Controller.SyncAnswers

/-! # A controller that is shut down

A shutdown closes the slots and stops the link, and neither is ever undone (`Controller.Stopped`).
From then on no command and no request to reset gets as far as a buffer. A call that waits, or has
yet to see whether the controller runs (`Call.Looks`), comes to the shutdown and to nothing else,
except that a wait for the agent's start looks at the handshake first. All calls return, and no
frame leaves unless a sync had one in hand and the link still takes it (`Site.deinit_final`). To
open a stream is not refused, and a wait for an agent that is ready succeeds
(`Site.deinit_overlooked`). -/

namespace CommandLink

namespace Controller

variable {L : Type}

structure Stopped (c : Controller L) : Prop where
  running : c.running = false
  slots : ∀ stream, (c.slots.get stream).Shut
  syncSlot : c.syncSlot.Shut

/-- What a step leaves as it is in a controller that does not run. -/
structure Still (c c' : Controller L) : Prop where
  running : c'.running = c.running
  link : c'.link = c.link
  slots : ∀ stream, (c.slots.get stream).Shut → (c'.slots.get stream).Shut
  syncSlot : c.syncSlot.Shut → c'.syncSlot.Shut
  ready : c.handshake.state = .ready → c'.handshake.state = .ready

theorem Still.refl (c : Controller L) : Still c c := ⟨rfl, rfl, fun _ => id, id, id⟩

theorem Still.stopped {c c' : Controller L} (still : Still c c') (S : c.Stopped) : c'.Stopped where
  running := still.running.trans S.running
  slots stream := still.slots stream (S.slots stream)
  syncSlot := still.syncSlot S.syncSlot

theorem releaseError_closed {c : Controller L} (halted : c.running = false) (stream : StreamId) :
    c.releaseError stream .closed = .shutdown := by
  simp [releaseError, halted]

theorem still_cancel (c : Controller L) (stream : StreamId) : Still c (c.cancel stream) where
  running := rfl
  link := rfl
  slots _ := StreamTable.get_modify_preserves (P := Slot.Shut) fun _ => Slot.Shut.cancel
  syncSlot := id
  ready := id

theorem still_discard (c : Controller L) (stream : StreamId) : Still c (c.discard stream) where
  running := rfl
  link := rfl
  slots _ := StreamTable.get_modify_preserves (P := Slot.Shut) fun _ => Slot.Shut.clear
  syncSlot := id
  ready := id

theorem still_openStream {c c' : Controller L} {stream : StreamId}
    (h : c.openStream stream = .ok c') : Still c c' := by
  unfold openStream at h
  split at h
  · cases h
  · cases h
    exact ⟨rfl, rfl, fun _ => id, id, id⟩

/-- A response that arrives too late is dropped. -/
theorem Stopped.deliver {c c' : Controller L} (S : c.Stopped) (h : c.deliver = some c') :
    Still c c' := by
  unfold Controller.deliver at h
  split at h
  · cases h
  · next response _ =>
    rw [(S.slots response.stream).push] at h
    cases h
    exact ⟨rfl, rfl, fun _ => id, id, id⟩

section
variable [Datalink L]

theorem stopped_deinit {c : Controller L} (halted : c.running = false → c.Stopped) :
    c.deinit.Stopped := by
  unfold deinit
  split
  · exact ⟨rfl, fun stream => by rw [StreamTable.get_map]; exact Slot.shut_close _,
      Slot.shut_close _⟩
  · next h => exact halted (by simpa using h)

/-- The shutdown of a controller whose slots have not been in use. -/
theorem deinit_of_fill {c : Controller L} (running : c.running = true) {slot : Slot Octets}
    (slots : c.slots = .fill slot) :
    c.deinit = { c with
      running := false
      slots := .fill slot.close
      syncSlot := c.syncSlot.close
      link := Datalink.stop c.link } := by
  simp only [Controller.deinit, running, if_true, slots, StreamTable.map_fill]

theorem Stopped.deinit {c : Controller L} (S : c.Stopped) : c.deinit = c := by
  simp [Controller.deinit, S.running]

/-! ## Nothing is sent -/

theorem reserve_of_halted {c : Controller L} (halted : c.running = false) (size : Nat) :
    c.reserve size = .error .shutdown := by
  simp [reserve, halted]

theorem send_of_halted {c : Controller L} (halted : c.running = false) (command : Command) :
    c.send command = (.error .shutdown, c) := by
  simp [send, reserve_of_halted halted]

theorem resetAgent_of_halted {c : Controller L} (halted : c.running = false) :
    c.resetAgent = (.error .shutdown, c) := by
  simp [resetAgent, reserve_of_halted halted]

/-- The callback of a start cannot send. -/
theorem still_agentStarted {c : Controller L} (halted : c.running = false) :
    Still c c.agentStarted := by
  unfold agentStarted
  simp only
  split
  · exact ⟨rfl, rfl, fun _ => id, id, fun _ => rfl⟩
  · split
    · exact ⟨rfl, rfl, fun _ => id, id, fun _ => rfl⟩
    · rw [send_of_halted (by exact halted)]
      exact ⟨rfl, rfl, fun _ => id, id, fun _ => rfl⟩

omit [Datalink L] in
theorem still_dispatchEvent (c : Controller L) (stream : StreamId) (payload : Octets) :
    Still c (c.dispatchEvent stream payload) := by
  obtain ⟨told, h⟩ := c.dispatchEvent_eq stream payload
  rw [h]
  exact ⟨rfl, rfl, fun _ => id, id, id⟩

omit [Datalink L] in
theorem Stopped.acceptSync {c : Controller L} (S : c.Stopped) (payload : Octets) :
    c.acceptSync payload = c := by
  unfold Controller.acceptSync
  (repeat' split) <;> first | rfl | next offered => rw [S.syncSlot.offer] at offered; cases offered

theorem Stopped.dispatch {c : Controller L} (S : c.Stopped) (kind : Option FrameKind)
    (stream : StreamId) (payload : Octets) : Still c (c.dispatch kind stream payload) := by
  unfold Controller.dispatch
  split
  · exact c.still_dispatchEvent stream payload
  · exact still_agentStarted S.running
  · rw [S.acceptSync]
    exact .refl c
  · exact .refl c

theorem Stopped.receive {c : Controller L} (S : c.Stopped) (buffer : Option Octets) :
    Still c (c.receive buffer) := by
  cases buffer with
  | none => exact ⟨rfl, rfl, fun _ => id, id, id⟩
  | some octets =>
    have counted : ({ c with stats := c.stats.countReceived } : Controller L).Stopped :=
      ⟨S.running, S.slots, S.syncSlot⟩
    simp only [Controller.receive]
    cases Incoming.ofOctets octets with
    | frame header stream payload =>
      simp only [accept]
      split
      · exact ⟨rfl, rfl, fun _ => id, id, id⟩
      · split
        · exact ⟨rfl, rfl, fun _ => id, id, id⟩
        · obtain ⟨running, link, slots, syncSlot, ready⟩ :=
            counted.dispatch (FrameKind.ofCode? header.kind) stream payload
          exact ⟨running, link, slots, syncSlot, ready⟩
    | _ => exact ⟨rfl, rfl, fun _ => id, id, id⟩

end

/-! ## What becomes of calls -/

/-- The call waits, or has yet to see whether the controller runs. -/
def Call.Looks : Call → Prop
  | .syncClear _ | .syncPublish _ | .syncTransmit _ | .syncWithdraw _ => False
  | _ => True

/-- The call has a sync request in hand that it has not sent. -/
def Call.Loaded : Call → Prop
  | .syncClear _ | .syncPublish _ | .syncTransmit _ => True
  | _ => False

theorem Call.unloaded_of_expire {call next : Call} {limit : Duration}
    (h : call.expire limit = .next next) : ¬ next.Loaded := by
  cases call <;> cases h
  exact id

/-- How a call stands that has met the shutdown, or is about to. -/
inductive Ending (c : Controller L) (t : Thread) : Prop
  | underway (free : t.result = none) (looks : t.call.Looks)
  | withdraws (free : t.result = none) (call : t.call = .syncWithdraw (.error .shutdown))
  | refused (result : t.result = some (.error .shutdown))
  /-- The wait for the agent's start has found it ready. -/
  | found (result : t.result = some (.ok .agentReady))
      (call : ∃ timeout, t.call = .awaitAgent timeout) (ready : c.handshake.state = .ready)

theorem Ending.mono {c c' : Controller L} {t : Thread} (F : Ending c t)
    (stays : c.handshake.state = .ready → c'.handshake.state = .ready) : Ending c' t := by
  cases F with
  | underway free looks => exact .underway free looks
  | withdraws free call => exact .withdraws free call
  | refused result => exact .refused result
  | found result call ready => exact .found result call (stays ready)

section
variable [Datalink L] {c : Controller L}

/-- What a step comes to of a call that meets the shutdown. -/
theorem Ending.step (S : c.Stopped) {t u : Thread} (F : Ending c t) (free : t.result = none)
    (take : t.take (t.call.step c).2 = some u) : Ending (t.call.step c).1 u := by
  obtain ⟨errand, call, result⟩ := t
  cases free
  cases F with
  | underway _ looks =>
    cases call with
    | listen wait =>
      simp only [Call.step, (S.slots wait.stream).pop, releaseError_closed S.running] at take
      cases take
      exact .refused rfl
    | discard command timeout =>
      cases take
      exact .underway rfl trivial
    | transmit command timeout =>
      simp only [Call.step, send_of_halted S.running] at take
      cases take
      exact .refused rfl
    | awaitAgent timeout =>
      by_cases ready : c.handshake.state = .ready
      · simp only [Call.step, if_pos ready] at take ⊢
        cases take
        exact .found rfl ⟨timeout, rfl⟩ ready
      · simp only [Call.step, if_neg ready, S.running] at take
        cases take
        exact .refused rfl
    | syncBegin timeout =>
      simp only [Call.step] at take
      split at take <;> cases take
      exact .underway rfl trivial
    | syncPrepare timeout =>
      simp only [Call.step, S.running] at take
      cases take
      exact .refused rfl
    | syncListen timeout seen =>
      simp only [Call.step, S.syncSlot.pop, releaseError_closed S.running] at take
      cases take
      exact .withdraws rfl rfl
    | _ => exact looks.elim
  | withdraws _ call =>
    cases call
    cases take
    exact .refused rfl
  | refused result => cases result
  | found result => cases result

/-- The only thing left to wait for is that another sync ends. -/
theorem Stopped.blocked (S : c.Stopped) {call : Call} (blocked : (call.step c).2 = .blocked) :
    (∃ timeout, call = .syncBegin timeout) ∧ c.syncing = true := by
  cases call with
  | listen wait => simp [Call.step, (S.slots wait.stream).pop] at blocked
  | awaitAgent timeout =>
    simp only [Call.step, S.running] at blocked
    split at blocked <;> cases blocked
  | syncBegin timeout =>
    simp only [Call.step] at blocked
    split at blocked
    · next busy => exact ⟨⟨timeout, rfl⟩, busy⟩
    · cases blocked
  | syncListen timeout seen => simp [Call.step, S.syncSlot.pop] at blocked
  | _ =>
    simp only [Call.step] at blocked
    (repeat' split at blocked) <;> cases blocked

theorem sendFrame_of_deaf (deaf : Datalink.Deaf c.link) (kind : FrameKind) (seq : SeqNum)
    (stream : StreamId) (b : Buffer) : (c.sendFrame kind seq stream b).2 = c := by
  unfold sendFrame
  split
  · rfl
  · split
    · rfl
    · next frame _ =>
      obtain ⟨e, refused⟩ := deaf frame
      rw [refused]

theorem sendSync_of_deaf (deaf : Datalink.Deaf c.link) (b : Buffer) :
    (c.sendSync b).2.link = c.link := by
  rw [sendSync, sendFrame_of_deaf]
  exact deaf

end

section
variable [FrameLink L] {c : Controller L}

/-- Whatever a call does, it leaves all but the link as a shutdown has made it. -/
theorem Stopped.step (S : c.Stopped) (call : Call) :
    Still c { (call.step c).1 with link := c.link } := by
  cases call with
  | listen wait =>
    simp only [Call.step, (S.slots wait.stream).pop]
    exact .refl c
  | discard command timeout => exact still_discard c command.stream
  | transmit command timeout =>
    simp only [Call.step, send_of_halted S.running]
    exact .refl c
  | syncPrepare timeout =>
    simp only [Call.step]
    (repeat' split) <;> exact ⟨rfl, rfl, fun _ => id, id, id⟩
  | syncClear attempt => exact ⟨rfl, rfl, fun _ => id, Slot.Shut.clear, id⟩
  | syncTransmit attempt =>
    obtain ⟨link, outbound, sent, h⟩ := c.sendSync_eq attempt.payload
    rw [Call.step_syncTransmit, h]
    exact ⟨rfl, rfl, fun _ => id, id, id⟩
  | syncListen timeout seen =>
    simp only [Call.step, S.syncSlot.pop]
    exact .refl c
  | _ =>
    simp only [Call.step]
    (repeat' split) <;> exact ⟨rfl, rfl, fun _ => id, id, id⟩

/-- The link is left alone, unless a sync request is in hand and the link still takes it. -/
theorem Stopped.link_step (S : c.Stopped) {call : Call}
    (calm : ¬ call.Loaded ∨ Datalink.Deaf c.link) : (call.step c).1.link = c.link := by
  cases call with
  | transmit command timeout => simp only [Call.step, send_of_halted S.running]
  | syncTransmit attempt =>
    rw [Call.step_syncTransmit]
    exact sendSync_of_deaf (calm.resolve_left fun h => h trivial) attempt.payload
  | listen | awaitAgent | syncBegin | syncPrepare | syncListen =>
    simp only [Call.step]
    (repeat' split) <;> rfl
  | _ => rfl

/-- No call gets a sync request into its hands any more. -/
theorem Stopped.loaded_step (S : c.Stopped) {call next : Call} (h : (call.step c).2 = .next next)
    (loaded : next.Loaded) : call.Loaded := by
  cases call with
  | syncClear | syncPublish | syncTransmit => trivial
  | syncPrepare timeout => simp [Call.step, S.running] at h
  | _ =>
    simp only [Call.step] at h
    (repeat' split at h) <;> cases h <;> exact loaded.elim

/-! ## Syncs hold each other up -/

/-- A call that ends its step in a sync, or leaves no sync behind it, or has to do with none. -/
theorem Call.syncing_step (c : Controller L) (call : Call) :
    (∃ next, (call.step c).2 = .next next ∧ next.Syncs) ∨ (call.step c).1.syncing = false ∨
      (call.step c).2 = .blocked ∨ ¬ call.Syncs ∧ (call.step c).1.syncing = c.syncing := by
  cases call with
  | syncBegin timeout =>
    simp only [step]
    split
    · exact .inr (.inr (.inl rfl))
    · exact .inl ⟨_, rfl, trivial⟩
  | syncPrepare timeout =>
    simp only [step]
    (repeat' split)
    · exact .inl ⟨_, rfl, trivial⟩
    · exact .inr (.inl rfl)
    · exact .inr (.inl rfl)
  | syncClear attempt => exact .inl ⟨_, rfl, trivial⟩
  | syncPublish attempt => exact .inl ⟨_, rfl, trivial⟩
  | syncTransmit attempt =>
    simp only [step]
    split <;> exact .inl ⟨_, rfl, trivial⟩
  | syncListen timeout seen =>
    simp only [step]
    (repeat' split)
    · exact .inl ⟨_, rfl, trivial⟩
    · exact .inl ⟨_, rfl, trivial⟩
    · exact .inr (.inr (.inl rfl))
    · exact .inl ⟨_, rfl, trivial⟩
  | syncWithdraw result => exact .inr (.inl rfl)
  | transmit command timeout =>
    rw [step_transmit]
    exact .inr (.inr (.inr ⟨id, congrArg Desk.syncing (c.desk_send command)⟩))
  | listen | discard | awaitAgent =>
    refine .inr (.inr (.inr ⟨id, ?_⟩))
    simp only [step]
    (repeat' split) <;> rfl

namespace Host

/-- As long as a sync keeps others from beginning, it is under way. -/
def Attended (h : Host L) : Prop := h.endpoint.syncing = true → ∃ i, h.At Thread.Syncs i

variable {h h' : Host L} {incoming : List Octets} {action : Action} {i : Nat}

omit [FrameLink L] in
theorem Attended.same (A : h.Attended) (threads : h'.threads = h.threads)
    (syncing : h'.endpoint.syncing = h.endpoint.syncing) : h'.Attended := by
  intro busy
  obtain ⟨i, t, ht, syncs⟩ := A (syncing ▸ busy)
  exact ⟨i, t, threads ▸ ht, syncs⟩

omit [FrameLink L] in
theorem At.ne {P : Thread → Prop} {j : Nat} {t : Thread} (hj : h.At P j)
    (ht : h.threads[i]? = some t) (other : ¬ P t) : j ≠ i := by
  rintro rfl
  obtain ⟨t', ht', hP⟩ := hj
  rw [ht] at ht'
  cases ht'
  exact other hP

theorem Attended.advance (A : h.Attended) (ha : h.act incoming (.advance i) = some h') :
    h'.Attended := by
  obtain ⟨t, u, ht, free, take, rfl⟩ := act_advance ha
  intro busy
  rcases t.call.syncing_step h.endpoint with ⟨next, on, syncs⟩ | left | blocked | ⟨other, same⟩
  · rw [on] at take
    cases take
    exact ⟨i, _, List.getElem?_set_self (lt_length_of_getElem? ht), free, syncs⟩
  · exact absurd (left.symm.trans busy) (by decide)
  · rw [blocked] at take
    cases take
  · obtain ⟨j, hj⟩ := A (same.symm.trans busy)
    have apart := hj.ne ht fun syncs => other syncs.2
    exact ⟨j, (at_set ht rfl).mpr (.inr ⟨apart, hj⟩)⟩

omit [FrameLink L] in
theorem Attended.expire (A : h.Attended) [Datalink L]
    (ha : h.act incoming (.expire i) = some h') : h'.Attended := by
  obtain ⟨t, limit, u, ht, free, -, take, rfl⟩ := act_expire ha
  intro busy
  obtain ⟨j, hj⟩ := A busy
  rcases Thread.take_cases take with ⟨result, done, rfl⟩ | ⟨next, onward, rfl⟩
  · have apart := hj.ne ht fun syncs => Call.not_syncs_of_expire done syncs.2
    exact ⟨j, (at_set ht rfl).mpr (.inr ⟨apart, hj⟩)⟩
  · have inside := (Call.awaits_of_expire onward).2.syncs
    exact ⟨i, _, List.getElem?_set_self (lt_length_of_getElem? ht), free, inside⟩

theorem Attended.act (A : h.Attended) (ha : h.act incoming action = some h') : h'.Attended := by
  cases action with
  | advance i => exact A.advance ha
  | expire i => exact A.expire ha
  | begin errand =>
    cases ha
    intro busy
    obtain ⟨i, t, ht, syncs⟩ := A busy
    exact ⟨i, t, getElem?_append_of_some ht _, syncs⟩
  | _ =>
    have S := act_serves ha fun i e => by cases e
    cases act_shift ha with
    | move cause => rcases cause with e | ⟨e, -⟩ <;> cases e
    | none threads => exact A.same threads S.syncing

omit [FrameLink L] in
theorem blocked_of_stuck [Datalink L] {t : Thread} (ht : h.threads[i]? = some t)
    (free : t.result = none) (stuck : h.advance i = none) :
    (t.call.step h.endpoint).2 = .blocked := by
  simp only [Host.advance, ht, free, Option.isSome_none, Bool.false_eq_true, if_false,
    Option.map_eq_none_iff] at stuck
  cases hp : (t.call.step h.endpoint).2 with
  | blocked => rfl
  | _ =>
    rw [hp] at stuck
    cases stuck

/-- Where no call goes on although the controller is shut down, every call has returned. -/
theorem Attended.rest (A : h.Attended) (S : h.endpoint.Stopped) (quiet : ∀ i, h.advance i = none) :
    ∀ t ∈ h.threads, t.result.isSome := by
  intro t mem
  by_contra unreturned
  have free : t.result = none := by simpa using unreturned
  obtain ⟨i, ht⟩ := List.getElem?_of_mem mem
  obtain ⟨-, busy⟩ := S.blocked (blocked_of_stuck ht free (quiet i))
  obtain ⟨j, t', ht', free', syncs⟩ := A busy
  obtain ⟨⟨timeout, begins⟩, -⟩ := S.blocked (blocked_of_stuck ht' free' (quiet j))
  rw [begins] at syncs
  exact syncs

/-! ## From the shutdown on -/

/-- No call has a sync request in hand, or the link takes none. -/
def Calm (h : Host L) : Prop :=
  (∀ t ∈ h.threads, t.result = none → ¬ t.call.Loaded) ∨ Datalink.Deaf h.endpoint.link

/-- A step leaves the link alone and puts no sync request into a caller's hands. -/
structure Hushed (h h' : Host L) : Prop where
  link : h'.endpoint.link = h.endpoint.link
  loaded : ∀ t' ∈ h'.threads, t'.result = none → t'.call.Loaded →
    ∃ t ∈ h.threads, t.result = none ∧ t.call.Loaded

theorem Hushed.calm (H : Hushed h h') (calm : h.Calm) : h'.Calm := by
  rcases calm with empty | deaf
  · refine .inl fun t' mem free loaded => ?_
    obtain ⟨t, mem, free, loaded⟩ := H.loaded t' mem free loaded
    exact empty t mem free loaded
  · exact .inr (H.link ▸ deaf)

theorem still_aside (S : h.endpoint.Stopped) (ha : h.act incoming action = some h')
    (aside : ∀ i, action ≠ .advance i) : Still h.endpoint h'.endpoint := by
  cases action with
  | advance i => exact absurd rfl (aside i)
  | send command =>
    simp only [act, send_of_halted S.running] at ha
    cases ha
    exact .refl _
  | reset =>
    simp only [act, resetAgent_of_halted S.running] at ha
    cases ha
    exact .refl _
  | expire i =>
    obtain ⟨t, limit, u, -, -, -, -, rfl⟩ := act_expire ha
    exact .refl _
  | cancel stream =>
    cases ha
    exact still_cancel _ stream
  | discard stream =>
    cases ha
    exact still_discard _ stream
  | hear =>
    obtain ⟨octets, -, -, rfl⟩ := act_hear ha
    exact S.receive (some octets)
  | pass =>
    obtain ⟨c, delivered, rfl⟩ := Option.map_eq_some_iff.mp ha
    exact S.deliver delivered
  | _ =>
    cases ha
    exact ⟨rfl, rfl, fun _ => id, id, id⟩

/-- Whatever is done with a controller that is shut down, it stays so. -/
theorem still_act (S : h.endpoint.Stopped) (ha : h.act incoming action = some h') :
    Still h.endpoint { h'.endpoint with link := h.endpoint.link } := by
  by_cases advances : ∃ i, action = .advance i
  · obtain ⟨i, rfl⟩ := advances
    obtain ⟨t, u, -, -, -, rfl⟩ := act_advance ha
    exact S.step t.call
  · obtain ⟨running, -, slots, syncSlot, ready⟩ :=
      still_aside S ha fun i e => advances ⟨i, e⟩
    exact ⟨running, rfl, slots, syncSlot, ready⟩

theorem hushed_advance (S : h.endpoint.Stopped) (calm : h.Calm)
    (ha : h.act incoming (.advance i) = some h') : Hushed h h' := by
  obtain ⟨t, u, ht, free, take, rfl⟩ := act_advance ha
  have mem := List.mem_of_getElem? ht
  constructor
  · apply S.link_step
    exact calm.imp_left fun empty => empty t mem free
  · intro t' mem' free' loaded
    rcases List.mem_or_eq_of_mem_set mem' with mem' | rfl
    · exact ⟨t', mem', free', loaded⟩
    · refine ⟨t, mem, free, ?_⟩
      rcases Thread.take_cases take with ⟨result, -, rfl⟩ | ⟨next, onward, rfl⟩
      · cases free'
      · exact S.loaded_step onward loaded

theorem hushed_act (S : h.endpoint.Stopped) (calm : h.Calm)
    (ha : h.act incoming action = some h') : Hushed h h' := by
  cases action with
  | advance i => exact hushed_advance S calm ha
  | expire i =>
    obtain ⟨t, limit, u, ht, free, -, take, rfl⟩ := act_expire ha
    refine ⟨rfl, fun t' mem free' loaded => ?_⟩
    rcases List.mem_or_eq_of_mem_set mem with mem | rfl
    · exact ⟨t', mem, free', loaded⟩
    · rcases Thread.take_cases take with ⟨result, -, rfl⟩ | ⟨next, onward, rfl⟩
      · cases free'
      · exact absurd loaded (Call.unloaded_of_expire onward)
  | begin errand =>
    refine ⟨(still_aside S ha nofun).link, fun t' mem free loaded => ?_⟩
    cases ha
    rcases mem_or_eq_of_mem_concat mem with mem | rfl
    · exact ⟨t', mem, free, loaded⟩
    · cases errand <;> exact loaded.elim
  | _ =>
    refine ⟨(still_aside S ha nofun).link, fun t' mem free loaded => ?_⟩
    cases act_shift ha with
    | move cause => rcases cause with e | ⟨e, -⟩ <;> cases e
    | none threads => exact ⟨t', threads ▸ mem, free, loaded⟩

end Host

/-- What becomes of the call of a thread, when time runs out only where a call would wait on. -/
theorem Host.ending_act {h h' : Host L} {incoming : List Octets} {action : Action}
    (S : h.endpoint.Stopped) (timely : ∀ i, action = .expire i → h.advance i = none)
    (ha : h.act incoming action = some h') {i : Nat} {u : Thread} (hu : h'.threads[i]? = some u)
    (before : ∀ t, h.threads[i]? = some t → Ending h.endpoint t) : Ending h'.endpoint u := by
  have ready := (still_act S ha).ready
  have unmoved : h'.threads = h.threads → Ending h'.endpoint u := fun threads =>
    (before u (threads ▸ hu)).mono ready
  cases action with
  | advance j =>
    obtain ⟨t, u', ht, free, take, rfl⟩ := act_advance ha
    by_cases same : j = i
    · subst same
      rw [List.getElem?_set_self (lt_length_of_getElem? ht)] at hu
      cases hu
      exact (before t ht).step S free take
    · rw [List.getElem?_set_ne same] at hu
      exact (before u hu).mono ready
  | expire j =>
    obtain ⟨t, limit, u', ht, free, hl, -, rfl⟩ := act_expire ha
    obtain ⟨⟨timeout, begins⟩, -⟩ := S.blocked (blocked_of_stuck ht free (timely j rfl))
    rw [begins] at hl
    cases hl
  | begin errand =>
    cases ha
    rcases getElem?_concat_cases hu with hu | ⟨-, rfl⟩
    · exact (before u hu).mono ready
    · exact .underway rfl (by cases errand <;> trivial)
  | _ =>
    cases act_shift ha with
    | move cause => rcases cause with e | ⟨e, -⟩ <;> cases e
    | none threads => exact unmoved threads

/-- How a controller and its callers stand that was shut down when they stood as `t`. -/
structure Closing (t u : Host L) : Prop where
  stopped : u.endpoint.Stopped
  attended : u.Attended
  endings : ∀ (i : Nat) (thread : Thread), u.threads[i]? = some thread →
    (∀ before, t.threads[i]? = some before → before.result = none ∧ before.call.Looks) →
    Ending u.endpoint thread
  calm : t.Calm → u.Calm
  link : t.Calm → u.endpoint.link = t.endpoint.link

/-- Each step of a call brings it closer to its return. -/
theorem Host.effort_advance {h h' : Host L} {i : Nat} (ha : h.advance i = some h') :
    total Thread.effort h'.threads < total Thread.effort h.threads := by
  have acted : h.act [] (.advance i) = some h' := ha
  obtain ⟨t, u, ht, free, take, rfl⟩ := act_advance acted
  obtain ⟨moves, left⟩ := Thread.effort_of_take free take
  have step := Call.left_step_lt h.endpoint t.call moves
  have sum := total_set ht Thread.effort u
  have own : t.effort = t.call.effort := by simp [Thread.effort, free]
  simp only at sum ⊢
  omega

namespace Closing

variable {t u v : Host L} {incoming : List Octets} {action : Action}

theorem act (C : Closing t u) (timely : ∀ i, action = .expire i → u.advance i = none)
    (ha : u.act incoming action = some v) : Closing t v where
  stopped := by
    obtain ⟨running, slots, syncSlot⟩ := (Host.still_act C.stopped ha).stopped C.stopped
    exact ⟨running, slots, syncSlot⟩
  attended := C.attended.act ha
  endings i thread ht looks := Host.ending_act C.stopped timely ha ht fun before hb =>
    C.endings i before hb looks
  calm calm := (Host.hushed_act C.stopped (C.calm calm) ha).calm (C.calm calm)
  link calm := (Host.hushed_act C.stopped (C.calm calm) ha).link.trans (C.link calm)

/-- A step of nobody's call. -/
theorem still (C : Closing t u) (S : Still u.endpoint v.endpoint) (threads : v.threads = u.threads)
    (syncing : v.endpoint.syncing = u.endpoint.syncing) : Closing t v where
  stopped := S.stopped C.stopped
  attended := C.attended.same threads syncing
  endings i thread ht looks := (C.endings i thread (threads ▸ ht) looks).mono S.ready
  calm calm := by
    rw [Host.Calm, threads, S.link]
    exact C.calm calm
  link calm := S.link.trans (C.link calm)

/-- The calls go on for so many steps at most, and where none goes on, all have returned. -/
theorem returns (C : Closing t u) {steps : List Nat} (run : steps.foldlM Host.advance u = some v) :
    steps.length ≤ total Thread.effort u.threads ∧
      ((∀ i, v.advance i = none) → ∀ thread ∈ v.threads, thread.result.isSome) := by
  have onward : ∀ {h : Host L} {i : Nat} {h' : Host L}, Closing t h → h.advance i = some h' →
      Closing t h' := by
    intro h i h' C ha
    have acted : h.act [] (.advance i) = some h' := ha
    apply C.act _ acted
    intro j e
    cases e
  constructor
  · have bound := foldlM_measure (m := fun h : Host L => total Thread.effort h.threads)
      (fun C ha => ⟨onward C ha, Host.effort_advance ha⟩) run C
    omega
  · intro quiet
    have C' := foldlM_preserves onward run C
    exact C'.attended.rest C'.stopped quiet

end Closing

theorem syncing_receive (c : Controller L) (buffer : Option Octets) :
    (c.receive buffer).syncing = c.syncing := by
  cases buffer with
  | none => rfl
  | some octets =>
    rcases c.desk_receive octets with same | ⟨response, -, -, put⟩
    · exact congrArg Desk.syncing same
    · exact congrArg Desk.syncing put

theorem running_agentStarted (c : Controller L) : c.agentStarted.running = c.running := by
  unfold agentStarted
  simp only
  split
  · rfl
  · split
    · rfl
    · next command _ =>
      exact (send_kept (({ c with handshake := c.handshake.started } : Controller L).record
        (.agentStarted c.handshake.started)) command).running

theorem running_dispatch (c : Controller L) (kind : Option FrameKind) (stream : StreamId)
    (payload : Octets) : (c.dispatch kind stream payload).running = c.running := by
  unfold dispatch
  split
  · obtain ⟨told, h⟩ := c.dispatchEvent_eq stream payload
    rw [h]
  · exact c.running_agentStarted
  · obtain ⟨slot, h⟩ := c.acceptSync_eq payload
    rw [h]
  · rfl

theorem running_receive (c : Controller L) (buffer : Option Octets) :
    (c.receive buffer).running = c.running := by
  cases buffer with
  | none => rfl
  | some octets =>
    simp only [receive]
    cases Incoming.ofOctets octets with
    | frame header stream payload =>
      simp only [accept]
      split
      · rfl
      · split
        · rfl
        · exact running_dispatch { c with stats := c.stats.countReceived } _ stream payload
    | _ => rfl

namespace Site

variable {s s' : Site L} {buffers : List (Option Octets)} {deed : Deed} {deeds : List Deed}

/-- Time runs out only for a call that would wait on. -/
def timely (s : Site L) : Deed → Bool
  | .act (.expire i) => (s.host.advance i).isNone
  | _ => true

/-- Takes steps one after the other, if each of them can be taken and none comes too early. -/
def performTimely (buffers : List (Option Octets)) (s : Site L) (deeds : List Deed) :
    Option (Site L) :=
  deeds.foldlM (fun s deed => if s.timely deed then s.act buffers deed else none) s

theorem running_act (other : deed ≠ .deinit) (ha : s.act buffers deed = some s') :
    s'.host.endpoint.running = s.host.endpoint.running := by
  cases deed with
  | deinit => exact absurd rfl other
  | act action =>
    obtain ⟨h, hh, rfl⟩ := Option.map_eq_some_iff.mp ha
    cases Host.act_effect hh with
    | spoke _ _ _ kept => exact kept.running
    | heard octets _ _ eq =>
      rw [eq]
      exact s.host.endpoint.running_receive (some octets)
    | passed c delivered eq =>
      obtain ⟨response, -, -, rfl⟩ := deliver_cases delivered
      rw [eq]
  | hear =>
    obtain ⟨-, ha⟩ := Option.ite_none_left_eq_some.mp ha
    obtain ⟨buffer, -, rfl⟩ := Option.map_eq_some_iff.mp ha
    exact s.host.endpoint.running_receive buffer
  | openStream stream =>
    simp only [act] at ha
    split at ha
    · next c opened =>
      cases ha
      exact (still_openStream opened).running
    · cases ha
      rfl
  | _ =>
    cases ha
    rfl

/-- What is not the step of a call changes neither the calls nor what they share. -/
structure Beyond (s s' : Site L) : Prop where
  threads : s'.host.threads = s.host.threads
  syncing : s'.host.endpoint.syncing = s.host.endpoint.syncing
  still : s.host.endpoint.Stopped → Still s.host.endpoint s'.host.endpoint

theorem beyond_act (other : ∀ action, deed ≠ .act action) (ha : s.act buffers deed = some s') :
    Beyond s s' := by
  cases deed with
  | act action => exact absurd rfl (other action)
  | hear =>
    obtain ⟨-, ha⟩ := Option.ite_none_left_eq_some.mp ha
    obtain ⟨buffer, -, rfl⟩ := Option.map_eq_some_iff.mp ha
    exact ⟨rfl, s.host.endpoint.syncing_receive buffer, fun S => S.receive buffer⟩
  | openStream stream =>
    simp only [act] at ha
    split at ha
    · next c opened =>
      cases ha
      refine ⟨rfl, ?_, fun _ => still_openStream opened⟩
      unfold openStream at opened
      split at opened <;> cases opened
      rfl
    · cases ha
      exact ⟨rfl, rfl, fun _ => .refl _⟩
  | deinit =>
    cases ha
    refine ⟨rfl, ?_, fun S => ?_⟩
    · simp only [withEndpoint, deinit]
      split <;> rfl
    · rw [withEndpoint, S.deinit]
      exact .refl _
  | _ =>
    cases ha
    exact ⟨rfl, rfl, fun _ => ⟨rfl, rfl, fun _ => id, id, id⟩⟩

/-- Until a shutdown the controller runs, and a sync that keeps others from beginning is under
way. -/
structure Sound (s : Site L) : Prop where
  stopped : s.host.endpoint.running = false → s.host.endpoint.Stopped
  attended : s.host.Attended

theorem Sound.stopped_deinit (H : s.Sound) :
    (s.withEndpoint s.host.endpoint.deinit).host.endpoint.Stopped :=
  Controller.stopped_deinit H.stopped

theorem Sound.act (H : s.Sound) (ha : s.act buffers deed = some s') : s'.Sound := by
  constructor
  · intro halted
    by_cases shuts : deed = .deinit
    · subst shuts
      cases ha
      exact H.stopped_deinit
    have S := H.stopped ((running_act shuts ha).symm.trans halted)
    by_cases acts : ∃ action, deed = .act action
    · obtain ⟨action, rfl⟩ := acts
      obtain ⟨h, hh, rfl⟩ := Option.map_eq_some_iff.mp ha
      obtain ⟨running, slots, syncSlot⟩ := (Host.still_act S hh).stopped S
      exact ⟨running, slots, syncSlot⟩
    · exact ((beyond_act (fun a e => acts ⟨a, e⟩) ha).still S).stopped S
  · by_cases acts : ∃ action, deed = .act action
    · obtain ⟨action, rfl⟩ := acts
      obtain ⟨h, hh, rfl⟩ := Option.map_eq_some_iff.mp ha
      exact H.attended.act hh
    · have B := beyond_act (fun a e => acts ⟨a, e⟩) ha
      exact H.attended.same B.threads B.syncing

omit [FrameLink L] in
theorem sound_start (link : L) (config : ControllerConfig) (seed : UInt32) :
    (ofController (.start link config seed)).Sound :=
  ⟨nofun, nofun⟩

theorem Sound.perform (H : s.Sound) (run : s.perform buffers deeds = some s') : s'.Sound :=
  foldlM_preserves (I := Sound) (fun H ha => H.act ha) run H

theorem Sound.closing (H : s.Sound) : Closing (s.withEndpoint s.host.endpoint.deinit).host
    (s.withEndpoint s.host.endpoint.deinit).host where
  stopped := H.stopped_deinit
  attended := by
    have shut : s.act [] .deinit = some (s.withEndpoint s.host.endpoint.deinit) := rfl
    have B := beyond_act (fun _ e => by cases e) shut
    exact H.attended.same B.threads B.syncing
  endings i thread ht looks := by
    obtain ⟨free, looks⟩ := looks thread ht
    exact .underway free looks
  calm := id
  link _ := rfl

theorem closing_act {t : Host L} (C : Closing t s.host) (timely : s.timely deed = true)
    (ha : s.act buffers deed = some s') : Closing t s'.host := by
  by_cases acts : ∃ action, deed = .act action
  · obtain ⟨action, rfl⟩ := acts
    obtain ⟨h, hh, rfl⟩ := Option.map_eq_some_iff.mp ha
    apply C.act _ hh
    rintro i rfl
    exact Option.isNone_iff_eq_none.mp timely
  · have B := beyond_act (fun a e => acts ⟨a, e⟩) ha
    exact C.still (B.still C.stopped) B.threads B.syncing

theorem closing_perform {t : Host L} (C : Closing t s.host)
    (run : s.performTimely buffers deeds = some s') : Closing t s'.host := by
  refine foldlM_preserves (I := fun s : Site L => Closing t s.host) (fun C ha => ?_) run C
  obtain ⟨timely, ha⟩ := Option.ite_none_right_eq_some.mp ha
  exact closing_act C timely ha

/-- A controller that is shut down, at whatever moment, and whatever happens then. It never sends a
command or a request to reset again, but fails with the shutdown. A call that is made then, or that
waited or had not begun to send, returns the shutdown if it returns, or else it is the wait for the
agent's start and has found the agent ready. Every call does return, after so many steps at most.
The link takes no frame from then on, provided that no sync had a request in hand at the shutdown,
or that a link takes nothing once it is stopped. -/
theorem deinit_final {link : L} {config : ControllerConfig} {seed : UInt32} {more : List Deed}
    {u : Site L} (run : (ofController (.start link config seed)).perform buffers deeds = some s)
    (later : (s.withEndpoint s.host.endpoint.deinit).performTimely buffers more = some u) :
    u.host.endpoint.running = false ∧
    (∀ command, u.host.endpoint.send command = (.error .shutdown, u.host.endpoint)) ∧
    u.host.endpoint.resetAgent = (.error .shutdown, u.host.endpoint) ∧
    (∀ (i : Nat) (thread : Thread) (result : Except EndpointError Answer),
      u.host.threads[i]? = some thread → thread.result = some result →
      (∀ before, s.host.threads[i]? = some before → before.result = none ∧ before.call.Looks) →
      result = .error .shutdown ∨
        result = .ok .agentReady ∧ (∃ timeout, thread.call = .awaitAgent timeout) ∧
          u.host.endpoint.handshake.state = .ready) ∧
    (∀ (steps : List Nat) (h : Host L), steps.foldlM Host.advance u.host = some h →
      steps.length ≤ total Thread.effort u.host.threads ∧
        ((∀ i, h.advance i = none) → ∀ thread ∈ h.threads, thread.result.isSome)) ∧
    ((∀ thread ∈ s.host.threads, thread.result = none → ¬ thread.call.Loaded) ∨
        Datalink.Deaf s.host.endpoint.deinit.link →
      FrameLink.taken u.host.endpoint.link = FrameLink.taken s.host.endpoint.deinit.link) := by
  have H := (sound_start link config seed).perform run
  have C := closing_perform H.closing later
  have halted := C.stopped.running
  refine ⟨halted, send_of_halted halted, resetAgent_of_halted halted, ?_, ?_, ?_⟩
  · intro i thread result ht returned looks
    cases C.endings i thread ht looks with
    | underway free => exact nomatch free.symm.trans returned
    | withdraws free => exact nomatch free.symm.trans returned
    | refused refused => exact .inl (Option.some.inj (returned.symm.trans refused))
    | found found call ready =>
      exact .inr ⟨Option.some.inj (returned.symm.trans found), call, ready⟩
  · intro steps h run
    exact C.returns run
  · intro calm
    exact congrArg FrameLink.taken (C.link calm)

end Site

end

namespace Site

/-- A controller on a serial link. -/
def atDesk : Site PacketLink :=
  ofController (.start (.ofConfig .default) ⟨none, .ofMillis 20⟩ 0)

/-- A start notification, and nothing else. -/
def lateStart : List (Option Octets) := [some [0x50, 0, 0, 0]]

/-- A wait for a response, a wait for the agent's start, a sync with its request in hand, and a
second sync that the first one keeps from beginning. -/
def engaged : List Deed :=
  [.onStart ⟨some ⟨StreamId.control, ⟨5, 2, 0⟩, [7]⟩⟩,
    .act (.begin (.receive StreamId.control ⟨5, 1, 0⟩ none none)), .act (.advance 0),
    .act (.begin (.awaitAgent (.ofMillis 10))),
    .act (.begin (.sync (.ofMillis 1000))), .act (.begin (.sync (.ofMillis 1000))),
    .act (.advance 2), .act (.advance 2), .act (.advance 2), .act (.advance 2)]

/-- The agent's start comes when the two waits have ended. Then there are a request and one more
wait for the start. -/
def closedDown : List Deed :=
  [.act (.advance 0), .act (.advance 1), .hear,
    .act (.begin (.request ⟨StreamId.control, ⟨5, 1, 0⟩, [1]⟩ none)),
    .act (.advance 4), .act (.advance 4),
    .act (.begin (.awaitAgent (.ofMillis 10))), .act (.advance 5),
    .act (.advance 2), .act (.advance 2), .act (.advance 3), .act (.advance 3)]

theorem deinit_final_engaged :
    ∃ s u : Site PacketLink, atDesk.perform lateStart engaged = some s ∧
      (s.withEndpoint s.host.endpoint.deinit).performTimely lateStart closedDown = some u ∧
      u.host.threads.map Thread.result =
        [some (.error .shutdown), some (.error .shutdown), some (.error (.link .shutdown)),
          some (.error .shutdown), some (.error .shutdown), some (.ok .agentReady)] ∧
      u.host.endpoint.handshake.state = .ready ∧
      u.host.endpoint.resetAgent = (.error .shutdown, u.host.endpoint) ∧
      FrameLink.taken u.host.endpoint.link = FrameLink.taken s.host.endpoint.deinit.link := by
  obtain ⟨s, run, running, slots, callers⟩ : ∃ s : Site PacketLink,
      atDesk.perform lateStart engaged = some s ∧ s.host.endpoint.running = true ∧
      s.host.endpoint.slots = .fill .empty ∧ s.host.threads.length = 4 :=
    ⟨_, rfl, rfl, rfl, rfl⟩
  have shut := deinit_of_fill running slots
  have outcome : ((atDesk.perform lateStart engaged).bind fun s =>
      (s.withEndpoint { s.host.endpoint with
        running := false
        slots := .fill Slot.empty.close
        syncSlot := s.host.endpoint.syncSlot.close
        link := Datalink.stop s.host.endpoint.link }).performTimely lateStart closedDown).map
        (·.host.threads.map Thread.result) =
      some [some (.error .shutdown), some (.error .shutdown), some (.error (.link .shutdown)),
        some (.error .shutdown), some (.error .shutdown), some (.ok .agentReady)] := rfl
  rw [run, Option.bind_some, ← shut] at outcome
  obtain ⟨u, later, results⟩ := Option.map_eq_some_iff.mp outcome
  obtain ⟨-, -, reset, returns, -, silent⟩ := deinit_final run later
  have deaf : Datalink.Deaf s.host.endpoint.deinit.link := by
    rw [shut]
    exact PacketLink.deaf_stop _
  refine ⟨s, u, run, later, results, ?_, reset, silent (.inr deaf)⟩
  have sixth : (u.host.threads.map Thread.result)[5]? = some (some (.ok .agentReady)) := by
    rw [results]
    rfl
  rw [List.getElem?_map] at sixth
  obtain ⟨thread, ht, returned⟩ := Option.map_eq_some_iff.mp sixth
  have new : s.host.threads[5]? = none := List.getElem?_eq_none (by omega)
  have outcome := returns 5 thread _ ht returned fun before hb => nomatch new.symm.trans hb
  rcases outcome with refused | ⟨-, -, ready⟩
  · cases refused
  · exact ready

/-- The agent is ready when the controller is shut down. After that a stream is opened, and a wait
for the agent succeeds. -/
theorem deinit_overlooked :
    ∃ s u : Site PacketLink, atDesk.perform lateStart [.hear] = some s ∧
      (s.withEndpoint s.host.endpoint.deinit).performTimely lateStart
        [.openStream StreamId.control, .act (.begin (.awaitAgent (.ofMillis 10))),
          .act (.advance 0)] = some u ∧
      u.opened = [.ok ()] ∧ u.host.threads.map Thread.result = [some (.ok .agentReady)] := by
  obtain ⟨s, run, running, slots⟩ : ∃ s : Site PacketLink,
      atDesk.perform lateStart [.hear] = some s ∧ s.host.endpoint.running = true ∧
      s.host.endpoint.slots = .fill .empty := ⟨_, rfl, rfl, rfl⟩
  have shut := deinit_of_fill running slots
  have outcome : ((atDesk.perform lateStart [.hear]).bind fun s =>
      (s.withEndpoint { s.host.endpoint with
        running := false
        slots := .fill Slot.empty.close
        syncSlot := s.host.endpoint.syncSlot.close
        link := Datalink.stop s.host.endpoint.link }).performTimely lateStart
        [.openStream StreamId.control, .act (.begin (.awaitAgent (.ofMillis 10))),
          .act (.advance 0)]).map (fun u => (u.opened, u.host.threads.map Thread.result)) =
      some ([.ok ()], [some (.ok .agentReady)]) := rfl
  rw [run, Option.bind_some, ← shut] at outcome
  obtain ⟨u, later, results⟩ := Option.map_eq_some_iff.mp outcome
  obtain ⟨opened, returned⟩ := Prod.mk.inj results
  exact ⟨s, u, run, later, opened, returned⟩

end Site
end Controller
end CommandLink
