import CommandLink.Proofs.Controller.Handle

/-! # Responses that wait for a caller

Responses arrive, each under another number than the frame before it, while callers wait for them,
give up or are cancelled. The receive path blocks as long as the slot that it is at is full, and
what arrives meanwhile waits behind. In whatever order that happens, nothing is lost, repeated or
overtaken on the way from the link to a caller: what the waits on a stream have caught, what is in
its slot and what the receive path has still to bring there are together what has arrived on that
stream, in order (`Traffic.responses_conserved`). -/

namespace CommandLink

/-- A frame's payload with its stream. -/
def SoundFrame.parcel (f : SoundFrame) : StreamId × Octets := (f.stream, f.payload)

namespace Controller

open Intake (on)

variable {L : Type}

/-- What a step of a call takes from a slot. -/
def Call.catches (c : Controller L) : Call → Option (StreamId × Octets)
  | .listen wait =>
    let slot := c.slots.get wait.stream
    match slot.pop (wait.seen.getD slot.cancels) with
    | .taken body _ => some (wait.stream, body)
    | _ => none
  | _ => none

/-- A response that a wait has taken. -/
structure Catch where
  /-- Who waited. -/
  thread : Nat
  parcel : StreamId × Octets

/-- What a step takes from a slot for a thread. -/
def Host.catches (h : Host L) : Action → List Catch
  | .advance i =>
    ((h.threads[i]?).bind fun t => t.call.catches h.endpoint).toList.map (⟨i, ·⟩)
  | _ => []

/-- A controller with its callers, and the frames that have arrived for it. -/
structure Traffic (L : Type) where
  host : Host L
  arrived : List SoundFrame
  /-- What waits have caught, in order. -/
  caught : List Catch

inductive Traffic.Move
  | arrive (frame : SoundFrame)
  | act (action : Action)

/-- None of the frames repeats the number before it, and all are responses. -/
def Fresh (r : Inbound) : List SoundFrame → Prop
  | [] => True
  | f :: fs => f.kind = some .response ∧ r.isRepeat f.seq = false ∧ Fresh (r.record f.seq) fs

namespace Traffic

/-- A controller on which nobody has called yet. -/
def ofController (c : Controller L) : Traffic L := ⟨.ofController c, [], []⟩

/-- The frames that the receive path has not taken. -/
def behind (s : Traffic L) : List SoundFrame := s.arrived.drop s.host.heard

/-- What the receive path remembers once it has taken all that has arrived. -/
def horizon (s : Traffic L) : Inbound :=
  s.behind.foldl (fun r f => r.record f.seq) s.host.endpoint.ear.pass.inbound

section
variable [FrameLink L]

/-- What the receive path has still to bring into a slot: the response that it holds, and what has
arrived behind it. -/
def queue (s : Traffic L) : List (StreamId × Octets) :=
  (ReceivePath.pending s.host.endpoint).toList ++ s.behind.map SoundFrame.parcel

end

/-- What one thread has caught. -/
def caughtBy (s : Traffic L) (i : Nat) : List (StreamId × Octets) :=
  (s.caught.filter (·.thread = i)).map Catch.parcel

/-- Responses arrive under new numbers. Callers wait for responses, and send what they like, but
drop nothing that is in a slot. -/
def permits (s : Traffic L) : Move → Bool
  | .arrive f => f.kind = some .response && !s.horizon.isRepeat f.seq
  | .act (.begin (.receive _ _ _ _)) => true
  | .act (.begin _) | .act (.discard _) => false
  | .act _ => true

def act [Datalink L] (s : Traffic L) : Move → Option (Traffic L)
  | .arrive f => some { s with arrived := s.arrived ++ [f] }
  | .act action =>
    (s.host.act (s.arrived.map SoundFrame.octets) action).map fun h =>
      { s with host := h, caught := s.caught ++ s.host.catches action }

/-- Takes steps one after the other, if each of them is permitted and can be taken. -/
def perform [Datalink L] (s : Traffic L) (moves : List Move) : Option (Traffic L) :=
  moves.foldlM (fun s move => if s.permits move then s.act move else none) s

end Traffic

/-! ## Fresh numbers -/

theorem Fresh.concat {r : Inbound} {fs : List SoundFrame} (F : Fresh r fs) {f : SoundFrame}
    (response : f.kind = some .response)
    (new : (fs.foldl (fun r f => r.record f.seq) r).isRepeat f.seq = false) :
    Fresh r (fs ++ [f]) := by
  induction fs generalizing r with
  | nil => exact ⟨response, new, trivial⟩
  | cons g fs ih => exact ⟨F.1, F.2.1, ih F.2.2 new⟩

/-! ## What a wait comes to -/

/-- How a wait stands that has caught `caught`: it goes on and has caught nothing; it has returned
what it read in the one response that it caught, on its own stream; or it has caught nothing and was
given up. -/
inductive Fate (caught : List (StreamId × Octets)) (wait : Listening) :
    Option (Except EndpointError Answer) → Prop
  | waits (nothing : caught = []) : Fate caught wait none
  | returned (body : Octets) (one : caught = [(wait.stream, body)]) :
      Fate caught wait (some ((wait.read body).map .payload))
  | cancelled (nothing : caught = []) : Fate caught wait (some (.error .cancelled))
  | late (nothing : caught = []) {limit : Duration} (h : wait.timeout = some limit) :
      Fate caught wait (some (.error (.timeout limit)))

/-- A thread is the call of a caller that waits for a response, and stands as it should. -/
def Attends (caught : List (StreamId × Octets)) (t : Thread) : Prop :=
  ∃ wait : Listening, t.call = .listen wait ∧
    t.errand = .receive wait.stream wait.expected wait.capacity wait.timeout ∧
    Fate caught wait t.result

/-- One step of a wait on an open slot. -/
inductive ListenStep [Datalink L] (c : Controller L) (wait : Listening) : Prop
  | took (body : Octets) (item : (c.slots.get wait.stream).item = some body)
      (catches : (Call.listen wait).catches c = some (wait.stream, body))
      (step : (Call.listen wait).step c =
        ({ c with slots := c.slots.modify wait.stream Slot.clear },
          .done ((wait.read body).map .payload)))
  | left (catches : (Call.listen wait).catches c = none)
      (endpoint : ((Call.listen wait).step c).1 = c)
      (outcome : ((Call.listen wait).step c).2 = .done (.error .cancelled) ∨
        ((Call.listen wait).step c).2 = .blocked ∨
        ∃ seen, ((Call.listen wait).step c).2 = .next (.listen { wait with seen := seen }))

theorem listenStep_of_open [Datalink L] (c : Controller L) (wait : Listening)
    (ho : (c.slots.get wait.stream).closed = false) : ListenStep c wait := by
  cases hi : (c.slots.get wait.stream).item with
  | some body =>
    refine .took body hi ?_ ?_
    · simp [Call.catches, Slot.pop, hi]
    · simp only [Call.step, Slot.pop, hi]
      rfl
  | none =>
    by_cases seen : (c.slots.get wait.stream).cancels =
        wait.seen.getD (c.slots.get wait.stream).cancels
    · have waits : (c.slots.get wait.stream).pop
          (wait.seen.getD (c.slots.get wait.stream).cancels) = .waiting := by
        simp [Slot.pop, hi, ho, ← seen]
      refine .left ?_ ?_ (.inr ?_)
      · simp [Call.catches, waits]
      · simp only [Call.step, waits]
        split <;> rfl
      · simp only [Call.step, waits]
        split
        · exact .inl rfl
        · exact .inr ⟨_, rfl⟩
    · have released : (c.slots.get wait.stream).pop
          (wait.seen.getD (c.slots.get wait.stream).cancels) = .released .cancelled := by
        simp [Slot.pop, hi, ho, seen]
      refine .left ?_ ?_ (.inl ?_)
      · simp [Call.catches, released]
      · simp only [Call.step, released]
      · simp only [Call.step, released, releaseError]

namespace Traffic

variable {s : Traffic L}

/-- Every caller stands as it should. -/
structure Attended (s : Traffic L) : Prop where
  threads : ∀ i t, s.host.threads[i]? = some t → Attends (s.caughtBy i) t
  caught : ∀ x ∈ s.caught, x.thread < s.host.threads.length

theorem caughtBy_append (s : Traffic L) (xs : List Catch) (i : Nat) :
    caughtBy { s with caught := s.caught ++ xs } i =
      s.caughtBy i ++ (xs.filter (·.thread = i)).map Catch.parcel := by
  simp [caughtBy]

/-- Nobody has caught anything for a thread that is not there. -/
theorem Attended.caughtBy_length (A : s.Attended) : s.caughtBy s.host.threads.length = [] := by
  rw [caughtBy, List.map_eq_nil_iff, List.filter_eq_nil_iff]
  intro x hx
  have := A.caught x hx
  simp only [decide_eq_true_eq]
  omega

/-- A step that leaves the callers alone. -/
theorem Attended.same (A : s.Attended) {h : Host L} (threads : h.threads = s.host.threads) :
    Attended { s with host := h, caught := s.caught ++ [] } := by
  rw [List.append_nil]
  exact ⟨fun i t ht => A.threads i t (threads ▸ ht), fun x hx => by
    rw [threads]
    exact A.caught x hx⟩

theorem Attended.begin (A : s.Attended) (stream : StreamId) (expected : CommandId)
    (capacity : Option Nat) (timeout : Option Duration) :
    Attended { s with
      host := { s.host with
        threads := s.host.threads ++ [.ofErrand (.receive stream expected capacity timeout)] }
      caught := s.caught ++ [] } := by
  rw [List.append_nil]
  refine ⟨fun i t ht => ?_, fun x hx => ?_⟩
  · rcases getElem?_concat_cases ht with ht | ⟨rfl, rfl⟩
    · exact A.threads i t ht
    · exact ⟨_, rfl, rfl, .waits A.caughtBy_length⟩
  · rw [List.length_append]
    exact Nat.lt_of_lt_of_le (A.caught x hx) (Nat.le_add_right _ _)

/-- The caller of one thread comes to stand otherwise, and has caught `new`. -/
theorem Attended.set (A : s.Attended) {i : Nat} {t u : Thread} (ht : s.host.threads[i]? = some t)
    {h : Host L} (threads : h.threads = s.host.threads.set i u) (new : Option (StreamId × Octets))
    (attends : Attends (s.caughtBy i ++ new.toList) u) :
    Attended { s with host := h, caught := s.caught ++ new.toList.map (⟨i, ·⟩) } := by
  have lt := lt_length_of_getElem? ht
  constructor
  · intro j v hv
    simp only [threads] at hv
    rw [caughtBy_append { s with host := h }]
    by_cases hj : i = j
    · subst hj
      rw [List.getElem?_set_self lt] at hv
      cases hv
      have own : ((new.toList.map (⟨i, ·⟩ : _ → Catch)).filter (·.thread = i)).map
          Catch.parcel = new.toList := by
        cases new <;> simp
      rw [own]
      exact attends
    · rw [List.getElem?_set_ne hj] at hv
      have others : ((new.toList.map (⟨i, ·⟩ : _ → Catch)).filter (·.thread = j)).map
          Catch.parcel = [] := by
        cases new <;> simp [hj]
      rw [others, List.append_nil]
      exact A.threads j v hv
  · intro x hx
    simp only [threads, List.length_set]
    rcases List.mem_append.mp hx with hx | hx
    · exact A.caught x hx
    · obtain ⟨parcel, -, rfl⟩ := List.mem_map.mp hx
      exact lt

variable [FrameLink L] {incoming : List Octets} {h : Host L} {i : Nat}

theorem Attended.advance (A : s.Attended)
    (opened : ∀ stream, (s.host.endpoint.slots.get stream).closed = false)
    (ha : s.host.act incoming (.advance i) = some h) :
    Attended { s with host := h, caught := s.caught ++ s.host.catches (.advance i) } := by
  obtain ⟨⟨errand, call, result⟩, u, ht, free, take, rfl⟩ := Host.act_advance ha
  obtain ⟨wait, rfl, rfl, fate⟩ := A.threads i _ ht
  obtain rfl := free
  have nothing : s.caughtBy i = [] := by
    cases fate
    assumption
  have catches : s.host.catches (.advance i) =
      ((Call.listen wait).catches s.host.endpoint).toList.map (⟨i, ·⟩) := by
    simp [Host.catches, ht]
  rw [catches]
  refine A.set ht rfl _ ?_
  rw [nothing, List.nil_append]
  cases listenStep_of_open s.host.endpoint wait (opened wait.stream) with
  | took body item catches step =>
    rw [step] at take
    cases take
    exact ⟨wait, rfl, rfl, .returned body (by rw [catches]; rfl)⟩
  | left catches endpoint outcome =>
    have none : ((Call.listen wait).catches s.host.endpoint).toList = [] := by
      rw [catches]
      rfl
    rcases outcome with step | step | ⟨seen, step⟩ <;> rw [step] at take <;> cases take
    · exact ⟨wait, rfl, rfl, .cancelled none⟩
    · exact ⟨_, rfl, rfl, .waits none⟩

theorem Attended.expire (A : s.Attended) (ha : s.host.act incoming (.expire i) = some h) :
    Attended { s with host := h, caught := s.caught ++ [] } := by
  obtain ⟨⟨errand, call, result⟩, limit, u, ht, free, late, take, rfl⟩ := Host.act_expire ha
  obtain ⟨wait, rfl, rfl, fate⟩ := A.threads i _ ht
  obtain rfl := free
  have nothing : s.caughtBy i = [] := by
    cases fate
    assumption
  cases take
  refine A.set ht rfl none ⟨wait, rfl, rfl, .late ?_ late⟩
  simpa using nothing

/-- Whatever the step, every caller stands as it should. -/
theorem Attended.act (A : s.Attended)
    (opened : ∀ stream, (s.host.endpoint.slots.get stream).closed = false) {action : Action}
    (ok : s.permits (.act action) = true) (ha : s.host.act incoming action = some h) :
    Attended { s with host := h, caught := s.caught ++ s.host.catches action } := by
  cases action with
  | advance i => exact A.advance opened ha
  | expire i => exact A.expire ha
  | begin errand =>
    cases errand with
    | receive stream expected capacity timeout =>
      cases ha
      exact A.begin stream expected capacity timeout
    | _ => cases ok
  | hear =>
    obtain ⟨octets, -, -, rfl⟩ := Host.act_hear ha
    exact A.same rfl
  | pass =>
    obtain ⟨c, -, rfl⟩ := Option.map_eq_some_iff.mp ha
    exact A.same rfl
  | discard stream => cases ok
  | _ =>
    cases ha
    exact A.same rfl

/-! ## What is on its way -/

/-- What has reached the slot of a stream or is on its way to it. -/
def reached (s : Traffic L) (stream : StreamId) : List Octets :=
  on stream (s.caught.map Catch.parcel) ++
    (s.host.endpoint.slots.get stream).item.toList ++ on stream s.queue

/-- From `c` on nothing was lost, repeated or overtaken. -/
structure Conserves (c : Controller L) (s : Traffic L) : Prop where
  opened : ∀ stream, (s.host.endpoint.slots.get stream).closed = false
  heard_le : s.host.heard ≤ s.arrived.length
  fresh : Fresh s.host.endpoint.ear.pass.inbound s.behind
  queue : s.queue <:+ (ReceivePath.pending c).toList ++ s.arrived.map SoundFrame.parcel
  reached : ∀ stream, s.reached stream = (c.slots.get stream).item.toList ++
    on stream ((ReceivePath.pending c).toList ++ s.arrived.map SoundFrame.parcel)

variable {c : Controller L}

theorem Conserves.start (opened : ∀ stream, (c.slots.get stream).closed = false) :
    Conserves c (.ofController c) where
  opened := opened
  heard_le := Nat.le_refl 0
  fresh := trivial
  queue := List.suffix_refl _
  reached _ := rfl

/-- A step of a caller that takes nothing from a slot. -/
theorem Conserves.same (C : Conserves c s) (ear : h.endpoint.ear = s.host.endpoint.ear)
    (receiving : h.endpoint.receiving = s.host.endpoint.receiving)
    (heard : h.heard = s.host.heard)
    (slots : ∀ stream,
      (h.endpoint.slots.get stream).closed = (s.host.endpoint.slots.get stream).closed ∧
      (h.endpoint.slots.get stream).item = (s.host.endpoint.slots.get stream).item) :
    Conserves c { s with host := h, caught := s.caught ++ [] } := by
  rw [List.append_nil]
  have behind : Traffic.behind { s with host := h } = s.behind := by simp [Traffic.behind, heard]
  have queue : Traffic.queue { s with host := h } = s.queue := by
    simp [Traffic.queue, behind, ReceivePath.pending, receiving]
  refine ⟨fun stream => (slots stream).1.trans (C.opened stream), heard ▸ C.heard_le, ?_, ?_,
    fun stream => ?_⟩
  · rw [behind]
    exact ear ▸ C.fresh
  · exact queue ▸ C.queue
  · rw [← C.reached stream, Traffic.reached, queue, (slots stream).2, Traffic.reached]

/-- A wait takes what is in a slot. -/
theorem Conserves.advance (C : Conserves c s) (A : s.Attended)
    (ha : s.host.act incoming (.advance i) = some h) :
    Conserves c { s with host := h, caught := s.caught ++ s.host.catches (.advance i) } := by
  obtain ⟨⟨errand, call, result⟩, u, ht, free, take, rfl⟩ := Host.act_advance ha
  obtain ⟨wait, rfl, -, -⟩ := A.threads i _ ht
  have catches : s.host.catches (.advance i) =
      ((Call.listen wait).catches s.host.endpoint).toList.map (⟨i, ·⟩) := by
    simp [Host.catches, ht]
  rw [catches]
  cases listenStep_of_open s.host.endpoint wait (C.opened wait.stream) with
  | left catches endpoint outcome =>
    rw [catches, endpoint]
    exact C.same rfl rfl rfl fun _ => ⟨rfl, rfl⟩
  | took body item catches step =>
    rw [catches, step]
    refine ⟨fun stream => ?_, C.heard_le, C.fresh, C.queue, fun stream => ?_⟩
    · simp only [StreamTable.modify, StreamTable.get_set]
      split
      · exact C.opened wait.stream
      · exact C.opened stream
    · rw [← C.reached stream]
      by_cases hs : wait.stream = stream
      · subst hs
        simp [Traffic.reached, on, StreamTable.modify, Slot.clear, item]
        rfl
      · simp [Traffic.reached, on, StreamTable.modify, hs, StreamTable.get_set_of_ne _ hs]
        rfl

/-- The receive path takes the frame that has arrived first of those behind. -/
theorem Conserves.hear (C : Conserves c s)
    (ha : s.host.act (s.arrived.map SoundFrame.octets) .hear = some h) :
    Conserves c { s with host := h, caught := s.caught ++ [] } := by
  obtain ⟨octets, next, free, rfl⟩ := Host.act_hear ha
  obtain ⟨f, hf, rfl⟩ := Option.map_eq_some_iff.mp ((List.getElem?_map ..).symm.trans next)
  rw [List.append_nil]
  have more := lt_length_of_getElem? hf
  have behind : s.behind = f :: s.arrived.drop (s.host.heard + 1) := by
    obtain ⟨lt, rfl⟩ := List.getElem?_eq_some_iff.mp hf
    exact List.drop_eq_getElem_cons lt
  obtain ⟨response, new, fresh⟩ := behind ▸ C.fresh
  have ear : s.host.endpoint.ear.pass = s.host.endpoint.ear :=
    Ear.pass_of_none (by simp [ear, Ear.of, free])
  rw [ear] at new fresh
  have kind : f.kind ≠ some .agentStart := by simp [response]
  have held : s.host.endpoint.receive (some f.octets) =
      { s.host.endpoint with
        stats := s.host.endpoint.stats.countReceived
        receiving := some ⟨f.stream, f.payload, f.seq⟩ } := by
    have new : s.host.endpoint.inbound.isRepeat f.seq = false := new
    rw [receive_frame _ kind, if_neg (by simp [new]), if_pos response]
  have queue : Traffic.queue { s with
      host := { s.host with
        endpoint := s.host.endpoint.receive (some f.octets), heard := s.host.heard + 1 } } =
      s.queue := by
    rw [Traffic.queue, Traffic.queue, behind, held]
    simp [Traffic.behind, ReceivePath.pending, free, SoundFrame.parcel]
  refine ⟨?_, more, ?_, queue ▸ C.queue, fun stream => ?_⟩
  · rw [held]
    exact C.opened
  · rw [ear_receive_frame free kind]
    exact fresh
  · rw [← C.reached stream, Traffic.reached, queue, held]
    rfl

/-- The receive path brings what it holds into its slot. -/
theorem Conserves.pass (C : Conserves c s) (ha : s.host.act incoming .pass = some h) :
    Conserves c { s with host := h, caught := s.caught ++ [] } := by
  obtain ⟨c', hc, rfl⟩ := Option.map_eq_some_iff.mp ha
  rw [List.append_nil]
  have ear := ear_deliver hc
  obtain ⟨response, held, room, rfl⟩ := deliver_cases hc
  have opened := C.opened response.stream
  have empty : (s.host.endpoint.slots.get response.stream).item = none := by
    rcases room with closed | ⟨-, empty⟩
    · rw [opened] at closed
      cases closed
    · exact empty
  have queue : s.queue = (response.stream, response.body) :: s.behind.map SoundFrame.parcel := by
    simp [Traffic.queue, ReceivePath.pending, held]
  refine ⟨fun stream => ?_, C.heard_le, ?_, ?_, fun stream => ?_⟩
  · simp only [opened, Bool.false_eq_true, if_false, StreamTable.get_set]
    split
    · rfl
    · exact C.opened stream
  · rw [ear, Ear.pass_pass]
    exact C.fresh
  · exact (queue ▸ List.suffix_cons _ _).trans C.queue
  · rw [← C.reached stream, Traffic.reached, Traffic.reached, queue]
    by_cases hs : response.stream = stream
    · subst hs
      simp [Traffic.queue, Traffic.behind, ReceivePath.pending, on, opened, empty]
    · simp [Traffic.queue, Traffic.behind, ReceivePath.pending, on, opened, hs,
        StreamTable.get_set_of_ne _ hs]

/-- A response arrives under a new number. -/
theorem Conserves.arrive (C : Conserves c s) {f : SoundFrame}
    (ok : s.permits (.arrive f) = true) :
    Conserves c { s with arrived := s.arrived ++ [f] } := by
  simp only [permits, Bool.and_eq_true, decide_eq_true_eq, Bool.not_eq_true'] at ok
  have behind : Traffic.behind { s with arrived := s.arrived ++ [f] } = s.behind ++ [f] :=
    List.drop_append_of_le_length C.heard_le
  have queue : Traffic.queue { s with arrived := s.arrived ++ [f] } = s.queue ++ [f.parcel] := by
    simp [Traffic.queue, behind]
  refine ⟨C.opened, ?_, ?_, ?_, fun stream => ?_⟩
  · rw [List.length_append]
    exact Nat.le_trans C.heard_le (Nat.le_add_right _ _)
  · rw [behind]
    exact C.fresh.concat ok.1 ok.2
  · obtain ⟨before, eq⟩ := C.queue
    exact ⟨before, by rw [queue, List.map_append, ← List.append_assoc, eq, List.append_assoc]; rfl⟩
  · have before := C.reached stream
    rw [Traffic.reached] at before ⊢
    rw [queue, List.map_append, ← List.append_assoc]
    simp only [on, List.filterMap_append] at before ⊢
    rw [← List.append_assoc, before]
    simp

/-- Whatever the step, nothing is lost, repeated or overtaken. -/
theorem Conserves.act (C : Conserves c s) (A : s.Attended) {action : Action}
    (ok : s.permits (.act action) = true)
    (ha : s.host.act (s.arrived.map SoundFrame.octets) action = some h) :
    Conserves c { s with host := h, caught := s.caught ++ s.host.catches action } := by
  cases action with
  | advance i => exact C.advance A ha
  | hear => exact C.hear ha
  | pass => exact C.pass ha
  | discard stream => cases ok
  | send command =>
    obtain ⟨link, outbound, sent, eq⟩ := s.host.endpoint.send_eq command
    have slots : (s.host.endpoint.send command).2.slots = s.host.endpoint.slots := by rw [eq]
    have kept := s.host.endpoint.send_kept command
    cases ha
    exact C.same kept.ear kept.receiving rfl fun stream =>
      ⟨congrArg (·.get stream |>.closed) slots, congrArg (·.get stream |>.item) slots⟩
  | reset =>
    obtain ⟨link, outbound, sent, handshake, eq⟩ := s.host.endpoint.resetAgent_eq
    have slots : s.host.endpoint.resetAgent.2.slots = s.host.endpoint.slots := by rw [eq]
    have kept := s.host.endpoint.resetAgent_kept
    cases ha
    exact C.same kept.ear kept.receiving rfl fun stream =>
      ⟨congrArg (·.get stream |>.closed) slots, congrArg (·.get stream |>.item) slots⟩
  | expire i =>
    obtain ⟨t, limit, u, -, -, -, -, rfl⟩ := Host.act_expire ha
    exact C.same rfl rfl rfl fun _ => ⟨rfl, rfl⟩
  | cancel other =>
    cases ha
    refine C.same rfl rfl rfl fun stream => ?_
    simp only [Controller.cancel, StreamTable.modify, StreamTable.get_set]
    split
    · next e => exact e ▸ ⟨rfl, rfl⟩
    · exact ⟨rfl, rfl⟩
  | _ =>
    cases ha
    exact C.same rfl rfl rfl fun _ => ⟨rfl, rfl⟩

/-! ## Runs -/

omit [FrameLink L] in
theorem Attended.start (c : Controller L) : (ofController c).Attended :=
  ⟨fun _ _ h => (nomatch h), fun _ h => (List.not_mem_nil h).elim⟩

theorem kept_of_perform {moves : List Move} {s' : Traffic L} (run : s.perform moves = some s')
    (H : Conserves c s ∧ s.Attended) : Conserves c s' ∧ s'.Attended := by
  refine foldlM_preserves (I := fun s => Conserves c s ∧ s.Attended) ?_ run H
  rintro s move s' ⟨C, A⟩ step
  obtain ⟨ok, step⟩ := Option.ite_none_right_eq_some.mp step
  cases move with
  | arrive f =>
    cases step
    exact ⟨C.arrive ok, ⟨A.threads, A.caught⟩⟩
  | act action =>
    obtain ⟨h, ha, rfl⟩ := Option.map_eq_some_iff.mp step
    exact ⟨C.act A ok ha, A.act C.opened ok ha⟩

/-- The receive path stands still only when it has nothing to do or is at a slot that is full. -/
theorem queue_of_stuck (C : Conserves c s)
    (hear : s.host.act (s.arrived.map SoundFrame.octets) .hear = none)
    (pass : s.host.act (s.arrived.map SoundFrame.octets) .pass = none) :
    s.queue = [] ∨ ∃ parcel rest, s.queue = parcel :: rest ∧
      ((s.host.endpoint.slots.get parcel.1).item).isSome := by
  cases held : s.host.endpoint.receiving with
  | none =>
    refine .inl ?_
    simp only [Host.act, held, Option.isSome_none, Bool.false_eq_true, if_false,
      Option.map_eq_none_iff, List.getElem?_eq_none_iff, List.length_map] at hear
    simp [queue, behind, ReceivePath.pending, held, hear]
  | some response =>
    refine .inr ⟨(response.stream, response.body), s.behind.map SoundFrame.parcel, ?_, ?_⟩
    · simp [queue, ReceivePath.pending, held]
    · cases item : (s.host.endpoint.slots.get response.stream).item with
      | some body => rfl
      | none =>
        simp [Host.act, deliver, held, Slot.push, C.opened response.stream, item] at pass

/-- A controller with open slots, as long as it runs and nothing that is in a slot is dropped. What
the waits on a stream have caught, what is in its slot and what is on its way there are together
what was there or on its way at the start and what has arrived since, in order. The receive path
brings responses to their slots in the order in which they have arrived, and stands still only when
it has nothing to do or its next slot is full. Each wait has caught one response on its own stream
and returned what it read in it, payload or error, or has caught none. -/
theorem responses_conserved (opened : ∀ stream, (c.slots.get stream).closed = false)
    {moves : List Move} (run : (ofController c).perform moves = some s) :
    (∀ stream, on stream (s.caught.map Catch.parcel) ++
        (s.host.endpoint.slots.get stream).item.toList ++ on stream s.queue =
      (c.slots.get stream).item.toList ++
        on stream ((ReceivePath.pending c).toList ++ s.arrived.map SoundFrame.parcel)) ∧
    s.queue <:+ (ReceivePath.pending c).toList ++ s.arrived.map SoundFrame.parcel ∧
    (s.host.act (s.arrived.map SoundFrame.octets) .hear = none →
      s.host.act (s.arrived.map SoundFrame.octets) .pass = none →
      s.queue = [] ∨ ∃ parcel rest, s.queue = parcel :: rest ∧
        (s.host.endpoint.slots.get parcel.1).item.isSome) ∧
    (∀ i t, s.host.threads[i]? = some t → Attends (s.caughtBy i) t) ∧
    ∀ x ∈ s.caught, x.thread < s.host.threads.length := by
  obtain ⟨C, A⟩ := kept_of_perform run ⟨.start opened, .start c⟩
  exact ⟨C.reached, C.queue, queue_of_stuck C, A.threads, A.caught⟩

/-! ## Two streams, one of which is blocked -/

/-- A response of status 0 to one command, with one octet. -/
def reply (stream : StreamId) (number b : UInt8) : SoundFrame :=
  let p : Post := ⟨.response, SeqNum.ofLowBits number, stream, [5, 1, 0, 0, b],
    Nat.le_of_ble_eq_true rfl⟩
  ⟨p.octets, p.header, stream, p.payload, Incoming.ofOctets_octets p⟩

/-- Two callers wait on stream 3, the second without room for a payload, and one on stream 4. The
second response blocks the receive path until the first is taken, and meanwhile the caller on stream
4 gives up, so that the last one stays behind the one that then gets there. -/
def crowded : List Move :=
  [.act (.begin (.receive 3 ⟨5, 1, 0⟩ none none)),
    .act (.begin (.receive 3 ⟨5, 1, 0⟩ (some 0) none)),
    .act (.begin (.receive 4 ⟨5, 1, 0⟩ none (some (.ofMillis 10)))),
    .arrive (reply 3 0 0xa1), .arrive (reply 3 1 0xa2), .act .hear, .act .pass, .act .hear,
    .arrive (reply 4 2 0xa3), .act (.expire 2), .arrive (reply 4 5 0xa4), .act (.advance 0),
    .act .pass, .act .hear, .act .pass, .act .hear, .act (.cancel 3), .act (.advance 1)]

theorem responses_conserved_crowded :
    ∃ s : Traffic ScriptedLink,
      (ofController (.start ⟨[], []⟩ ⟨none, .ofMillis 20⟩ 0)).perform crowded = some s ∧
      s.caught = [⟨0, 3, [5, 1, 0, 0, 0xa1]⟩, ⟨1, 3, [5, 1, 0, 0, 0xa2]⟩] ∧
      s.host.threads.map Thread.result = [some (.ok (.payload [0xa1])),
        some (.error (.bufferTooSmall 1 0)), some (.error (.timeout (.ofMillis 10)))] ∧
      s.queue = [(4, [5, 1, 0, 0, 0xa4])] ∧
      on 4 (s.caught.map Catch.parcel) ++ (s.host.endpoint.slots.get 4).item.toList ++
        on 4 s.queue = [[5, 1, 0, 0, 0xa3], [5, 1, 0, 0, 0xa4]] ∧
      ∀ i t, s.host.threads[i]? = some t → Attends (s.caughtBy i) t := by
  obtain ⟨s, run, arrived, caught, results, queue⟩ : ∃ s : Traffic ScriptedLink,
      (ofController (.start ⟨[], []⟩ ⟨none, .ofMillis 20⟩ 0)).perform crowded = some s ∧
      s.arrived.map SoundFrame.parcel = [(3, [5, 1, 0, 0, 0xa1]), (3, [5, 1, 0, 0, 0xa2]),
        (4, [5, 1, 0, 0, 0xa3]), (4, [5, 1, 0, 0, 0xa4])] ∧
      s.caught = [⟨0, 3, [5, 1, 0, 0, 0xa1]⟩, ⟨1, 3, [5, 1, 0, 0, 0xa2]⟩] ∧
      s.host.threads.map Thread.result = [some (.ok (.payload [0xa1])),
        some (.error (.bufferTooSmall 1 0)), some (.error (.timeout (.ofMillis 10)))] ∧
      s.queue = [(4, [5, 1, 0, 0, 0xa4])] :=
    ⟨_, rfl, rfl, rfl, rfl, rfl⟩
  obtain ⟨conserved, -, -, attends, -⟩ := responses_conserved (fun stream => by
    simp [Controller.start, Slot.empty]) run
  refine ⟨s, run, caught, results, queue, ?_, attends⟩
  rw [conserved 4, arrived]
  rfl

end Traffic
end Controller
end CommandLink
