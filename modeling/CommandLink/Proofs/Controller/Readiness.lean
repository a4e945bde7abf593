import CommandLink.Proofs.Controller.Malformed
import CommandLink.Proofs.Wire.Post

/-! # When a controller takes its agent for ready

Of all that happens to a controller three things decide what it knows of its agent's start
(`Milestone`): a start notification is processed, a request to reset leaves, a start callback is
registered. A failed request to reset leaves no trace, and neither does anything else. So after any
run the state of the handshake, the count of starts and what the callbacks were told are those of
the milestones in the run, in their order (`Site.readiness`). -/

namespace CommandLink

theorem FrameKind.ofCode?_eq_some_iff {code : UInt8} {kind : FrameKind} :
    ofCode? code = some kind ↔ code = kind.code := by
  constructor
  · intro h
    unfold ofCode? at h
    split at h <;> cases h <;> rfl
  · rintro rfl
    exact ofCode?_code kind

/-- The octets hold a start notification for a stream that exists, with at least the payload that it
declares. -/
def announcesStart : Octets → Bool
  | first :: stream :: lo :: hi :: body =>
    first.toNat / 16 == 5 && decide (stream.toNat < 32) &&
      decide ((Octets.word16 lo hi).toNat ≤ body.length)
  | _ => false

theorem announcesStart_iff {octets : Octets} :
    announcesStart octets = true ↔ kindIn octets = some .agentStart := by
  rcases octets with _ | ⟨first, _ | ⟨id, _ | ⟨lo, _ | ⟨hi, body⟩⟩⟩⟩
  iterate 4
    · simp [announcesStart, kindIn, Incoming.ofOctets]
  have code : UInt8.ofNat (first.toNat / 16) = FrameKind.agentStart.code ↔
      first.toNat / 16 = 5 := by
    have := first.toNat_lt
    rw [← UInt8.toNat_inj, UInt8.toNat_ofNat']
    simp only [FrameKind.code, UInt8.reduceToNat]
    omega
  have known := StreamId.ofOctet?_eq_none_iff (b := id)
  simp only [announcesStart, kindIn, Incoming.ofOctets]
  cases ho : StreamId.ofOctet? id with
  | none =>
    have unknown := known.mp ho
    simp [Nat.not_lt.mpr unknown]
  | some stream =>
    have lt : id.toNat < 32 := Nat.lt_of_not_le fun out => by simp [known.mpr out] at ho
    by_cases short : body.length < (Octets.word16 lo hi).toNat
    · simp [short, Nat.not_le.mpr short]
    · simp [short, Nat.le_of_not_lt short, lt, FrameKind.ofCode?_eq_some_iff, code]

/-! ## Milestones -/

/-- What a callback was told, if it was told of a start. -/
def Callback.start? : Callback → Option Handshake
  | .agentStarted handshake => some handshake
  | _ => none

inductive Milestone
  /-- A start notification is processed. -/
  | started
  /-- A request to reset leaves. -/
  | asked
  /-- A start callback is registered, in place of any other. -/
  | hooked
  deriving DecidableEq

/-- What a controller knows of its agent's starts, and what it has told its callbacks of them. -/
structure Greeting where
  handshake : Handshake
  /-- A callback is registered. -/
  hooked : Bool
  told : List Handshake

/-- There is a start, and no request to reset behind it. -/
def StartedLast (ms : List Milestone) : Prop :=
  ∃ before after, ms = before ++ .started :: after ∧ .asked ∉ after

theorem startedLast_nil : ¬ StartedLast [] := by
  rintro ⟨before, after, split, -⟩
  simp at split

theorem startedLast_cons {m : Milestone} {ms : List Milestone} :
    StartedLast (m :: ms) ↔ StartedLast ms ∨ m = .started ∧ .asked ∉ ms := by
  constructor
  · rintro ⟨before, after, split, unasked⟩
    rcases List.cons_eq_append_iff.mp split with ⟨-, here⟩ | ⟨before, -, rfl⟩
    · cases here
      exact .inr ⟨rfl, unasked⟩
    · exact .inl ⟨before, after, rfl, unasked⟩
  · rintro (⟨before, after, rfl, unasked⟩ | ⟨rfl, unasked⟩)
    · exact ⟨m :: before, after, rfl, unasked⟩
    · exact ⟨[], ms, rfl, unasked⟩

namespace Greeting

/-- Nothing has happened yet. -/
def fresh : Greeting := ⟨⟨.awaiting, 0⟩, false, []⟩

def meet (g : Greeting) : Milestone → Greeting
  | .started =>
    { g with
      handshake := g.handshake.started
      told := if g.hooked then g.told ++ [g.handshake.started] else g.told }
  | .asked => { g with handshake := g.handshake.await }
  | .hooked => { g with hooked := true }

/-- What becomes of it past milestones. -/
def past (g : Greeting) (milestones : List Milestone) : Greeting := milestones.foldl meet g

variable {g : Greeting} {ms : List Milestone}

@[simp] theorem past_nil : g.past [] = g := rfl

@[simp] theorem past_cons (m : Milestone) : g.past (m :: ms) = (g.meet m).past ms := rfl

theorem past_append (ms ns : List Milestone) : g.past (ms ++ ns) = (g.past ms).past ns :=
  List.foldl_append

/-- From a start on the agent is ready, until it is asked to reset. -/
theorem state_past (ms : List Milestone) : (g.past ms).handshake.state = .ready ↔
    StartedLast ms ∨ g.handshake.state = .ready ∧ .asked ∉ ms := by
  induction ms generalizing g with
  | nil => simp [startedLast_nil]
  | cons m ms ih =>
    rw [past_cons, ih, startedLast_cons, or_assoc]
    refine or_congr_right ?_
    cases m with
    | started => simp [meet, Handshake.started]
    | asked => simp [meet, Handshake.await]
    | hooked => simp [meet]

theorem starts_past (ms : List Milestone) :
    (g.past ms).handshake.starts = g.handshake.starts + ms.count .started := by
  induction ms generalizing g with
  | nil => rfl
  | cons m ms ih =>
    rw [past_cons, ih]
    cases m with
    | started => simp [meet, Handshake.started, Nat.add_comm, Nat.add_left_comm]
    | _ => rfl

/-- The `n` starts behind the first `k`, as a callback is told of them. -/
def tales (k n : Nat) : List Handshake := (List.range' (k + 1) n).map fun i => ⟨.ready, i⟩

theorem tales_succ (k n : Nat) : tales k (n + 1) = ⟨.ready, k + 1⟩ :: tales (k + 1) n := by
  simp [tales, List.range'_succ]

theorem told_past_of_hooked (h : g.hooked = true) (ms : List Milestone) :
    (g.past ms).told = g.told ++ tales g.handshake.starts (ms.count .started) := by
  induction ms generalizing g with
  | nil => simp [tales]
  | cons m ms ih =>
    rw [past_cons]
    cases m with
    | started =>
      rw [ih (by exact h), List.count_cons_self, tales_succ]
      simp [meet, h, Handshake.started]
    | asked => exact ih (by exact h)
    | hooked => exact ih rfl

/-- No callback is told of a start before the first was registered, and then it is told of each. -/
theorem told_past (h : g.hooked = false) (ms : List Milestone) :
    (g.past ms).told = g.told ++
      tales (g.handshake.starts + (ms.takeWhile (· ≠ .hooked)).count .started)
        ((ms.dropWhile (· ≠ .hooked)).count .started) := by
  induction ms generalizing g with
  | nil => simp [tales]
  | cons m ms ih =>
    rw [past_cons]
    cases m with
    | started =>
      rw [ih (by exact h)]
      simp [meet, h, Handshake.started, Nat.add_comm, Nat.add_assoc]
    | asked =>
      rw [ih (by exact h)]
      rfl
    | hooked => exact told_past_of_hooked rfl ms

end Greeting

/-! ## Which steps are milestones -/

namespace Controller

variable {L : Type}

def greeting (c : Controller L) : Greeting :=
  ⟨c.handshake, c.onStart.isSome, c.log.filterMap Callback.start?⟩

section
variable (c : Controller L)

theorem greeting_record (callback : Callback) (h : callback.start? = none) :
    (c.record callback).greeting = c.greeting := by
  simp [greeting, record, h]

theorem greeting_dispatchEvent (stream : StreamId) (payload : Octets) :
    (c.dispatchEvent stream payload).greeting = c.greeting := by
  simp only [dispatchEvent]
  (repeat' split) <;> first
    | rfl
    | exact c.greeting_record (.beacon _) rfl
    | exact c.greeting_record (.standbyExit _) rfl

theorem greeting_acceptSync (payload : Octets) :
    (c.acceptSync payload).greeting = c.greeting := by
  unfold acceptSync
  (repeat' split) <;> rfl

theorem greeting_deliver {c' : Controller L} (h : c.deliver = some c') :
    c'.greeting = c.greeting := by
  unfold deliver at h
  split at h
  · cases h
  · split at h <;> cases h <;> rfl

variable [Datalink L]

theorem greeting_deinit : c.deinit.greeting = c.greeting := by
  unfold deinit
  split <;> rfl

theorem greeting_sendFrame (kind : FrameKind) (seq : SeqNum) (stream : StreamId) (b : Buffer) :
    (c.sendFrame kind seq stream b).2.greeting = c.greeting := by
  unfold sendFrame
  (repeat' split) <;> rfl

theorem greeting_send (command : Command) : (c.send command).2.greeting = c.greeting := by
  unfold send
  split
  · rfl
  · exact greeting_sendFrame { c with outbound := c.outbound.commit c.outbound.peek } _ _ _ _

theorem greeting_sendSync (b : Buffer) : (c.sendSync b).2.greeting = c.greeting :=
  greeting_sendFrame
    { c with outbound := c.outbound.commit (c.outbound.lastSent.getD SeqNum.first) } _ _ _ _

/-- A request to reset that fails, at whatever point, leaves the handshake as it was. -/
theorem resetAgent_greets :
    (c.resetAgent.1 = .ok () ∧ c.resetAgent.2.greeting = c.greeting.meet .asked) ∨
      ∃ e, c.resetAgent.1 = .error e ∧ c.resetAgent.2.greeting = c.greeting := by
  unfold resetAgent
  split
  · next e _ => exact .inr ⟨e, rfl, rfl⟩
  · next b _ =>
    have sent := greeting_sendFrame { c with
      outbound := c.outbound.commit c.outbound.peek, handshake := c.handshake.await } .agentReset
      c.outbound.peek StreamId.control b
    simp only [Outbound.advance]
    generalize sendFrame ({ c with
      outbound := c.outbound.commit c.outbound.peek
      handshake := c.handshake.await } : Controller L)
      .agentReset c.outbound.peek StreamId.control b = outcome at sent ⊢
    obtain ⟨result, c'⟩ := outcome
    cases result with
    | ok _ => exact .inl ⟨rfl, sent⟩
    | error e =>
      refine .inr ⟨e, rfl, ?_⟩
      have awaiting : c'.handshake = c.handshake.await := congrArg Greeting.handshake sent
      have hooked : c'.onStart.isSome = c.onStart.isSome := congrArg Greeting.hooked sent
      have told : c'.log.filterMap Callback.start? = c.log.filterMap Callback.start? :=
        congrArg Greeting.told sent
      have restored : c'.handshake.restore c.handshake.state = c.handshake := by
        rw [awaiting]
        rfl
      simp [greeting, hooked, told, restored]

theorem Call.greeting_step (call : Call) : (call.step c).1.greeting = c.greeting := by
  cases call with
  | transmit command timeout =>
    have sent := c.greeting_send command
    simp only [step]
    split <;> next h => rwa [h] at sent
  | syncTransmit attempt =>
    have sent := c.greeting_sendSync attempt.payload
    simp only [step]
    split <;> next h => rwa [h] at sent
  | _ =>
    simp only [step]
    (repeat' split) <;> rfl

theorem greeting_agentStarted : c.agentStarted.greeting = c.greeting.meet .started := by
  unfold agentStarted
  simp only
  split
  · next unhooked => simp [greeting, Greeting.meet, unhooked]
  · next hook hooked =>
    have told : (({ c with handshake := c.handshake.started } : Controller L).record
        (.agentStarted c.handshake.started)).greeting = c.greeting.meet .started := by
      simp [greeting, Greeting.meet, record, hooked, Callback.start?]
    split
    · exact told
    · next command _ =>
      rw [greeting_record _ _ rfl, greeting_send, told]

theorem greeting_accept (header : Header) (stream : StreamId) (payload : Octets) :
    (c.accept header stream payload).greeting =
      if FrameKind.ofCode? header.kind = some .agentStart then c.greeting.meet .started
      else c.greeting := by
  unfold accept
  simp only
  by_cases start : FrameKind.ofCode? header.kind = some .agentStart
  · simp only [start, ne_eq, not_true_eq_false, and_false, if_false, reduceCtorEq,
      Option.some.injEq, dispatch, if_true]
    exact c.greeting_agentStarted
  · rw [if_neg start]
    split
    · rfl
    · split
      · rfl
      · show (c.dispatch _ stream payload).greeting = c.greeting
        unfold dispatch
        split
        · exact c.greeting_dispatchEvent stream payload
        · next is => exact absurd is start
        · exact c.greeting_acceptSync payload
        · rfl

/-- Start notifications are milestones whatever their numbers, and nothing else that arrives is. -/
theorem greeting_receive (buffer : Option Octets) : (c.receive buffer).greeting =
    if buffer.any announcesStart then c.greeting.meet .started else c.greeting := by
  cases buffer with
  | none => rfl
  | some octets =>
    simp only [receive, Option.any_some, announcesStart_iff, kindIn]
    cases Incoming.ofOctets octets with
    | frame header stream payload =>
      exact greeting_accept { c with stats := c.stats.countReceived } header stream payload
    | _ => rfl

end

variable [Datalink L]

namespace Host

/-- What an action comes to, when the frames `incoming` have arrived so far. -/
def milestone? (incoming : List Octets) (h : Host L) : Action → Option Milestone
  | .reset => if h.endpoint.resetAgent.1.isOk then some .asked else none
  | .hear => if (incoming[h.heard]?).any announcesStart then some .started else none
  | _ => none

theorem greeting_act {h h' : Host L} {incoming : List Octets} {action : Action}
    (ha : h.act incoming action = some h') :
    h'.endpoint.greeting = h.endpoint.greeting.past (h.milestone? incoming action).toList := by
  cases action with
  | send command =>
    cases ha
    exact h.endpoint.greeting_send command
  | reset =>
    cases ha
    rcases h.endpoint.resetAgent_greets with ⟨ok, met⟩ | ⟨e, failed, same⟩
    · rw [milestone?, ok]
      exact met
    · rw [milestone?, failed]
      exact same
  | advance i =>
    obtain ⟨t, u, -, -, -, rfl⟩ := act_advance ha
    exact t.call.greeting_step h.endpoint
  | expire i =>
    obtain ⟨t, limit, u, -, -, -, -, rfl⟩ := act_expire ha
    rfl
  | hear =>
    obtain ⟨octets, next, -, rfl⟩ := act_hear ha
    simp only [greeting_receive, milestone?, next]
    split <;> rfl
  | pass =>
    obtain ⟨c, delivered, rfl⟩ := Option.map_eq_some_iff.mp ha
    exact h.endpoint.greeting_deliver delivered
  | _ =>
    cases ha
    rfl

/-- What makes the agent ready is a start notification that is heard. -/
theorem ready_act {h h' : Host L} {incoming : List Octets} {action : Action}
    (ha : h.act incoming action = some h')
    (ready : h'.endpoint.handshake.state = .ready) :
    h.endpoint.handshake.state = .ready ∨
      ∃ octets, incoming[h.heard]? = some octets ∧ kindIn octets = some .agentStart ∧
        h'.heard = h.heard + 1 := by
  have state : (h.endpoint.greeting.past
      (h.milestone? incoming action).toList).handshake.state = .ready := by
    rw [← greeting_act ha]
    exact ready
  rcases (Greeting.state_past _).mp state with ⟨before, after, met, -⟩ | ⟨before, -⟩
  · have started : h.milestone? incoming action = some .started := by
      cases hm : h.milestone? incoming action with
      | none => simp [hm] at met
      | some m =>
        rw [hm, Option.toList_some, eq_comm, List.append_eq_singleton_iff] at met
        simp at met
        rw [met.2.1]
    right
    cases action with
    | hear =>
      obtain ⟨octets, next, -, rfl⟩ := act_hear ha
      refine ⟨octets, next, announcesStart_iff.mp ?_, rfl⟩
      simpa [milestone?, next] using started
    | reset =>
      simp only [milestone?] at started
      split at started <;> cases started
    | _ => cases started
  · exact .inl before

end Host

namespace Site

variable {s t : Site L} {buffers : List (Option Octets)} {deeds : List Deed}

/-- What a step comes to. -/
def milestone? (buffers : List (Option Octets)) (s : Site L) : Deed → Option Milestone
  | .act action => s.host.milestone? [] action
  | .hear => if (buffers[s.host.heard]?).any (·.any announcesStart) then some .started else none
  | .onStart _ => some .hooked
  | _ => none

/-- The milestones in a run, in their order. -/
def milestones (buffers : List (Option Octets)) (s : Site L) : List Deed → List Milestone
  | [] => []
  | deed :: deeds =>
    match s.act buffers deed with
    | some t => (s.milestone? buffers deed).toList ++ t.milestones buffers deeds
    | none => []

theorem greeting_act {deed : Deed} (ha : s.act buffers deed = some t) :
    t.host.endpoint.greeting =
      s.host.endpoint.greeting.past (s.milestone? buffers deed).toList := by
  cases deed with
  | act action =>
    obtain ⟨h, hh, rfl⟩ := Option.map_eq_some_iff.mp ha
    exact Host.greeting_act hh
  | hear =>
    obtain ⟨-, ha⟩ := Option.ite_none_left_eq_some.mp ha
    obtain ⟨buffer, next, rfl⟩ := Option.map_eq_some_iff.mp ha
    simp only [greeting_receive, milestone?, next, Option.any_some]
    split <;> rfl
  | openStream stream =>
    simp only [act, openStream] at ha
    split at ha
    · next free =>
      split at free <;> cases free
      cases ha
      rfl
    · cases ha
      rfl
  | deinit =>
    cases ha
    exact greeting_deinit _
  | _ =>
    cases ha
    rfl

theorem greeting_perform (run : s.perform buffers deeds = some t) :
    t.host.endpoint.greeting = s.host.endpoint.greeting.past (s.milestones buffers deeds) := by
  induction deeds generalizing s with
  | nil =>
    cases run
    rfl
  | cons deed deeds ih =>
    rw [perform_cons] at run
    obtain ⟨u, ha, later⟩ := Option.bind_eq_some_iff.mp run
    rw [ih later, greeting_act ha, ← Greeting.past_append]
    simp only [milestones, ha]

/-- The start notifications among the buffers that were taken so far. -/
def startsIn (buffers : List (Option Octets)) (s : Site L) : Nat :=
  (buffers.take s.host.heard).countP (·.any announcesStart)

theorem startsIn_act {deed : Deed} (ha : s.act buffers deed = some t) :
    t.startsIn buffers =
      s.startsIn buffers + (s.milestone? buffers deed).toList.count .started := by
  by_cases hears : deed = .hear
  · subst hears
    obtain ⟨-, taken⟩ := Option.ite_none_left_eq_some.mp ha
    obtain ⟨buffer, next, -⟩ := Option.map_eq_some_iff.mp taken
    rw [startsIn, heard_hear ha, take_succ_of_getElem? next, List.countP_append, startsIn]
    simp only [milestone?, next, Option.any_some, List.countP_singleton]
    split <;> rfl
  · have other : (s.milestone? buffers deed).toList.count .started = 0 := by
      cases deed with
      | hear => exact absurd rfl hears
      | act action =>
        cases action with
        | reset =>
          simp only [milestone?, Host.milestone?]
          split <;> rfl
        | _ => rfl
      | _ => rfl
    rw [startsIn, heard_act_of_ne hears ha, other]
    rfl

theorem startsIn_perform (run : s.perform buffers deeds = some t) :
    t.startsIn buffers = s.startsIn buffers + (s.milestones buffers deeds).count .started := by
  induction deeds generalizing s with
  | nil =>
    cases run
    rfl
  | cons deed deeds ih =>
    rw [perform_cons] at run
    obtain ⟨u, ha, later⟩ := Option.bind_eq_some_iff.mp run
    rw [ih later, startsIn_act ha, Nat.add_assoc, ← List.count_append]
    simp only [milestones, ha]

/-- After any run of a controller, whatever arrives and whatever becomes of the requests to reset:
the agent is taken for ready exactly if a start notification was processed and no request to reset
has left since. The start notifications are counted, and the callback was told of each one since it
was registered, whatever the number of its frame. -/
theorem readiness (link : L) (config : ControllerConfig) (seed : UInt32)
    (run : (ofController (.start link config seed)).perform buffers deeds = some s) :
    let ms := (ofController (.start link config seed)).milestones buffers deeds
    (s.host.endpoint.handshake.state = .ready ↔
      ∃ before after, ms = before ++ .started :: after ∧ .asked ∉ after) ∧
    s.host.endpoint.handshake.starts = ms.count .started ∧
    ms.count .started = (buffers.take s.host.heard).countP (·.any announcesStart) ∧
    s.host.endpoint.log.filterMap Callback.start? =
      (List.range' ((ms.takeWhile (· ≠ .hooked)).count .started + 1)
        ((ms.dropWhile (· ≠ .hooked)).count .started)).map fun i => ⟨.ready, i⟩ := by
  intro ms
  have reached : s.host.endpoint.greeting = Greeting.fresh.past ms := greeting_perform run
  have counted : startsIn buffers s = 0 + ms.count .started := by
    have none_yet : (ofController (.start link config seed)).startsIn buffers = 0 := rfl
    rw [← none_yet]
    exact startsIn_perform run
  have starts := Greeting.starts_past (g := .fresh) ms
  have state := Greeting.state_past (g := .fresh) ms
  have told := Greeting.told_past (g := .fresh) rfl ms
  rw [← reached] at state starts told
  refine ⟨state.trans (or_iff_left fun ready => nomatch ready.1), ?_, ?_, ?_⟩
  · rw [Greeting.fresh, Nat.zero_add] at starts
    exact starts
  · rw [Nat.zero_add] at counted
    exact counted.symm
  · rw [Greeting.fresh, List.nil_append, Nat.zero_add] at told
    exact told

/-! ## Starts of every sort -/

/-- Start notifications, the second under the number of the first and the third for another stream,
among buffers that hold none: a start notification for no stream, one that declares too much, no
buffer, and an event. -/
def starts : List (Option Octets) :=
  [some [0x50, 0, 0, 0], some [0x51, 32, 0, 0], some [0x50, 0, 0, 0], some [0x51, 0, 9, 0, 1],
    none, some [0x21, 0, 4, 0, 2, 1, 0, 0], some [0x57, 5, 1, 0, 9]]

/-- A request to reset fails, a callback is registered between the first start and the second, and
another request leaves. -/
def resets : List Deed :=
  [.hear, .act .reset, .hear, .onStart ⟨some ⟨StreamId.control, ⟨5, 2, 0⟩, []⟩⟩, .hear,
    .act .reset, .hear, .hear, .hear]

/-- The controller awaits the agent behind the second request, until the last start. -/
theorem readiness_resets :
    ∃ s t : Site ScriptedLink,
      (ofController (.start ⟨[true], []⟩ ⟨none, .ofMillis 20⟩ 0)).perform starts resets = some s ∧
      s.host.attempts.map Attempt.outcome = [.error (.link .disconnected), .ok ()] ∧
      s.host.endpoint.handshake = ⟨.awaiting, 2⟩ ∧
      (ofController (.start ⟨[true], []⟩ ⟨none, .ofMillis 20⟩ 0)).perform starts
        (resets ++ [.hear]) = some t ∧
      t.host.endpoint.handshake = ⟨.ready, 3⟩ ∧
      t.host.endpoint.log.filterMap Callback.start? = [⟨.ready, 2⟩, ⟨.ready, 3⟩] := by
  obtain ⟨s, run, attempts, handshake⟩ : ∃ s : Site ScriptedLink,
      (ofController (.start ⟨[true], []⟩ ⟨none, .ofMillis 20⟩ 0)).perform starts resets = some s ∧
      s.host.attempts.map Attempt.outcome = [.error (.link .disconnected), .ok ()] ∧
      s.host.endpoint.handshake = ⟨.awaiting, 2⟩ := ⟨_, rfl, rfl, rfl⟩
  obtain ⟨t, run', heard⟩ : ∃ t : Site ScriptedLink,
      (ofController (.start ⟨[true], []⟩ ⟨none, .ofMillis 20⟩ 0)).perform starts
        (resets ++ [.hear]) = some t ∧ t.host.heard = 7 := ⟨_, rfl, rfl⟩
  have ms : (ofController (.start (⟨[true], []⟩ : ScriptedLink) ⟨none, .ofMillis 20⟩ 0)).milestones
    starts (resets ++ [.hear]) = [.started, .hooked, .started, .asked, .started] := rfl
  obtain ⟨state, counted, -, told⟩ :=
    readiness (⟨[true], []⟩ : ScriptedLink) ⟨none, .ofMillis 20⟩ 0 run'
  rw [ms] at state counted told
  refine ⟨s, t, run, attempts, handshake, run', ?_, told⟩
  have ready := state.mpr ⟨[.started, .hooked, .started, .asked], [], rfl, List.not_mem_nil⟩
  calc t.host.endpoint.handshake
    _ = ⟨t.host.endpoint.handshake.state, t.host.endpoint.handshake.starts⟩ := rfl
    _ = ⟨.ready, 3⟩ := by
      rw [ready, counted]
      rfl

end Site
end Controller
end CommandLink
