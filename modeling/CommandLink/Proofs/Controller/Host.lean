import CommandLink.Controller.Call
import CommandLink.Proofs.Controller.Hearing
import CommandLink.Proofs.Controller.Speech
import CommandLink.Proofs.Endpoint.Lists

/-! # A controller with its callers

A controller is used by any number of threads at once. `Host` is a controller with the calls that
are under way or have returned, in the order in which they were made, and with what has become of
each attempt to send. `Host.act` is one step: one stretch of one call between two waits, a call that
does not wait, or one move of the receive path. The frames that have arrived so far are given from
outside; `heard` says how many of them the receive path has taken. -/

namespace CommandLink
namespace Controller

/-- A call that may wait, as it is made. -/
inductive Errand
  | request (command : Command) (timeout : Option Duration)
  | receive (stream : StreamId) (expected : CommandId) (capacity : Option Nat)
      (timeout : Option Duration)
  | awaitAgent (timeout : Duration)
  | sync (timeout : Duration)
  deriving DecidableEq

namespace Errand

def call : Errand → Call
  | .request command timeout => .request command timeout
  | .receive stream expected capacity timeout => .listen ⟨stream, expected, capacity, timeout, none⟩
  | .awaitAgent timeout => .awaitAgent timeout
  | .sync timeout => .sync timeout

/-- The command of a request on a stream. -/
def requestOn (stream : StreamId) : Errand → Option Command
  | .request command _ => if command.stream = stream then some command else none
  | _ => none

end Errand

structure Thread where
  errand : Errand
  call : Call
  result : Option (Except EndpointError Answer)

namespace Thread

def ofErrand (errand : Errand) : Thread := ⟨errand, errand.call, none⟩

/-- Takes in what one step of the call comes to, unless the call waits. -/
def take (t : Thread) : Call.Result → Option Thread
  | .done result => some { t with result := some result }
  | .next call => some { t with call := call }
  | .blocked => none

end Thread

/-- What a step of a call attempts to send. -/
def Call.attempts [Datalink L] (c : Controller L) : Call → List Attempt
  | .transmit command _ => [⟨.command command, (c.send command).1⟩]
  | .syncTransmit attempt => [⟨.sync, (c.sendSync attempt.payload).1⟩]
  | _ => []

structure Host (L : Type) where
  endpoint : Controller L
  threads : List Thread
  attempts : List Attempt
  heard : Nat

inductive Action
  /-- Sends a command without waiting for its response. -/
  | send (command : Command)
  | reset
  | begin (errand : Errand)
  /-- The call of a thread goes one step further. -/
  | advance (thread : Nat)
  /-- The time of a waiting call runs out. -/
  | expire (thread : Nat)
  | cancel (stream : StreamId)
  | discard (stream : StreamId)
  /-- Registers and clears event handlers. -/
  | watch (beacon standbyExit : Bool)
  /-- The receive path takes the next frame. -/
  | hear
  /-- The receive path passes on the response that it holds. -/
  | pass
  deriving DecidableEq

namespace Host

/-- A controller that nobody has used yet. -/
def ofController (c : Controller L) : Host L := ⟨c, [], [], 0⟩

/-- Takes a thread one step further. -/
def advance [Datalink L] (h : Host L) (i : Nat) : Option (Host L) :=
  match h.threads[i]? with
  | none => none
  | some t =>
    if t.result.isSome then none
    else
      let (endpoint, progress) := t.call.step h.endpoint
      (t.take progress).map fun t' =>
        { h with
          endpoint := endpoint
          threads := h.threads.set i t'
          attempts := h.attempts ++ t.call.attempts h.endpoint }

/-- Lets the time of a waiting thread run out. -/
def expire (h : Host L) (i : Nat) : Option (Host L) :=
  match h.threads[i]? with
  | none => none
  | some t =>
    if t.result.isSome then none
    else
      match t.call.limit with
      | none => none
      | some limit =>
        (t.take (t.call.expire limit)).map fun t' => { h with threads := h.threads.set i t' }

/-- One step, when the frames `incoming` have arrived so far. -/
def act [Datalink L] (h : Host L) (incoming : List Octets) : Action → Option (Host L)
  | .send command =>
    let (result, c) := h.endpoint.send command
    some { h with endpoint := c, attempts := h.attempts ++ [⟨.command command, result⟩] }
  | .reset =>
    let (result, c) := h.endpoint.resetAgent
    some { h with endpoint := c, attempts := h.attempts ++ [⟨.reset, result⟩] }
  | .begin errand => some { h with threads := h.threads ++ [.ofErrand errand] }
  | .advance i => h.advance i
  | .expire i => h.expire i
  | .cancel stream => some { h with endpoint := h.endpoint.cancel stream }
  | .discard stream => some { h with endpoint := h.endpoint.discard stream }
  | .watch beacon standbyExit =>
    some { h with
      endpoint := { h.endpoint with onBeacon := beacon, onStandbyExit := standbyExit } }
  | .hear =>
    if h.endpoint.receiving.isSome then none
    else
      (incoming[h.heard]?).map fun octets =>
        { h with endpoint := h.endpoint.receive (some octets), heard := h.heard + 1 }
  | .pass => h.endpoint.deliver.map fun c => { h with endpoint := c }

end Host

/-! ## What there is to a step -/

theorem Thread.take_cases {t u : Thread} {progress : Call.Result}
    (h : t.take progress = some u) :
    (∃ result, progress = .done result ∧ u = { t with result := some result }) ∨
      ∃ call, progress = .next call ∧ u = { t with call := call } := by
  unfold take at h
  split at h
  · cases h
    exact .inl ⟨_, rfl, rfl⟩
  · cases h
    exact .inr ⟨_, rfl, rfl⟩
  · cases h

namespace Host

variable [Datalink L] {h h' : Host L} {incoming : List Octets} {i : Nat}

theorem act_advance (ha : h.act incoming (.advance i) = some h') :
    ∃ t u, h.threads[i]? = some t ∧ t.result = none ∧
      t.take (t.call.step h.endpoint).2 = some u ∧
      h' = { h with
        endpoint := (t.call.step h.endpoint).1, threads := h.threads.set i u
        attempts := h.attempts ++ t.call.attempts h.endpoint } := by
  simp only [act, advance] at ha
  split at ha
  · cases ha
  · next t ht =>
    split at ha
    · cases ha
    · next hr =>
      obtain ⟨u, hu, rfl⟩ := Option.map_eq_some_iff.mp ha
      exact ⟨t, u, ht, by simpa using hr, hu, rfl⟩

theorem act_expire (ha : h.act incoming (.expire i) = some h') :
    ∃ t limit u, h.threads[i]? = some t ∧ t.result = none ∧ t.call.limit = some limit ∧
      t.take (t.call.expire limit) = some u ∧ h' = { h with threads := h.threads.set i u } := by
  simp only [act, expire] at ha
  split at ha
  · cases ha
  · next t ht =>
    split at ha
    · cases ha
    · next hr =>
      split at ha
      · cases ha
      · next limit hl =>
        obtain ⟨u, hu, rfl⟩ := Option.map_eq_some_iff.mp ha
        exact ⟨t, limit, u, ht, by simpa using hr, hl, hu, rfl⟩

theorem act_hear (ha : h.act incoming .hear = some h') :
    ∃ octets, incoming[h.heard]? = some octets ∧ h.endpoint.receiving = none ∧
      h' = { h with endpoint := h.endpoint.receive (some octets), heard := h.heard + 1 } := by
  simp only [act] at ha
  split at ha
  · cases ha
  · next free =>
    obtain ⟨octets, hnext, rfl⟩ := Option.map_eq_some_iff.mp ha
    exact ⟨octets, hnext, by simpa using free, rfl⟩

theorem act_hear_post {us : List Post} (ha : h.act (us.map Post.octets) .hear = some h') :
    ∃ p, us[h.heard]? = some p ∧ h.endpoint.receiving = none ∧
      h' = { h with endpoint := h.endpoint.receive (some p.octets), heard := h.heard + 1 } := by
  obtain ⟨octets, hnext, free, rfl⟩ := act_hear ha
  rw [List.getElem?_map] at hnext
  obtain ⟨p, hp, rfl⟩ := Option.map_eq_some_iff.mp hnext
  exact ⟨p, hp, free, rfl⟩

end Host

/-! ## What a step does to the two halves of the controller -/

/-- The receiving half stays as it is, but for the slots. -/
structure Kept (c c' : Controller L) : Prop where
  ear : c'.ear = c.ear
  receiving : c'.receiving = c.receiving
  onStart : c'.onStart = c.onStart
  running : c'.running = c.running

theorem Kept.refl (c : Controller L) : Kept c c := ⟨rfl, rfl, rfl, rfl⟩

section
variable [FrameLink L]

theorem Speech.none {c c' : Controller L} (hl : c'.link = c.link) (ho : c'.outbound = c.outbound)
    (hs : c'.stats = c.stats) : Speech c c' [] [] :=
  .silent (by rw [hl]) ho (by rw [hs])

theorem send_kept (c : Controller L) (command : Command) : Kept c (c.send command).2 := by
  obtain ⟨link, outbound, sent, h⟩ := c.send_eq command
  rw [h]
  exact ⟨rfl, rfl, rfl, rfl⟩

theorem resetAgent_kept (c : Controller L) : Kept c c.resetAgent.2 := by
  obtain ⟨link, outbound, sent, handshake, h⟩ := c.resetAgent_eq
  rw [h]
  exact ⟨rfl, rfl, rfl, rfl⟩

theorem sendSync_kept (c : Controller L) (b : Buffer) : Kept c (c.sendSync b).2 := by
  obtain ⟨link, outbound, sent, h⟩ := c.sendSync_eq b
  rw [h]
  exact ⟨rfl, rfl, rfl, rfl⟩

omit [FrameLink L] in
theorem Call.step_transmit [Datalink L] (c : Controller L) (command : Command)
    (timeout : Option Duration) :
    ((Call.transmit command timeout).step c).1 = (c.send command).2 := by
  simp only [Call.step]
  split <;> next hs => rw [hs]

omit [FrameLink L] in
theorem Call.step_syncTransmit [Datalink L] (c : Controller L) (attempt : SyncAttempt) :
    ((Call.syncTransmit attempt).step c).1 = (c.sendSync attempt.payload).2 := by
  simp only [Call.step]
  split <;> next hs => rw [hs]

/-- A step of a call says what the call attempts, and nothing else. -/
theorem Call.step_speech (c : Controller L) (call : Call) :
    ∃ posts, Speech c (call.step c).1 (call.attempts c) posts := by
  cases call with
  | transmit command timeout =>
    rw [step_transmit]
    exact c.send_speech command
  | syncTransmit attempt =>
    rw [step_syncTransmit]
    exact c.sendSync_speech attempt.payload
  | _ =>
    refine ⟨[], .none ?_ ?_ ?_⟩ <;> simp only [Call.step] <;> (repeat' split) <;> rfl

theorem Call.step_kept (c : Controller L) (call : Call) : Kept c (call.step c).1 := by
  cases call with
  | transmit command timeout =>
    rw [step_transmit]
    exact c.send_kept command
  | syncTransmit attempt =>
    rw [step_syncTransmit]
    exact c.sendSync_kept attempt.payload
  | _ =>
    simp only [Call.step]
    (repeat' split) <;> exact ⟨rfl, rfl, rfl, rfl⟩

namespace Host

/-- How a step may change a controller: callers send, or the receive path takes in a frame or
passes a response on. -/
inductive Effect (incoming : List Octets) (h h' : Host L) : Prop
  | spoke (attempts : List Attempt) (posts : List Post)
      (speech : Speech h.endpoint h'.endpoint attempts posts)
      (kept : Kept h.endpoint h'.endpoint)
      (tried : h'.attempts = h.attempts ++ attempts) (heard : h'.heard = h.heard)
  | heard (octets : Octets) (next : incoming[h.heard]? = some octets)
      (free : h.endpoint.receiving = none)
      (eq : h' = { h with endpoint := h.endpoint.receive (some octets), heard := h.heard + 1 })
  | passed (c : Controller L) (deliver : h.endpoint.deliver = some c)
      (eq : h' = { h with endpoint := c })

theorem act_effect {incoming : List Octets} {h h' : Host L} {action : Action}
    (ha : h.act incoming action = some h') : Effect incoming h h' := by
  cases action with
  | send command =>
    obtain ⟨posts, speech⟩ := h.endpoint.send_speech command
    cases ha
    exact .spoke _ posts speech (h.endpoint.send_kept command) rfl rfl
  | reset =>
    obtain ⟨posts, speech⟩ := h.endpoint.resetAgent_speech
    cases ha
    exact .spoke _ posts speech h.endpoint.resetAgent_kept rfl rfl
  | advance i =>
    obtain ⟨t, u, -, -, -, rfl⟩ := act_advance ha
    obtain ⟨posts, speech⟩ := t.call.step_speech h.endpoint
    exact .spoke _ posts speech (t.call.step_kept h.endpoint) rfl rfl
  | expire i =>
    obtain ⟨t, limit, u, -, -, -, -, rfl⟩ := act_expire ha
    exact .spoke [] [] (.none rfl rfl rfl) (.refl _) (List.append_nil _).symm rfl
  | hear =>
    obtain ⟨octets, next, free, eq⟩ := act_hear ha
    exact .heard octets next free eq
  | pass =>
    obtain ⟨c, hc, rfl⟩ := Option.map_eq_some_iff.mp ha
    exact .passed c hc rfl
  | _ =>
    cases ha
    exact .spoke [] [] (.none rfl rfl rfl) ⟨rfl, rfl, rfl, rfl⟩ (List.append_nil _).symm rfl

theorem attempts_prefix {incoming : List Octets} {h h' : Host L} {action : Action}
    (ha : h.act incoming action = some h') : h.attempts <+: h'.attempts := by
  cases act_effect ha with
  | spoke attempts posts speech kept tried => exact ⟨attempts, tried.symm⟩
  | heard octets next free eq => exact eq ▸ List.prefix_refl _
  | passed c deliver eq => exact eq ▸ List.prefix_refl _

theorem heard_le_act {incoming : List Octets} {h h' : Host L} {action : Action}
    (ha : h.act incoming action = some h') : h.heard ≤ h'.heard := by
  cases act_effect ha with
  | spoke attempts posts speech kept tried heard => exact Nat.le_of_eq heard.symm
  | heard octets next free eq => exact eq ▸ Nat.le_succ _
  | passed c deliver eq => exact eq ▸ Nat.le_refl _

end Host
end

/-! ## What is asked for -/

/-- The command that a call has still to send. -/
def Call.command? : Call → Option Command
  | .discard command _ | .transmit command _ => some command
  | _ => none

/-- The command that an action brings. -/
def Action.command? : Action → Option Command
  | .send command | .begin (.request command _) => some command
  | _ => none

namespace Host

/-- Every command that was attempted or is going to be is one of `P`. -/
structure Asks (P : Command → Prop) (h : Host L) : Prop where
  threads : ∀ t ∈ h.threads, ∀ command, t.call.command? = some command → P command
  attempts : ∀ a ∈ h.attempts, ∀ command, a.message = .command command → P command

variable {P : Command → Prop} {h h' : Host L}

theorem Asks.take (A : h.Asks P) {t t' : Thread} (ht : t ∈ h.threads) {i : Nat}
    {progress : Call.Result} (htake : t.take progress = some t')
    (onward : ∀ call, progress = .next call →
      ∀ command, call.command? = some command → t.call.command? = some command) :
    ∀ u ∈ h.threads.set i t', ∀ command, u.call.command? = some command → P command := by
  intro u hu command hc
  rcases List.mem_or_eq_of_mem_set hu with hu | rfl
  · exact A.threads u hu command hc
  · rcases Thread.take_cases htake with ⟨result, -, rfl⟩ | ⟨call, hcall, rfl⟩
    · exact A.threads t ht command hc
    · exact A.threads t ht command (onward call hcall command hc)

theorem Call.command?_step [Datalink L] (c : Controller L) (call call' : Call)
    (h : (call.step c).2 = .next call') (command : Command) (hc : call'.command? = some command) :
    call.command? = some command := by
  cases call with
  | discard command' timeout =>
    cases h
    exact hc
  | _ =>
    simp only [Call.step] at h
    (repeat' split at h) <;> cases h <;> cases hc

/-- A step asks for no command but the one that its action brings. -/
theorem Asks.act [Datalink L] (A : h.Asks P) {incoming : List Octets} {action : Action}
    (ha : h.act incoming action = some h')
    (hP : ∀ command, action.command? = some command → P command) : h'.Asks P := by
  cases action with
  | send command =>
    cases ha
    refine ⟨A.threads, fun a hm c hc => ?_⟩
    rcases mem_or_eq_of_mem_concat hm with hm | rfl
    · exact A.attempts a hm c hc
    · cases hc
      exact hP command rfl
  | reset =>
    cases ha
    refine ⟨A.threads, fun a hm c hc => ?_⟩
    rcases mem_or_eq_of_mem_concat hm with hm | rfl
    · exact A.attempts a hm c hc
    · cases hc
  | begin errand =>
    cases ha
    refine ⟨fun t ht c hc => ?_, A.attempts⟩
    rcases mem_or_eq_of_mem_concat ht with ht | rfl
    · exact A.threads t ht c hc
    · cases errand with
      | request command timeout => exact hP c hc
      | _ => cases hc
  | advance i =>
    obtain ⟨t, u, ht, -, htake, rfl⟩ := act_advance ha
    have mem := List.mem_of_getElem? ht
    refine ⟨A.take mem htake fun call hcall => Call.command?_step _ _ _ hcall,
      fun a hm c hc => ?_⟩
    rcases List.mem_append.mp hm with hm | hm
    · exact A.attempts a hm c hc
    · refine A.threads t mem c ?_
      cases hcall : t.call with
      | transmit command timeout =>
        rw [hcall] at hm
        rw [List.mem_singleton.mp hm] at hc
        cases hc
        rfl
      | syncTransmit attempt =>
        rw [hcall] at hm
        rw [List.mem_singleton.mp hm] at hc
        cases hc
      | _ =>
        rw [hcall] at hm
        cases hm
  | expire i =>
    obtain ⟨t, limit, u, ht, -, hlimit, htake, rfl⟩ := act_expire ha
    refine ⟨A.take (List.mem_of_getElem? ht) htake fun call hcall c hc => ?_, A.attempts⟩
    cases hcall' : t.call <;> rw [hcall'] at hcall hlimit <;> cases hcall
    cases hc
  | hear =>
    obtain ⟨octets, -, -, rfl⟩ := act_hear ha
    exact ⟨A.threads, A.attempts⟩
  | pass =>
    obtain ⟨c, -, rfl⟩ := Option.map_eq_some_iff.mp ha
    exact ⟨A.threads, A.attempts⟩
  | _ =>
    cases ha
    exact ⟨A.threads, A.attempts⟩

end Host
end Controller
end CommandLink
