import CommandLink.Proofs.Controller.Host

/-! # Malformed buffers

A malformed buffer (`Malformed`) does nothing to a controller but count. The counts of what was
received and dropped have no influence on anything else: every operation does the same to a
controller with other counts (`recount`). So a run is the same run with malformed buffers inserted
anywhere among those that arrive: it is the run without them, step for step, in all but these two
counts (`Site.malformed_without_influence`). -/

namespace CommandLink

/-- What the link hands over without a sound frame in it. -/
inductive Malformed : Option Octets → Prop
  | null : Malformed none
  | short {octets : Octets} (h : octets.length < Header.size) : Malformed (some octets)
  | badStream (first stream : UInt8) (rest : Octets) (h : 32 ≤ stream.toNat) :
      Malformed (some (first :: stream :: rest))
  | overLength (first stream lo hi : UInt8) (body : Octets)
      (h : body.length < (Octets.word16 lo hi).toNat) :
      Malformed (some (first :: stream :: lo :: hi :: body))

/-- Exactly the buffers in which an endpoint finds no frame are malformed. -/
theorem malformed_iff {octets : Octets} : Malformed (some octets) ↔
    ∀ header stream payload, Incoming.ofOctets octets ≠ .frame header stream payload := by
  constructor
  · intro h header stream payload found
    unfold Incoming.ofOctets at found
    split at found
    · next first id lo hi body =>
      cases h with
      | short h =>
        simp only [List.length_cons, Header.size] at h
        omega
      | badStream first id rest h =>
        rw [StreamId.ofOctet?_eq_none_iff.mpr h] at found
        cases found
      | overLength first id lo hi body h =>
        split at found
        · cases found
        · rw [if_pos h] at found
          cases found
    · cases found
  · intro unsound
    rcases octets with _ | ⟨first, _ | ⟨id, _ | ⟨lo, _ | ⟨hi, body⟩⟩⟩⟩
    iterate 4
      · exact .short (by simp [Header.size])
    by_cases hs : 32 ≤ id.toNat
    · exact .badStream first id _ hs
    by_cases hl : body.length < (Octets.word16 lo hi).toNat
    · exact .overLength first id lo hi body hl
    cases ho : StreamId.ofOctet? id with
    | none => exact absurd (StreamId.ofOctet?_eq_none_iff.mp ho) hs
    | some stream =>
      have found := unsound ⟨UInt8.ofNat (first.toNat / 16), SeqNum.ofLowBits first, id,
        Octets.word16 lo hi⟩ stream (body.take (Octets.word16 lo hi).toNat)
      simp only [Incoming.ofOctets, ho] at found
      exact absurd (if_neg hl) found

/-- Counts that buffers without a sound frame add up to. -/
structure Tally where
  received : Nat
  dropped : Nat

namespace Tally

def zero : Tally := ⟨0, 0⟩

def plus (t u : Tally) : Tally := ⟨t.received + u.received, t.dropped + u.dropped⟩

/-- The counts of one malformed buffer. -/
def ofBuffer (buffer : Option Octets) : Tally := ⟨if buffer.isSome then 1 else 0, 1⟩

end Tally

def LinkStats.add (s : LinkStats) (t : Tally) : LinkStats :=
  { s with received := s.received + t.received, dropped := s.dropped + t.dropped }

namespace Controller

variable {L : Type}

/-- A controller that has counted more. -/
def recount (t : Tally) (c : Controller L) : Controller L := { c with stats := c.stats.add t }

/-! ## Nothing depends on these counts -/

section
variable (t u : Tally) (c : Controller L)

@[simp] theorem running_recount : (c.recount t).running = c.running := rfl

@[simp] theorem inbound_recount : (c.recount t).inbound = c.inbound := rfl

@[simp] theorem slots_recount : (c.recount t).slots = c.slots := rfl

@[simp] theorem held_recount : (c.recount t).held = c.held := rfl

@[simp] theorem onBeacon_recount : (c.recount t).onBeacon = c.onBeacon := rfl

@[simp] theorem onStandbyExit_recount : (c.recount t).onStandbyExit = c.onStandbyExit := rfl

@[simp] theorem onStart_recount : (c.recount t).onStart = c.onStart := rfl

@[simp] theorem handshake_recount : (c.recount t).handshake = c.handshake := rfl

@[simp] theorem syncing_recount : (c.recount t).syncing = c.syncing := rfl

@[simp] theorem syncSlot_recount : (c.recount t).syncSlot = c.syncSlot := rfl

@[simp] theorem pendingToken_recount : (c.recount t).pendingToken = c.pendingToken := rfl

@[simp] theorem receiving_recount : (c.recount t).receiving = c.receiving := rfl

theorem recount_recount : (c.recount u).recount t = c.recount (t.plus u) := by
  simp [recount, LinkStats.add, Tally.plus, Nat.add_comm, Nat.add_left_comm]

theorem openStream_recount (stream : StreamId) :
    (c.recount t).openStream stream = (c.openStream stream).map (recount t) := by
  unfold openStream
  rw [held_recount]
  split <;> rfl

theorem dispatchEvent_recount (stream : StreamId) (payload : Octets) :
    (c.recount t).dispatchEvent stream payload = (c.dispatchEvent stream payload).recount t := by
  simp only [dispatchEvent]
  rw [onBeacon_recount, onStandbyExit_recount]
  (repeat' split) <;> rfl

theorem acceptSync_recount (payload : Octets) :
    (c.recount t).acceptSync payload = (c.acceptSync payload).recount t := by
  unfold acceptSync
  rw [pendingToken_recount, syncSlot_recount]
  (repeat' split) <;> rfl

theorem finish_recount (kind : Option FrameKind) (seq : SeqNum) :
    (c.recount t).finish kind seq = (c.finish kind seq).recount t := by
  unfold finish
  rw [inbound_recount]
  split <;> rfl

theorem deliver_recount : (c.recount t).deliver = c.deliver.map (recount t) := by
  unfold deliver
  rw [receiving_recount, slots_recount]
  cases c.receiving with
  | none => rfl
  | some response =>
    simp only
    cases (c.slots.get response.stream).push response.body with
    | full => rfl
    | refused => exact congrArg some (finish_recount t { c with receiving := none } _ _)
    | stored slot =>
      exact congrArg some (finish_recount t
        { c with receiving := none, slots := c.slots.set response.stream slot } _ _)

variable [Datalink L]

theorem deinit_recount : (c.recount t).deinit = c.deinit.recount t := by
  unfold deinit
  rw [running_recount]
  split <;> rfl

theorem sendFrame_recount (kind : FrameKind) (seq : SeqNum) (stream : StreamId) (b : Buffer) :
    (c.recount t).sendFrame kind seq stream b =
      ((c.sendFrame kind seq stream b).1, (c.sendFrame kind seq stream b).2.recount t) := by
  simp only [sendFrame]
  split
  · rfl
  · split
    · rfl
    · simp only [recount]
      split <;> rfl

theorem reserve_recount (size : Nat) : (c.recount t).reserve size = c.reserve size := rfl

theorem send_recount (command : Command) :
    (c.recount t).send command = ((c.send command).1, (c.send command).2.recount t) := by
  simp only [send, reserve_recount]
  split
  · rfl
  · exact sendFrame_recount t { c with outbound := c.outbound.commit c.outbound.peek } _ _ _ _

theorem resetAgent_recount :
    (c.recount t).resetAgent = (c.resetAgent.1, c.resetAgent.2.recount t) := by
  simp only [resetAgent, reserve_recount]
  split
  · rfl
  · next b _ =>
    have moved := sendFrame_recount t { c with
      outbound := c.outbound.commit c.outbound.peek, handshake := c.handshake.await } .agentReset
      c.outbound.peek StreamId.control b
    simp only [recount, Outbound.advance] at moved ⊢
    rw [moved]
    generalize sendFrame ({ c with
      outbound := c.outbound.commit c.outbound.peek
      handshake := c.handshake.await } : Controller L)
      .agentReset c.outbound.peek StreamId.control b = outcome
    obtain ⟨result, c'⟩ := outcome
    cases result <;> rfl

theorem sendSync_recount (b : Buffer) :
    (c.recount t).sendSync b = ((c.sendSync b).1, (c.sendSync b).2.recount t) :=
  sendFrame_recount t
    { c with outbound := c.outbound.commit (c.outbound.lastSent.getD SeqNum.first) } _ _ _ _

theorem Call.step_recount (call : Call) :
    call.step (c.recount t) = ((call.step c).1.recount t, (call.step c).2) := by
  cases call with
  | listen wait =>
    simp only [step, slots_recount]
    cases (c.slots.get wait.stream).pop _ with
    | taken body slot => rfl
    | released reason => rfl
    | waiting => cases wait.seen <;> rfl
  | transmit command timeout =>
    simp only [step, send_recount]
    cases c.send command with
    | mk result c' => cases result <;> rfl
  | awaitAgent timeout =>
    simp only [step]
    rw [handshake_recount, running_recount]
    (repeat' split) <;> rfl
  | syncBegin timeout =>
    simp only [step]
    rw [syncing_recount]
    split <;> rfl
  | syncPrepare timeout =>
    have reserve : (c.recount t).newToken.2.reserve SyncRequest.size =
      c.newToken.2.reserve SyncRequest.size := rfl
    simp only [step]
    rw [running_recount, reserve]
    split
    · split <;> rfl
    · rfl
  | syncTransmit attempt =>
    simp only [step, sendSync_recount]
    cases c.sendSync attempt.payload with
    | mk result c' => cases result <;> rfl
  | syncListen timeout seen =>
    simp only [step, syncSlot_recount]
    cases c.syncSlot.pop _ with
    | taken response slot => rfl
    | released reason => rfl
    | waiting => cases seen <;> rfl
  | _ => rfl

theorem Call.attempts_recount (call : Call) : call.attempts (c.recount t) = call.attempts c := by
  cases call with
  | transmit command timeout => simp only [attempts, send_recount]
  | syncTransmit attempt => simp only [attempts, sendSync_recount]
  | _ => rfl

theorem agentStarted_recount : (c.recount t).agentStarted = c.agentStarted.recount t := by
  simp only [agentStarted]
  rw [onStart_recount]
  split
  · rfl
  · split
    · rfl
    · next hook command _ =>
      have sent := send_recount t (({ c with handshake := c.handshake.started } :
        Controller L).record (.agentStarted c.handshake.started)) command
      simp only [recount, record] at sent ⊢
      rw [sent]

theorem dispatch_recount (kind : Option FrameKind) (stream : StreamId) (payload : Octets) :
    (c.recount t).dispatch kind stream payload = (c.dispatch kind stream payload).recount t := by
  unfold dispatch
  split
  · exact dispatchEvent_recount t c stream payload
  · exact agentStarted_recount t c
  · exact acceptSync_recount t c payload
  · rfl

theorem accept_recount (header : Header) (stream : StreamId) (payload : Octets) :
    (c.recount t).accept header stream payload = (c.accept header stream payload).recount t := by
  simp only [accept]
  rw [inbound_recount]
  split
  · rfl
  · split
    · rfl
    · rw [dispatch_recount, finish_recount]

theorem receive_recount (buffer : Option Octets) :
    (c.recount t).receive buffer = (c.receive buffer).recount t := by
  cases buffer with
  | none => simp [receive, recount, LinkStats.add, LinkStats.countDropped, Nat.add_right_comm]
  | some octets =>
    have counted : ({ c.recount t with stats := (c.recount t).stats.countReceived } :
        Controller L) = recount t { c with stats := c.stats.countReceived } := by
      simp [recount, LinkStats.add, LinkStats.countReceived, Nat.add_right_comm]
    simp only [receive]
    cases Incoming.ofOctets octets with
    | frame header stream payload =>
      simp only [counted]
      exact accept_recount t _ header stream payload
    | _ =>
      simp [recount, LinkStats.add, LinkStats.countReceived, LinkStats.countDropped,
        Nat.add_right_comm]

/-- A malformed buffer counts, and leaves no other trace. -/
theorem receive_malformed {buffer : Option Octets} (h : Malformed buffer) :
    c.receive buffer = c.recount (.ofBuffer buffer) := by
  cases buffer with
  | none => rfl
  | some octets =>
    have unsound := malformed_iff.mp h
    cases found : Incoming.ofOctets octets with
    | frame header stream payload => exact absurd found (unsound header stream payload)
    | _ =>
      simp only [receive, found]
      rfl

end

/-! ## A controller in use -/

/-- One step of a controller's life: of its callers, of the receive path, or of whoever holds its
streams, registers its callbacks and shuts it down. -/
inductive Deed
  /-- Anything but what the receive path takes from the link. -/
  | act (action : Action)
  /-- The receive path takes what the link hands over next. -/
  | hear
  | openStream (stream : StreamId)
  | releaseStream (stream : StreamId)
  | onStart (hook : StartHook)
  | deinit

/-- A controller with its callers, and with what became of the attempts to open a stream. -/
structure Site (L : Type) where
  host : Host L
  opened : List (Except EndpointError Unit)

namespace Site

/-- A controller that nobody has used yet. -/
def ofController (c : Controller L) : Site L := ⟨.ofController c, []⟩

def withEndpoint (s : Site L) (c : Controller L) : Site L :=
  { s with host := { s.host with endpoint := c } }

/-- One step, when the link hands over `buffers`. -/
def act [Datalink L] (buffers : List (Option Octets)) (s : Site L) : Deed → Option (Site L)
  | .act action => (s.host.act [] action).map fun h => { s with host := h }
  | .hear =>
    if s.host.endpoint.receiving.isSome then none
    else
      (buffers[s.host.heard]?).map fun buffer =>
        { s with
          host := { s.host with
            endpoint := s.host.endpoint.receive buffer, heard := s.host.heard + 1 } }
  | .openStream stream =>
    match s.host.endpoint.openStream stream with
    | .ok c => some { s.withEndpoint c with opened := s.opened ++ [.ok ()] }
    | .error e => some { s with opened := s.opened ++ [.error e] }
  | .releaseStream stream => some (s.withEndpoint (s.host.endpoint.releaseStream stream))
  | .onStart hook => some (s.withEndpoint { s.host.endpoint with onStart := some hook })
  | .deinit => some (s.withEndpoint s.host.endpoint.deinit)

/-- As long as no buffer is missing, the receive path takes what `Host.act` lets it take. -/
theorem act_hear_map_some [Datalink L] (octets : List Octets) (s : Site L) :
    s.act (octets.map some) .hear =
      (s.host.act octets .hear).map fun h => { s with host := h } := by
  simp only [act, Host.act, List.getElem?_map]
  split
  · rfl
  · cases octets[s.host.heard]? <;> rfl

/-- Takes steps one after the other, if each of them can be taken. -/
def perform [Datalink L] (buffers : List (Option Octets)) (s : Site L) (deeds : List Deed) :
    Option (Site L) :=
  deeds.foldlM (act buffers) s

end Site

/-! ## Insertions -/

/-- A buffer that the link hands over. -/
structure Arrival where
  buffer : Option Octets
  /-- Whether it is one of those that were inserted. -/
  inserted : Bool

/-- What arrives without the insertions. -/
def clean (line : List Arrival) : List (Option Octets) :=
  (line.filter (!·.inserted)).map Arrival.buffer

/-- The counts of the insertions. -/
def tally (line : List Arrival) : Tally where
  received := line.countP fun a => a.inserted && a.buffer.isSome
  dropped := line.countP (·.inserted)

/-- The steps without those that take an insertion, when `line` is what is still to come. -/
def own : List Arrival → List Deed → List Deed
  | _, [] => []
  | line, .hear :: deeds =>
    if line.head?.any (·.inserted) then own line.tail deeds else .hear :: own line.tail deeds
  | line, deed :: deeds => deed :: own line deeds

theorem own_cons_of_ne {deed : Deed} (h : deed ≠ .hear) (line : List Arrival)
    (deeds : List Deed) : own line (deed :: deeds) = deed :: own line deeds := by
  cases deed with
  | hear => exact absurd rfl h
  | _ => rfl

theorem clean_append (past rest : List Arrival) :
    clean (past ++ rest) = clean past ++ clean rest := by
  simp [clean]

theorem tally_concat_inserted {a : Arrival} (h : a.inserted = true) (past : List Arrival) :
    tally (past ++ [a]) = (tally past).plus (.ofBuffer a.buffer) := by
  simp [tally, Tally.plus, Tally.ofBuffer, h, List.countP_cons]

theorem tally_concat {a : Arrival} (h : a.inserted = false) (past : List Arrival) :
    tally (past ++ [a]) = tally past := by
  simp [tally, h]

namespace Host

/-- The counts and the place in the line have no influence on what anyone but the receive path
does. -/
theorem act_recount [Datalink L] (h : Host L) (t : Tally) (n : Nat) (action : Action) :
    act { h with endpoint := h.endpoint.recount t, heard := n } [] action =
      (h.act [] action).map fun h' =>
        { h' with endpoint := h'.endpoint.recount t, heard := n } := by
  cases action with
  | send command => simp only [act, send_recount, Option.map_some]
  | reset => simp only [act, resetAgent_recount, Option.map_some]
  | advance i =>
    simp only [act, advance]
    cases h.threads[i]? with
    | none => rfl
    | some t' =>
      simp only [Call.step_recount, Call.attempts_recount]
      split
      · rfl
      · simp only [Option.map_map]
        rfl
  | expire i =>
    simp only [act, expire]
    cases h.threads[i]? with
    | none => rfl
    | some t' =>
      simp only
      split
      · rfl
      · cases t'.call.limit with
        | none => rfl
        | some limit =>
          simp only [Option.map_map]
          rfl
  | hear =>
    simp only [act, List.getElem?_nil, Option.map_none, ite_self]
  | pass =>
    simp only [act, deliver_recount, Option.map_map]
    rfl
  | _ => rfl

/-- Nobody but the receive path moves on in the line. -/
theorem heard_act [Datalink L] {h h' : Host L} {action : Action}
    (ha : h.act [] action = some h') : h'.heard = h.heard := by
  -- adding nothing to the counts leaves the step as it is, with the place that it begins at
  have same := h.act_recount .zero h.heard action
  rw [ha, Option.map_some] at same
  have unmoved := Option.some.inj (ha.symm.trans same)
  rw [unmoved]

end Host

namespace Site

/-- How a site stands once the line `past` has been heard, if without the insertions it stands as
`s`. -/
def amid (past : List Arrival) (s : Site L) : Site L :=
  { s with
    host := { s.host with
      endpoint := s.host.endpoint.recount (tally past), heard := past.length } }

variable [Datalink L] {line past rest : List Arrival} {a : Arrival} {s t s' : Site L}
  {deeds : List Deed}

/-- A step of anyone but the receive path is the same amid insertions. -/
theorem amid_act {deed : Deed} (h : deed ≠ .hear) (past : List Arrival)
    (buffers buffers' : List (Option Octets)) (s : Site L) :
    (s.amid past).act buffers deed = (s.act buffers' deed).map (amid past) := by
  cases deed with
  | hear => exact absurd rfl h
  | act action =>
    simp only [act, amid, Host.act_recount, Option.map_map]
    rfl
  | openStream stream =>
    simp only [act, amid, openStream_recount]
    cases s.host.endpoint.openStream stream <;> rfl
  | deinit =>
    simp only [act, amid, deinit_recount]
    rfl
  | _ => rfl

/-- The receive path takes an insertion, which only counts. -/
theorem amid_hear_inserted (hline : line = past ++ a :: rest) (ha : a.inserted = true)
    (malformed : Malformed a.buffer) (s : Site L) :
    (s.amid past).act (line.map Arrival.buffer) .hear =
      if s.host.endpoint.receiving.isSome then none else some (s.amid (past ++ [a])) := by
  have next : (line.map Arrival.buffer)[past.length]? = some a.buffer := by simp [hline]
  have counted : ((s.host.endpoint.recount (tally past)).receive a.buffer) =
      s.host.endpoint.recount (tally (past ++ [a])) := by
    rw [receive_malformed _ malformed, recount_recount, tally_concat_inserted ha, Tally.plus,
      Tally.plus, Nat.add_comm, Nat.add_comm (tally past).dropped]
  simp only [act, amid, receiving_recount, next, Option.map_some, counted, List.length_append,
    List.length_singleton]

/-- The receive path takes a buffer that arrives anyway. -/
theorem amid_hear (hline : line = past ++ a :: rest) (ha : a.inserted = false)
    (heard : s.host.heard = (clean past).length) :
    (s.amid past).act (line.map Arrival.buffer) .hear =
      (s.act (clean line) .hear).map (amid (past ++ [a])) := by
  have next : (line.map Arrival.buffer)[past.length]? = some a.buffer := by simp [hline]
  have next' : (clean line)[s.host.heard]? = some a.buffer := by
    rw [heard, hline, clean_append, List.getElem?_append_right (Nat.le_refl _)]
    simp [clean, ha]
  simp only [act, amid, receiving_recount, next, next', Option.map_some, receive_recount]
  split
  · rfl
  · simp only [Option.map_some, amid, tally_concat ha, List.length_append, List.length_singleton]

theorem heard_act_of_ne {deed : Deed} (h : deed ≠ .hear) {buffers : List (Option Octets)}
    (ha : s.act buffers deed = some t) : t.host.heard = s.host.heard := by
  cases deed with
  | hear => exact absurd rfl h
  | act action =>
    obtain ⟨host, hh, rfl⟩ := Option.map_eq_some_iff.mp ha
    exact Host.heard_act hh
  | openStream stream =>
    simp only [act] at ha
    split at ha <;> cases ha <;> rfl
  | _ =>
    cases ha
    rfl

theorem heard_hear {buffers : List (Option Octets)} (ha : s.act buffers .hear = some t) :
    t.host.heard = s.host.heard + 1 := by
  obtain ⟨-, ha⟩ := Option.ite_none_left_eq_some.mp ha
  obtain ⟨buffer, -, rfl⟩ := Option.map_eq_some_iff.mp ha
  rfl

/-- `s'` stands as `s` does, but for the insertions in a part of the line that it has heard. -/
structure Beside (line : List Arrival) (s s' : Site L) (past rest : List Arrival) : Prop where
  line : line = past ++ rest
  heard : s.host.heard = (clean past).length
  eq : s' = s.amid past

omit [Datalink L] in
theorem Beside.start (c : Controller L) (line : List Arrival) :
    Beside line (ofController c) (ofController c) [] line :=
  ⟨rfl, rfl, rfl⟩

theorem Beside.act (B : Beside line s s' past rest) {deed : Deed} (h : deed ≠ .hear)
    (ha : s.act (clean line) deed = some t) :
    Beside line t (t.amid past) past rest ∧
      s'.act (line.map Arrival.buffer) deed = some (t.amid past) := by
  refine ⟨⟨B.line, (heard_act_of_ne h ha).trans B.heard, rfl⟩, ?_⟩
  rw [B.eq, amid_act h past _ (clean line), ha, Option.map_some]

omit [Datalink L] in
theorem Beside.inserted (B : Beside line s s' past (a :: rest)) (ha : a.inserted = true) :
    Beside line s (s.amid (past ++ [a])) (past ++ [a]) rest :=
  ⟨by simp [B.line], by rw [B.heard]; simp [clean, ha], rfl⟩

theorem Beside.hear (B : Beside line s s' past (a :: rest)) (ha : a.inserted = false)
    (hs : s.act (clean line) .hear = some t) :
    Beside line t (t.amid (past ++ [a])) (past ++ [a]) rest ∧
      s'.act (line.map Arrival.buffer) .hear = some (t.amid (past ++ [a])) := by
  refine ⟨⟨by simp [B.line], ?_, rfl⟩, ?_⟩
  · rw [heard_hear hs, B.heard]
    simp [clean, ha]
  · rw [B.eq, amid_hear B.line ha B.heard, hs, Option.map_some]

theorem perform_cons {buffers : List (Option Octets)} {deed : Deed} :
    s.perform buffers (deed :: deeds) = (s.act buffers deed).bind (·.perform buffers deeds) :=
  List.foldlM_cons ..

variable {past₁ rest₁ : List Arrival} {s₁ s₁' : Site L}
  (malformed : ∀ a ∈ line, a.inserted = true → Malformed a.buffer)

include malformed

theorem Beside.act_inserted (B : Beside line s s' past (a :: rest)) (ha : a.inserted = true) :
    s'.act (line.map Arrival.buffer) .hear =
      if s'.host.endpoint.receiving.isSome then none else some (s.amid (past ++ [a])) := by
  have here : a ∈ line := B.line ▸ List.mem_append_right _ List.mem_cons_self
  rw [B.eq]
  exact amid_hear_inserted B.line ha (malformed a here ha) s

/-- What the receive path of a site amid insertions takes next, and what comes of it: an insertion,
without which nothing happens, or a buffer that arrives anyway. -/
inductive Takes (line past : List Arrival) (s t' : Site L) : List Arrival → Prop
  | inserted {a : Arrival} {rest : List Arrival} (ha : a.inserted = true)
      (eq : t' = s.amid (past ++ [a])) : Takes line past s t' (a :: rest)
  | arriving {a : Arrival} {rest : List Arrival} {t : Site L} (ha : a.inserted = false)
      (ht : s.act (clean line) .hear = some t) (eq : t' = t.amid (past ++ [a])) :
      Takes line past s t' (a :: rest)

theorem Beside.takes (B : Beside line s s' past rest)
    (ht' : s'.act (line.map Arrival.buffer) .hear = some t) : Takes line past s t rest := by
  cases rest with
  | nil =>
    rw [B.eq] at ht'
    obtain ⟨-, e⟩ := Option.ite_none_left_eq_some.mp ht'
    simp [amid, B.line] at e
  | cons a rest =>
    cases ha : a.inserted with
    | true =>
      rw [B.act_inserted malformed ha] at ht'
      obtain ⟨-, e⟩ := Option.ite_none_left_eq_some.mp ht'
      exact .inserted ha (Option.some.inj e).symm
    | false =>
      rw [B.eq, amid_hear B.line ha B.heard] at ht'
      obtain ⟨u, hu, rfl⟩ := Option.map_eq_some_iff.mp ht'
      exact .arriving ha hu rfl

/-- What happens amid insertions happens without them. -/
theorem Beside.without (B : Beside line s s' past rest)
    (run : s'.perform (line.map Arrival.buffer) deeds = some s₁') :
    ∃ s₁ past₁ rest₁, s.perform (clean line) (own rest deeds) = some s₁ ∧
      Beside line s₁ s₁' past₁ rest₁ := by
  induction deeds generalizing s s' past rest with
  | nil =>
    cases run
    exact ⟨s, past, rest, rfl, B⟩
  | cons deed deeds ih =>
    rw [perform_cons] at run
    obtain ⟨t', ht', later⟩ := Option.bind_eq_some_iff.mp run
    by_cases hears : deed = .hear
    · subst hears
      cases B.takes malformed ht' with
      | inserted ha eq =>
        obtain ⟨s₁, past₁, rest₁, run₁, B₁⟩ := ih (eq ▸ B.inserted ha) later
        refine ⟨s₁, past₁, rest₁, ?_, B₁⟩
        simpa [own, ha] using run₁
      | @arriving a rest t ha ht eq =>
        obtain ⟨s₁, past₁, rest₁, run₁, B₁⟩ := ih (eq ▸ (B.hear ha ht).1) later
        refine ⟨s₁, past₁, rest₁, ?_, B₁⟩
        simp only [own, List.head?_cons, Option.any_some, ha, Bool.false_eq_true, if_false,
          List.tail_cons, perform_cons, ht, Option.bind_some]
        exact run₁
    · rw [B.eq, amid_act hears past _ (clean line)] at ht'
      obtain ⟨t, ht, rfl⟩ := Option.map_eq_some_iff.mp ht'
      obtain ⟨s₁, past₁, rest₁, run₁, B₁⟩ := ih (B.act hears ht).1 later
      refine ⟨s₁, past₁, rest₁, ?_, B₁⟩
      rw [own_cons_of_ne hears, perform_cons, ht, Option.bind_some]
      exact run₁

/-- The receive path gets to what arrives anyway, past any insertions before it. -/
theorem Beside.through (B : Beside line s s' past rest) (ht : s.act (clean line) .hear = some t)
    (onward : ∀ past rest, Beside line t (t.amid past) past rest → ∃ more s₁',
      (t.amid past).perform (line.map Arrival.buffer) more = some s₁' ∧ own rest more = deeds) :
    ∃ more s₁', s'.perform (line.map Arrival.buffer) more = some s₁' ∧
      own rest more = .hear :: deeds := by
  induction rest generalizing s' past with
  | nil =>
    obtain ⟨-, e⟩ := Option.ite_none_left_eq_some.mp ht
    simp [B.heard, B.line] at e
  | cons a rest ih =>
    cases ha : a.inserted with
    | true =>
      have free : s'.host.endpoint.receiving.isSome = false := by
        obtain ⟨free, -⟩ := Option.ite_none_left_eq_some.mp ht
        rw [B.eq]
        simpa [amid] using free
      obtain ⟨more, s₁', run, same⟩ := ih (B.inserted ha)
      refine ⟨.hear :: more, s₁', ?_, ?_⟩
      · rw [perform_cons, B.act_inserted malformed ha, free]
        exact run
      · simpa [own, ha] using same
    | false =>
      obtain ⟨B', ht'⟩ := B.hear ha ht
      obtain ⟨more, s₁', run, same⟩ := onward _ _ B'
      refine ⟨.hear :: more, s₁', ?_, ?_⟩
      · rw [perform_cons, ht']
        exact run
      · simp [own, ha, same]

/-- What happens without insertions can happen amid them. -/
theorem Beside.with (B : Beside line s s' past rest)
    (run : s.perform (clean line) deeds = some s₁) :
    ∃ more s₁', s'.perform (line.map Arrival.buffer) more = some s₁' ∧ own rest more = deeds := by
  induction deeds generalizing s s' past rest with
  | nil => exact ⟨[], s', rfl, by cases rest <;> rfl⟩
  | cons deed deeds ih =>
    rw [perform_cons] at run
    obtain ⟨t, ht, later⟩ := Option.bind_eq_some_iff.mp run
    by_cases hears : deed = .hear
    · subst hears
      exact B.through malformed ht fun past rest B' => ih B' later
    · obtain ⟨B', ht'⟩ := B.act hears ht
      obtain ⟨more, s₁', run', same⟩ := ih B' later
      refine ⟨deed :: more, s₁', ?_, ?_⟩
      · rw [perform_cons, ht']
        exact run'
      · rw [own_cons_of_ne hears, same]

/-- A controller amid insertions: whatever its callers and its receive path have done so far,
without the insertions the same steps lead to the same controller and callers, in all but the two
counts, which are larger by the insertions that were taken. Neither way can anything be done next
that could not be done the other way: an insertion is taken as soon as the receive path is free, and
then what comes behind it is next. -/
theorem malformed_without_influence (c : Controller L)
    (run : (ofController c).perform (line.map Arrival.buffer) deeds = some s') :
    ∃ s past rest, line = past ++ rest ∧
      (ofController c).perform (clean line) (own line deeds) = some s ∧
      s.host.heard = (clean past).length ∧
      s' = { s with
        host := { s.host with
          endpoint := s.host.endpoint.recount (tally past), heard := past.length } } ∧
      (∀ more s₁, s.perform (clean line) more = some s₁ → ∃ more' s₁',
        s'.perform (line.map Arrival.buffer) more' = some s₁' ∧ own rest more' = more) ∧
      ∀ a rest', rest = a :: rest' → a.inserted = true →
        s'.act (line.map Arrival.buffer) .hear =
          if s'.host.endpoint.receiving.isSome then none else some (s.amid (past ++ [a])) := by
  obtain ⟨s, past, rest, without, B⟩ := (Beside.start c line).without malformed run
  refine ⟨s, past, rest, B.line, without, B.heard, B.eq, fun more s₁ => B.with malformed, ?_⟩
  rintro a rest' rfl ha
  exact B.act_inserted malformed ha

omit malformed

/-! ## Insertions of every sort -/

/-- Two responses on the control stream and a start notification, with a malformed buffer of each
sort before, between and behind the responses. -/
def littered : List Arrival :=
  [⟨some [0x10, 33, 0, 0], true⟩, ⟨some [0x10, 0, 4, 0, 5, 2, 0, 0], false⟩, ⟨none, true⟩,
    ⟨some [0x11, 0, 4, 0, 5, 2, 0, 0], false⟩, ⟨some [0x11, 0, 9, 0, 1], true⟩, ⟨some [1], true⟩,
    ⟨some [0x52, 0, 0, 0], false⟩]

theorem littered_malformed : ∀ a ∈ littered, a.inserted = true → Malformed a.buffer := by
  intro a ha inserted
  simp only [littered, List.mem_cons, List.not_mem_nil, or_false] at ha
  rcases ha with rfl | rfl | rfl | rfl | rfl | rfl | rfl
  · exact .badStream _ _ _ (by decide)
  · cases inserted
  · exact .null
  · cases inserted
  · exact .overLength _ _ _ _ _ (by decide)
  · exact .short (by decide)
  · cases inserted

/-- The second response is held until a caller takes the first; then the rest is heard. -/
def heardThrough : List Deed :=
  [.openStream StreamId.control, .act (.begin (.receive StreamId.control ⟨5, 2, 0⟩ none none)),
    .hear, .hear, .act .pass, .hear, .hear, .act (.advance 0), .act .pass, .hear, .hear, .hear]

theorem malformed_without_influence_littered :
    ∃ s s' : Site ScriptedLink,
      (ofController (.start ⟨[], []⟩ ⟨none, .ofMillis 20⟩ 0)).perform
        (littered.map Arrival.buffer) heardThrough = some s' ∧
      (ofController (.start ⟨[], []⟩ ⟨none, .ofMillis 20⟩ 0)).perform
        (clean littered) (own littered heardThrough) = some s ∧
      s' = { s with
        host := { s.host with endpoint := s.host.endpoint.recount ⟨3, 4⟩, heard := 7 } } ∧
      s.host.endpoint.stats = ⟨0, 3, 0, 0, 0⟩ ∧ s'.host.endpoint.stats = ⟨0, 6, 4, 0, 0⟩ := by
  obtain ⟨s', run, heard, stats'⟩ : ∃ s' : Site ScriptedLink,
      (ofController (.start ⟨[], []⟩ ⟨none, .ofMillis 20⟩ 0)).perform
        (littered.map Arrival.buffer) heardThrough = some s' ∧ s'.host.heard = 7 ∧
      s'.host.endpoint.stats = ⟨0, 6, 4, 0, 0⟩ := ⟨_, rfl, rfl, rfl⟩
  obtain ⟨t, run', stats⟩ : ∃ t : Site ScriptedLink,
      (ofController (.start ⟨[], []⟩ ⟨none, .ofMillis 20⟩ 0)).perform
        (clean littered) (own littered heardThrough) = some t ∧
      t.host.endpoint.stats = ⟨0, 3, 0, 0, 0⟩ := ⟨_, rfl, rfl⟩
  obtain ⟨s, past, rest, line, without, -, eq, -⟩ :=
    malformed_without_influence littered_malformed _ run
  obtain rfl := Option.some.inj (run'.symm.trans without)
  have length : past.length = 7 := by rw [← heard, eq]
  have all : past = littered := by
    have front := congrArg (List.take past.length) line
    rw [List.take_left, length] at front
    exact front.symm
  rw [all] at eq
  exact ⟨t, s', run, run', eq, stats, stats'⟩

end Site
end Controller
end CommandLink
