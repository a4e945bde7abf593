import CommandLink.Proofs.Controller.Sync

/-! # Events and their handlers

An event says something to a handler if it is one of two events of the wireless subsystem and its
arguments are what the agent writes for them, with padding perhaps (`Event.Reports`). Whatever
arrives at whatever controller, a handler runs if an event arrives that is sound, no repeat, on the
control stream and for that handler, and it is told what the event says (`Controller.Calls`). An
event changes nothing beside that but what is counted and the number that is remembered
(`Controller.receive_event`), and nothing but an event runs one of these handlers
(`Controller.audience_receive`). -/

namespace CommandLink

/-! ## What an event says -/

structure Event where
  header : EventHeader
  args : Octets

namespace Event

/-- What the event says, as its handler is told. -/
inductive Reports : Event → Callback → Prop
  | beacon (b : Beacon) (padding : Octets) :
      Reports ⟨⟨1, 1⟩, b.encode ++ padding⟩ (.beacon b.elements)
  | standbyExit (reason : StandbyExitReason) (padding : Octets) :
      Reports ⟨⟨1, 2⟩, reason.encode ++ padding⟩ (.standbyExit reason)

/-- The same, if the event says anything. -/
def report? (e : Event) : Option Callback :=
  if e.header = ⟨1, 1⟩ then (Beacon.decode e.args).toOption.map fun b => .beacon b.elements
  else if e.header = ⟨1, 2⟩ then (StandbyExitReason.decode e.args).toOption.map .standbyExit
  else none

theorem report?_eq_some_iff {e : Event} {callback : Callback} :
    e.report? = some callback ↔ e.Reports callback := by
  obtain ⟨header, args⟩ := e
  constructor
  · intro h
    unfold report? at h
    split at h
    · next isBeacon =>
      cases isBeacon
      obtain ⟨b, decoded, rfl⟩ := Option.map_eq_some_iff.mp h
      cases read : Beacon.decode args with
      | error e => simp [read, Except.toOption] at decoded
      | ok b' =>
        obtain ⟨padding, rfl⟩ := Beacon.decode_eq_ok_iff.mp read
        simp only [Except.toOption, read, Option.some.injEq] at decoded
        exact decoded ▸ .beacon b' padding
    · split at h
      · next isExit =>
        cases isExit
        obtain ⟨reason, decoded, rfl⟩ := Option.map_eq_some_iff.mp h
        cases read : StandbyExitReason.decode args with
        | error e => simp [read, Except.toOption] at decoded
        | ok reason' =>
          obtain ⟨padding, rfl⟩ := StandbyExitReason.decode_eq_ok_iff.mp read
          simp only [Except.toOption, read, Option.some.injEq] at decoded
          exact decoded ▸ .standbyExit reason' padding
      · cases h
  · intro h
    cases h with
    | beacon b padding => simp [report?, Except.toOption]
    | standbyExit reason padding => simp [report?, Except.toOption]

/-- The event in the payload of an event frame. -/
def ofPayload? (payload : Octets) : Option Event :=
  (EventHeader.decode payload).toOption.map fun header => ⟨header, payload.drop payloadHeaderSize⟩

theorem ofPayload?_eq_some_iff {payload : Octets} {e : Event} : ofPayload? payload = some e ↔
    ∃ x y, payload = e.header.subsystem :: e.header.event :: x :: y :: e.args := by
  constructor
  · intro h
    obtain ⟨header, decoded, rfl⟩ := Option.map_eq_some_iff.mp h
    unfold EventHeader.decode at decoded
    split at decoded
    · next subsystem event x y rest =>
      cases decoded
      exact ⟨x, y, rfl⟩
    · cases decoded
  · rintro ⟨x, y, rfl⟩
    rfl

end Event

/-- A callback that is told of an event. -/
def Callback.isReport : Callback → Bool
  | .beacon _ | .standbyExit _ => true
  | _ => false

theorem Event.Reports.isReport {e : Event} {callback : Callback} (h : e.Reports callback) :
    callback.isReport = true := by
  cases h <;> rfl

namespace Controller

variable {L : Type}

/-! ## Which handler runs -/

/-- The controller has a handler that is told this. -/
def minds (c : Controller L) : Callback → Bool
  | .beacon _ => c.onBeacon
  | .standbyExit _ => c.onStandbyExit
  | _ => false

/-- What a handler is told when an event arrives, if one runs. -/
def told? (c : Controller L) (stream : StreamId) (payload : Octets) : Option Callback :=
  if stream = StreamId.control then
    ((Event.ofPayload? payload).bind Event.report?).filter c.minds
  else none

/-- Records a callback, if there is one. -/
def recordIf (c : Controller L) (callback : Option Callback) : Controller L :=
  { c with log := c.log ++ callback.toList }

@[simp] theorem recordIf_none (c : Controller L) : c.recordIf none = c := by simp [recordIf]

@[simp] theorem recordIf_some (c : Controller L) (callback : Callback) :
    c.recordIf (some callback) = c.record callback := rfl

theorem dispatchEvent_told (c : Controller L) (stream : StreamId) (payload : Octets) :
    c.dispatchEvent stream payload = c.recordIf (c.told? stream payload) := by
  unfold dispatchEvent told?
  split
  · cases read : EventHeader.decode payload with
    | error e => simp [Event.ofPayload?, read, Except.toOption]
    | ok header =>
      obtain ⟨subsystem, event⟩ := header
      simp only [Event.ofPayload?, read, Except.toOption, Option.map_some, Option.bind_some]
      generalize payload.drop payloadHeaderSize = args
      split
      · next wlan beacon =>
        cases Subsystem.code_of_ofCode wlan
        cases WlanEvent.code_of_ofCode beacon
        by_cases handled : c.onBeacon = true <;> cases decoded : Beacon.decode args <;>
          simp [Event.report?, Subsystem.code, WlanEvent.code, decoded, minds, handled,
            Except.toOption, Option.filter]
      · next wlan exit =>
        cases Subsystem.code_of_ofCode wlan
        cases WlanEvent.code_of_ofCode exit
        by_cases handled : c.onStandbyExit = true <;>
          cases decoded : StandbyExitReason.decode args <;>
          simp [Event.report?, Subsystem.code, WlanEvent.code, decoded, minds, handled,
            Except.toOption, Option.filter]
      · next notBeacon notExit =>
        have silent : Event.report? ⟨⟨subsystem, event⟩, args⟩ = none := by
          rw [Event.report?, if_neg, if_neg]
          · rintro ⟨⟩
            exact notExit rfl rfl
          · rintro ⟨⟩
            exact notBeacon rfl rfl
        rw [silent]
        simp
  · simp

/-- A handler runs when these octets arrive, and is told this. -/
def Calls (c : Controller L) (octets : Octets) (callback : Callback) : Prop :=
  ∃ (header : Header) (e : Event) (x y : UInt8),
    Incoming.ofOctets octets = .frame header StreamId.control
      (e.header.subsystem :: e.header.event :: x :: y :: e.args) ∧
    FrameKind.ofCode? header.kind = some .event ∧ c.inbound.isRepeat header.seq = false ∧
    e.Reports callback ∧ c.minds callback = true

theorem told?_eq_some_iff {c : Controller L} {stream : StreamId} {payload : Octets}
    {callback : Callback} : c.told? stream payload = some callback ↔
      stream = StreamId.control ∧ ∃ (e : Event) (x y : UInt8),
        payload = e.header.subsystem :: e.header.event :: x :: y :: e.args ∧
        e.Reports callback ∧ c.minds callback = true := by
  unfold told?
  split
  · next control =>
    rw [Option.filter_eq_some_iff, Option.bind_eq_some_iff]
    constructor
    · rintro ⟨⟨e, found, reports⟩, minded⟩
      obtain ⟨x, y, rfl⟩ := Event.ofPayload?_eq_some_iff.mp found
      exact ⟨control, e, x, y, rfl, Event.report?_eq_some_iff.mp reports, minded⟩
    · rintro ⟨-, e, x, y, rfl, reports, minded⟩
      exact ⟨⟨e, Event.ofPayload?_eq_some_iff.mpr ⟨x, y, rfl⟩,
        Event.report?_eq_some_iff.mpr reports⟩, minded⟩
  · next other => exact ⟨nofun, fun h => absurd h.1 other⟩

/-- What an event does to a controller, whatever it says. -/
theorem receive_event [Datalink L] (c : Controller L) {octets : Octets}
    (h : kindIn octets = some .event) :
    ∃ (told : Option Callback) (seq : SeqNum),
      c.receive (some octets) = { c with
        log := c.log ++ told.toList
        inbound := c.inbound.record seq
        stats :=
          if c.inbound.isRepeat seq then c.stats.countReceived.countRepeat
          else if c.inbound.isGap seq then c.stats.countReceived.countGap
          else c.stats.countReceived } ∧
      ∀ callback, told = some callback ↔ c.Calls octets callback := by
  unfold kindIn at h
  split at h
  · next header stream payload sound =>
    simp only [receive, sound, accept, h]
    by_cases again : c.inbound.isRepeat header.seq = true
    · refine ⟨none, header.seq, by simp [again], fun callback => ?_⟩
      constructor
      · rintro ⟨⟩
      · rintro ⟨header', e, x, y, sound', -, fresh, -⟩
        cases sound.symm.trans sound'
        rw [again] at fresh
        cases fresh
    · refine ⟨c.told? stream payload, header.seq, ?_, fun callback => ?_⟩
      · have told : ({ c with stats := c.stats.countReceived } : Controller L).dispatchEvent
            stream payload =
            { c with stats := c.stats.countReceived }.recordIf (c.told? stream payload) :=
          dispatchEvent_told _ stream payload
        simp [again, dispatch, told, finish, recordIf]
      · rw [told?_eq_some_iff]
        constructor
        · rintro ⟨rfl, e, x, y, rfl, reports, minded⟩
          exact ⟨header, e, x, y, sound, h, by simpa using again, reports, minded⟩
        · rintro ⟨header', e, x, y, sound', -, -, reports, minded⟩
          cases sound.symm.trans sound'
          exact ⟨rfl, e, x, y, rfl, reports, minded⟩
  · cases h

/-! ## What reaches the handlers -/

/-- What the event handlers have been told, and which of them there are. -/
structure Audience where
  told : List Callback
  beacon : Bool
  standbyExit : Bool

def audience (c : Controller L) : Audience :=
  ⟨c.log.filter Callback.isReport, c.onBeacon, c.onStandbyExit⟩

/-- What the event handlers have been told. -/
def reports (c : Controller L) : List Callback := c.audience.told

theorem Calls.isReport {c : Controller L} {octets : Octets} {callback : Callback}
    (h : c.Calls octets callback) : callback.isReport = true := by
  obtain ⟨header, e, x, y, -, -, -, reports, -⟩ := h
  exact reports.isReport

theorem audience_event [Datalink L] (c : Controller L) {octets : Octets}
    (h : kindIn octets = some .event) :
    ∃ told : Option Callback, (∀ callback, told = some callback ↔ c.Calls octets callback) ∧
      (c.receive (some octets)).audience =
        { c.audience with told := c.reports ++ told.toList } := by
  obtain ⟨told, seq, eq, calls⟩ := c.receive_event h
  refine ⟨told, calls, ?_⟩
  have kept : told.toList.filter Callback.isReport = told.toList := by
    rw [List.filter_eq_self]
    intro callback mem
    exact ((calls callback).mp (Option.mem_toList.mp mem)).isReport
  rw [eq, audience, List.filter_append, kept]
  rfl

theorem audience_record (c : Controller L) {callback : Callback} (h : callback.isReport = false) :
    (c.record callback).audience = c.audience := by
  simp [audience, record, h]

section
variable [FrameLink L] (c : Controller L)

theorem audience_send (command : Command) : (c.send command).2.audience = c.audience := by
  obtain ⟨link, outbound, sent, eq⟩ := c.send_eq command
  rw [eq]
  rfl

theorem audience_resetAgent : c.resetAgent.2.audience = c.audience := by
  obtain ⟨link, outbound, sent, handshake, eq⟩ := c.resetAgent_eq
  rw [eq]
  rfl

theorem Call.audience_step (call : Call) : (call.step c).1.audience = c.audience := by
  cases call with
  | transmit command timeout =>
    rw [step_transmit]
    exact c.audience_send command
  | syncTransmit attempt =>
    obtain ⟨link, outbound, sent, eq⟩ := c.sendSync_eq attempt.payload
    rw [step_syncTransmit, eq]
    rfl
  | _ =>
    simp only [step]
    (repeat' split) <;> rfl

theorem audience_agentStarted : c.agentStarted.audience = c.audience := by
  unfold agentStarted
  simp only
  split
  · rfl
  · split
    · exact audience_record _ rfl
    · rw [audience_record _ rfl, audience_send, audience_record _ rfl]
      rfl

theorem audience_dispatch {kind : Option FrameKind} (other : kind ≠ some .event)
    (stream : StreamId) (payload : Octets) :
    (c.dispatch kind stream payload).audience = c.audience := by
  unfold dispatch
  split
  · exact absurd rfl other
  · exact c.audience_agentStarted
  · obtain ⟨slot, eq⟩ := c.acceptSync_eq payload
    rw [eq]
    rfl
  · rfl

/-- Nothing but an event is told to an event handler. -/
theorem audience_receive {buffer : Option Octets}
    (other : ∀ octets, buffer = some octets → kindIn octets ≠ some .event) :
    (c.receive buffer).audience = c.audience := by
  cases buffer with
  | none => rfl
  | some octets =>
    have other := other octets rfl
    unfold kindIn at other
    simp only [receive]
    cases sound : Incoming.ofOctets octets with
    | frame header stream payload =>
      rw [sound] at other
      simp only [accept]
      split
      · rfl
      · split
        · rfl
        · exact audience_dispatch { c with stats := c.stats.countReceived } other stream payload
    | _ => rfl

end

/-- Nothing reaches the event handlers but the receive path, and their registration. -/
theorem Host.audience_act [FrameLink L] {h h' : Host L} {incoming : List Octets} {action : Action}
    (ha : h.act incoming action = some h') (hears : action ≠ .hear)
    (watches : ∀ beacon standbyExit, action ≠ .watch beacon standbyExit) :
    h'.endpoint.audience = h.endpoint.audience ∧ h'.heard = h.heard := by
  cases action with
  | send command =>
    cases ha
    exact ⟨audience_send _ command, rfl⟩
  | reset =>
    cases ha
    exact ⟨audience_resetAgent _, rfl⟩
  | advance i =>
    obtain ⟨t, u, -, -, -, rfl⟩ := act_advance ha
    exact ⟨Call.audience_step _ t.call, rfl⟩
  | expire i =>
    obtain ⟨t, limit, u, -, -, -, -, rfl⟩ := act_expire ha
    exact ⟨rfl, rfl⟩
  | hear => exact absurd rfl hears
  | watch beacon standbyExit => exact absurd rfl (watches beacon standbyExit)
  | pass =>
    obtain ⟨c, delivered, rfl⟩ := Option.map_eq_some_iff.mp ha
    obtain ⟨response, -, -, rfl⟩ := deliver_cases delivered
    exact ⟨rfl, rfl⟩
  | _ =>
    cases ha
    exact ⟨rfl, rfl⟩

end Controller
end CommandLink
