import CommandLink.Proofs.Dialogue.Requests
import CommandLink.Proofs.Session.SerialPair

/-! # One command from end to end

What becomes of a command that a controller sends to an agent at the other end of a serial link, one
lemma a stage: it leaves, and the call listens (`leads_ask`); the agent answers it (`leads_answer`)
or refuses its stream (`onward_refuse`); the answer ends the call (`leads_hear`), and the refusal is
heard and changes nothing (`onward_ignore`). A stage asks of the endpoints that nothing is at hand
(`Controller.Vacant`, `Agent.Vacant`).

Meanwhile the call that listens has a turn of its own, with which its wait begins, and no stage says
when it comes (`Onward.leads_listening`). It may even come so late that the answer is there already.
-/

namespace CommandLink
open Session

/-! ## Endpoints with nothing at hand -/

/-- Where a controller stands: the response that waits on a stream, and nothing on its way. -/
structure Controller.Stands (c : Controller Link) (stream : StreamId) (item : Option Octets) :
    Prop where
  link : c.link = bearing .controller []
  running : c.running = true
  free : c.receiving = none
  slot : c.slots.get stream = ⟨item, false, 0⟩

/-- Nothing is at hand. -/
abbrev Controller.Vacant (c : Controller Link) (stream : StreamId) : Prop := c.Stands stream none

/-- Where an agent stands that serves the control stream alone: the command in its slot, and what
its worker does next. -/
structure Agent.Stands (a : Agent Link) (item : Option Octets) (phase : WorkerPhase) : Prop where
  link : a.link = bearing .agent []
  running : a.running = true
  free : a.receiving = none
  slot : a.slots.get StreamId.control = ⟨item, false, 0⟩
  workers : a.workers = [⟨0, StreamId.control, phase⟩]
  serves : ∀ stream, a.isOpen stream = decide (stream = StreamId.control)

/-- Nothing is at hand, and the worker waits. -/
abbrev Agent.Vacant (a : Agent Link) : Prop := a.Stands none .waiting

theorem Session.Idle.of_vacant {c : Controller Link} {a : Agent Link} {stream : StreamId}
    (C : c.Vacant stream) (A : a.Vacant) : Idle c a := ⟨C.link, A.link⟩

theorem Session.WorkersWait.of_empty {a : Agent Link} (slot : a.slots.get StreamId.control = .empty)
    (workers : a.workers = [⟨0, StreamId.control, .waiting⟩]) : WorkersWait a := by
  intro w hw
  rw [workers, List.mem_singleton] at hw
  subst hw
  exact ⟨rfl, by simp [Agent.takeUp, slot, Slot.pop, Slot.empty]⟩

theorem Agent.Vacant.workersWait {a : Agent Link} (A : a.Vacant) : WorkersWait a :=
  .of_empty A.slot A.workers

theorem Session.Quiet.of_vacant {conduct : Conduct} {clock : Nat} {c : Controller Link}
    {a : Agent Link} {stream : StreamId} (C : c.Vacant stream) (A : a.Vacant) :
    Quiet conduct clock c [] a [] := quiet_of_wait C.free A.free A.workersWait

/-! ## Frames that leave -/

/-- The frame of a payload, as long as a frame may be. -/
theorem frame_of_prepend {b : Buffer} (header : Header) (fits : b.data.length ≤ Frame.maxPayload)
    (room : Header.size + Packet.maxOverhead ≤ b.start) :
    ∃ frame, b.prepend header.encode = .ok frame ∧ frame.data = header.encode ++ b.data ∧
      frame.data.length ≤ Frame.maxSize ∧ Packet.maxOverhead ≤ frame.start := by
  obtain ⟨frame, hp, hd, hs⟩ := b.prepend_ok header.encode (by rw [Header.length_encode]; omega)
  rw [Header.length_encode] at hs
  refine ⟨frame, hp, hd, ?_, by omega⟩
  rw [hd, List.length_append, Header.length_encode]
  simp only [Frame.maxPayload, Frame.maxSize, Header.size] at fits ⊢
  omega

theorem Post.length_octets_le (p : Post) : p.octets.length ≤ Frame.maxSize := by
  have := p.fits
  rw [Post.octets, List.length_append, Header.length_encode]
  simp only [Frame.maxPayload, Frame.maxSize, Header.size] at this ⊢
  omega

namespace Controller

variable {c : Controller Link} {command : Command}

theorem sendFrame_bearing (c : Controller Link) {kind : FrameKind} {seq : SeqNum}
    {stream : StreamId} {b : Buffer} (link : c.link = bearing .controller [])
    (fits : b.data.length ≤ Frame.maxPayload) (room : Header.size + Packet.maxOverhead ≤ b.start) :
    c.sendFrame kind seq stream b = (.ok (),
      { c with
        link := bearing .controller [(⟨kind, seq, stream, b.data, fits⟩ : Post).octets]
        stats := c.stats.countSent }) := by
  obtain ⟨frame, hp, hd, short, room⟩ :=
    frame_of_prepend (Header.of kind seq stream (UInt16.ofNat b.data.length)) fits room
  obtain ⟨n, taken⟩ := transmit_bearing .controller [] short room
  rw [sendFrame, Frame.payloadLength_ok fits]
  simp only [hp, link, taken, hd]
  rfl

theorem length_body_le (fits : command.payload.length ≤ payloadLimit) :
    command.body.length ≤ Frame.maxPayload := by
  rw [Command.body, List.length_append, CommandHeader.length_encode]
  simp only [payloadLimit, payloadHeaderSize, Frame.maxPayload, Frame.maxSize, Header.size]
    at fits ⊢
  omega

/-- The buffer of a command. -/
theorem load_bearing (link : c.link = bearing .controller []) (running : c.running = true)
    (command : Command) :
    ∃ b, c.reserve (payloadHeaderSize + command.payload.length) = .ok b ∧
      ((b.append (CommandHeader.encode ⟨command.id⟩)).append command.payload).data = command.body ∧
      ((b.append (CommandHeader.encode ⟨command.id⟩)).append command.payload).start =
        Header.size + Packet.maxOverhead := by
  refine ⟨Buffer.alloc (Header.size + Packet.maxOverhead)
    (payloadHeaderSize + command.payload.length + Packet.checksumSize), ?_, ?_, ?_⟩
  · rw [reserve, if_pos running, link]
    rfl
  · simp [Command.body]
  · simp

/-- The frame of a controller's next command. -/
def commandPost (c : Controller Link) (command : Command)
    (fits : command.payload.length ≤ payloadLimit) : Post :=
  ⟨.command, c.outbound.peek, command.stream, command.body, length_body_le fits⟩

/-- The controller once the number of a command is taken. -/
def committed (c : Controller Link) : Controller Link :=
  { c with outbound := c.outbound.commit c.outbound.peek }

/-- The controller once a command has left and is carried over. -/
def sent (c : Controller Link) : Controller Link :=
  { c.committed with stats := c.stats.countSent }

theorem Vacant.sent {stream : StreamId} (C : c.Vacant stream) : c.sent.Vacant stream :=
  ⟨C.link, C.running, C.free, C.slot⟩

theorem send_bearing (link : c.link = bearing .controller []) (running : c.running = true)
    (fits : command.payload.length ≤ payloadLimit) :
    c.send command =
      (.ok (), c.sent.withLink (bearing .controller [(c.commandPost command fits).octets])) := by
  obtain ⟨b, reserved, body, start⟩ := load_bearing link running command
  have short := length_body_le fits
  rw [← body] at short
  have left : c.committed.sendFrame .command c.outbound.peek command.stream
      ((b.append (CommandHeader.encode ⟨command.id⟩)).append command.payload) = _ :=
    c.committed.sendFrame_bearing link short (Nat.le_of_eq start.symm)
  simp only [body] at left
  simp only [send, reserved, Outbound.advance]
  exact left

/-- A payload that is too long is refused before anything leaves. -/
theorem send_oversized (link : c.link = bearing .controller []) (running : c.running = true)
    (long : payloadLimit < command.payload.length) :
    ∃ reason, c.send command = (.error (.invalidArg reason), c.committed) := by
  obtain ⟨b, reserved, body, start⟩ := load_bearing link running command
  have excess : ¬ command.body.length ≤ Frame.maxPayload := by
    rw [Command.body, List.length_append, CommandHeader.length_encode]
    simp only [payloadLimit, payloadHeaderSize, Frame.maxPayload, Frame.maxSize, Header.size]
      at long ⊢
    omega
  simp only [send, reserved, Outbound.advance, sendFrame, body, Frame.payloadLength_error excess]
  exact ⟨_, rfl⟩

end Controller

namespace Agent

variable {a : Agent Link}

/-- The agent once a frame has left and is carried over. -/
def sent (a : Agent Link) : Agent Link :=
  { a with outbound := a.outbound.commit a.outbound.peek, stats := a.stats.countSent }

theorem sendPayload_bearing (a : Agent Link) {kind : FrameKind} {stream : StreamId}
    {payload : Octets} (link : a.link = bearing .agent []) (running : a.running = true)
    (fits : payload.length ≤ Frame.maxPayload) :
    a.sendPayload kind stream.toOctet payload = (.ok (), a.sent.withLink
      (bearing .agent [(⟨kind, a.outbound.peek, stream, payload, fits⟩ : Post).octets])) := by
  have reserved : Datalink.reserve a.link Header.size payload.length =
      some (Buffer.alloc (Header.size + Packet.maxOverhead)
        (payload.length + Packet.checksumSize)) := by
    rw [link]
    rfl
  let b := (Buffer.alloc (Header.size + Packet.maxOverhead)
    (payload.length + Packet.checksumSize)).append payload
  have data : b.data = payload := by simp [b]
  have start : b.start = Header.size + Packet.maxOverhead := by simp [b]
  obtain ⟨frame, hp, hd, short, room⟩ := frame_of_prepend
    (a.nextHeader kind stream.toOctet (UInt16.ofNat payload.length))
    (Nat.le_trans (Nat.le_of_eq (congrArg List.length data)) fits) (Nat.le_of_eq start.symm)
  obtain ⟨n, taken⟩ := transmit_bearing .agent [] short room
  rw [data] at hd
  rw [sendPayload, if_pos running, Frame.payloadLength_ok fits]
  simp only [reserved]
  rw [hp]
  simp only [link, taken, hd]
  rfl

end Agent

/-! ## A command leaves -/

theorem StreamTable.set_get {α : Type} (t : StreamTable α) (s : StreamId) :
    t.set s (t.get s) = t := by
  simp [set, get]

theorem Controller.Vacant.discard {c : Controller Link} {stream : StreamId} (C : c.Vacant stream) :
    c.discard stream = c := by
  have same : Slot.clear (c.slots.get stream) = c.slots.get stream := by rw [C.slot]; rfl
  rw [Controller.discard, StreamTable.modify, same, StreamTable.set_get]

namespace Session

variable {conduct : Conduct} {clock since : Nat} {c : Controller Link} {a : Agent Link}
  {command : Command} {timeout : Option Duration} {Q : Session → Prop} {n : Nat}

/-- A call that has begun. -/
def begun (call : Controller.Call) (clock : Nat) : CallTask := ⟨none, call, clock, none⟩

/-- The call of a request that listens for the response. -/
def listening (command : Command) (timeout : Option Duration) (since : Nat) (seen : Option Nat) :
    CallTask :=
  begun (.listen ⟨command.stream, command.id, none, timeout, seen⟩) since

theorem advance_begun {call : Controller.Call} {c' : Controller Link}
    {progress : Controller.Call.Result} (step : call.step c = (c', progress)) :
    Task.advance Controller.Call.step clock c [begun call since] =
      ((begun call since).note clock progress).map fun t => (c', [t]) := by
  cases progress <;> simp [Task.advance, begun, step, Task.note]

/-- Without a response the call begins to wait. -/
theorem advance_begin (slot : c.slots.get command.stream = .empty) :
    Task.advance Controller.Call.step clock c [listening command timeout since none] =
      some (c, [listening command timeout clock (some 0)]) := by
  have noted :
      (Controller.Call.listen ⟨command.stream, command.id, none, timeout, none⟩).step c =
        (c, .next (.listen ⟨command.stream, command.id, none, timeout, some 0⟩)) := by
    simp [Controller.Call.step, slot, Slot.pop, Slot.empty]
  exact advance_begun noted

/-- Then it waits. -/
theorem advance_listening (slot : c.slots.get command.stream = .empty) :
    Task.advance Controller.Call.step clock c [listening command timeout since (some 0)] =
      none := by
  have blocked :
      (Controller.Call.listen ⟨command.stream, command.id, none, timeout, some 0⟩).step c =
        (c, .blocked) := by
    simp [Controller.Call.step, slot, Slot.pop, Slot.empty]
  rw [listening, advance_begun blocked]
  rfl

/-- A call that has returned. -/
def returned (call : Controller.Call) (since : Nat)
    (result : Except EndpointError Controller.Answer) : CallTask :=
  ⟨none, call, since, some result⟩

/-- A call that says nothing goes on. -/
theorem leads_next {call call' : Controller.Call} {c' : Controller Link} {down up : List Octets}
    (K : Quiet conduct clock c down a up) (I : Idle c' a) (goes : call.step c = (c', .next call'))
    (H : Leads Q n (pair conduct clock c' [begun call' clock] down a up)) :
    Leads Q (n + 1) (pair conduct clock c [begun call since] down a up) :=
  K.leads_call (advance_begun goes) (by rwa [exchange_idle I])

/-- A call that says nothing returns. -/
theorem leads_done {call : Controller.Call} {c' : Controller Link} {down up : List Octets}
    {result : Except EndpointError Controller.Answer} (K : Quiet conduct clock c down a up)
    (I : Idle c' a) (goes : call.step c = (c', .done result))
    (H : Leads Q n (pair conduct clock c' [returned call since result] down a up)) :
    Leads Q (n + 1) (pair conduct clock c [begun call since] down a up) :=
  K.leads_call (advance_begun goes) (by rwa [exchange_idle I])

/-- A request begins with nothing to drop. -/
theorem leads_begin (C : c.Vacant command.stream) (A : a.Vacant)
    (H : Leads Q n (pair conduct clock c [begun (.transmit command timeout) clock] [] a [])) :
    Leads Q (n + 1) (pair conduct clock c [begun (.request command timeout) clock] [] a []) := by
  have discarded : (Controller.Call.request command timeout).step c =
      (c, .next (.transmit command timeout)) := by
    simp [Controller.Call.request, Controller.Call.step, C.discard]
  exact leads_next (.of_vacant C A) (.of_vacant C A) discarded H

/-- The command of a request leaves, and the call listens. -/
theorem leads_ask (C : c.Vacant command.stream) (A : a.Vacant)
    (fits : command.payload.length ≤ payloadLimit)
    (H : Leads Q n (pair conduct clock c.sent [listening command timeout clock none] [] a
      [(c.commandPost command fits).octets])) :
    Leads Q (n + 2) (pair conduct clock c [begun (.request command timeout) clock] [] a []) := by
  have transmitted : (Controller.Call.transmit command timeout).step c =
      (c.sent.withLink (bearing .controller [(c.commandPost command fits).octets]),
        .next (.listen (.forBytes command.stream command.id timeout))) := by
    simp [Controller.Call.step, Controller.send_bearing C.link C.running fits]
  refine leads_begin C A (Quiet.leads_call (.of_vacant C A) (advance_begun transmitted) ?_)
  rwa [exchange_up (.of_vacant C.sent A) (Post.length_octets_le _)]

/-- A request with a payload that is too long fails, and nothing leaves. -/
theorem leads_oversized (conduct : Conduct) (clock : Nat) (timeout : Option Duration)
    (C : c.Vacant command.stream) (A : a.Vacant) (long : payloadLimit < command.payload.length) :
    ∃ reason, ∀ {Q : Session → Prop} {n : Nat},
      Leads Q n (pair conduct clock c.committed
        [returned (.transmit command timeout) clock (.error (.invalidArg reason))] [] a []) →
      Leads Q (n + 2) (pair conduct clock c [begun (.request command timeout) clock] [] a []) := by
  obtain ⟨reason, refused⟩ := Controller.send_oversized C.link C.running long
  have failed : (Controller.Call.transmit command timeout).step c =
      (c.committed, .done (.error (.invalidArg reason))) := by
    simp [Controller.Call.step, refused]
  have idle : Idle c.committed a := ⟨C.link, A.link⟩
  exact ⟨reason, fun H => leads_begin C A (leads_done (.of_vacant C A) idle failed H)⟩

/-- Every order leads to `Q`, whether the call that listens has begun to wait or not. -/
def LeadsListening (Q : Session → Prop) (n : Nat) (conduct : Conduct) (clock : Nat)
    (command : Command) (timeout : Option Duration) (c : Controller Link) (down : List Octets)
    (a : Agent Link) (up : List Octets) : Prop :=
  ∀ seen, seen = none ∨ seen = some 0 →
    Leads Q n (pair conduct clock c [listening command timeout clock seen] down a up)

/-- Another thread goes on before the call begins to wait, or after. -/
theorem Onward.leads_listening {c' : Controller Link} {a' : Agent Link}
    {down up down' up' : List Octets} (O : Onward conduct clock c down a up c' down' a' up')
    (slot : c.slots.get command.stream = .empty) (I : Idle c a)
    (H : LeadsListening Q n conduct clock command timeout c' down' a' up') :
    LeadsListening Q (n + 2) conduct clock command timeout c down a up := by
  have waiting : Leads Q (n + 1)
      (pair conduct clock c [listening command timeout clock (some 0)] down a up) :=
    O.leads (advance_listening slot) (H _ (.inr rfl))
  rintro seen (rfl | rfl)
  · refine O.leads_call (advance_begin slot) ?_ ((H _ (.inl rfl)).mono (Nat.le_succ n))
    rwa [exchange_idle I]
  · exact waiting.mono (Nat.le_succ _)

end Session

/-! ## The agent answers -/

namespace Agent

variable {a : Agent Link}

/-- The agent once its receive path holds the payload of a frame. -/
def keeping (a : Agent Link) (p : Post) : Agent Link :=
  { a with stats := a.stats.countReceived, receiving := some ⟨p.stream, p.payload, p.seq⟩ }

/-- A new command on the control stream is held. -/
theorem Stands.hear (S : a.Vacant) {p : Post} (kind : p.kind = .command)
    (control : p.stream = StreamId.control) (new : a.inbound.isRepeat p.seq = false) :
    a.receive (some p.octets) = a.keeping p := by
  have counted :
      ({ a with stats := a.stats.countReceived } : Agent Link).isOpen p.stream = true := by
    rw [control]
    exact S.serves StreamId.control
  simp only [receive, Incoming.ofOctets_octets, accept, Post.ofCode?_header, kind, Post.seq_header,
    new, counted]
  rfl

/-- A command that is held gets into its empty slot. -/
theorem Stands.pass (S : a.Vacant) {p : Post} (control : p.stream = StreamId.control)
    (next : a.inbound.isGap p.seq = false) :
    ∃ b, (a.keeping p).deliver = some b ∧ b.Stands (some p.payload) .waiting ∧
      b.outbound = a.outbound := by
  refine ⟨{ a with
    stats := a.stats.countReceived, receiving := none, inbound := a.inbound.record p.seq
    slots := a.slots.set StreamId.control ⟨some p.payload, false, 0⟩ }, ?_, ?_, rfl⟩
  · simp [deliver, keeping, control, S.slot, Slot.push, reportGap, next, remember]
  · exact ⟨S.link, S.running, rfl, StreamTable.get_set_self .., S.workers, S.serves⟩

/-- The worker takes up a command in its slot. -/
theorem Stands.takeUp {command : Command} (S : a.Stands (some command.body) .waiting) :
    ∃ b, a.takeUp ⟨0, StreamId.control, .waiting⟩ = some b ∧
      b.Stands none (.handling ⟨StreamId.control, command.id, command.payload⟩) ∧
      b.outbound = a.outbound := by
  let invocation : Invocation := ⟨StreamId.control, command.id, command.payload⟩
  let emptied : Agent Link := { a with slots := a.slots.set StreamId.control .empty }
  refine ⟨(emptied.setPhase 0 (.handling invocation)).record (.invoked invocation), ?_, ?_, rfl⟩
  · have header : CommandHeader.decode command.body = .ok ⟨command.id⟩ :=
      CommandHeader.decode_encode_append ..
    simp only [Agent.takeUp, S.slot, Slot.pop, header]
    rfl
  · exact ⟨S.link, S.running, S.free, StreamTable.get_set_self ..,
      by simp [setPhase, record, emptied, S.workers, invocation], S.serves⟩

/-- The handler returns. -/
theorem Stands.handled {invocation : Invocation} (S : a.Stands none (.handling invocation))
    (result : Except Status Octets) :
    (a.handled 0 invocation result).Stands none
      (.answering (responsePayload invocation.id result)) :=
  ⟨S.link, S.running, S.free, S.slot, by simp [Agent.handled, setPhase, S.workers], S.serves⟩

/-- The frame of an agent's next response on the control stream. -/
def responsePost (a : Agent Link) (payload : Octets) (fits : payload.length ≤ Frame.maxPayload) :
    Post :=
  ⟨.response, a.outbound.peek, StreamId.control, payload, fits⟩

/-- The response leaves, and the worker waits again. -/
theorem Stands.answer {payload : Octets} (S : a.Stands none (.answering payload))
    (fits : payload.length ≤ Frame.maxPayload) :
    ∃ b : Agent Link, a.answer ⟨0, StreamId.control, .answering payload⟩ payload =
        b.withLink (bearing .agent [(a.responsePost payload fits).octets]) ∧ b.Vacant := by
  refine ⟨a.sent.setPhase 0 .waiting, ?_, ?_⟩
  · rw [Agent.answer, a.sendPayload_bearing S.link S.running fits]
    rfl
  · exact ⟨S.link, S.running, S.free, S.slot, by simp [sent, setPhase, S.workers], S.serves⟩

end Agent

namespace Session

variable (conduct : Conduct) (clock : Nat) {c : Controller Link} {a : Agent Link}
  {stream : StreamId} {command : Command} {timeout : Option Duration}

/-- A new command on the control stream is held. -/
theorem onward_hold (C : c.Vacant stream) (A : a.Vacant) {p : Post} (kind : p.kind = .command)
    (control : p.stream = StreamId.control) (new : a.inbound.isRepeat p.seq = false) :
    Onward conduct clock c [] a [p.octets] c [] (a.keeping p) [] :=
  onward_agentHear C.free A.free A.workersWait fun _ => by
    rw [A.hear kind control new]
    exact exchange_idle ⟨C.link, A.link⟩

/-- A command that is held gets into its slot. -/
theorem onward_accept (C : c.Vacant stream) (A : a.Vacant) {p : Post}
    (control : p.stream = StreamId.control) (next : a.inbound.isGap p.seq = false) :
    ∃ b : Agent Link, b.Stands (some p.payload) .waiting ∧ b.outbound = a.outbound ∧
      Onward conduct clock c [] (a.keeping p) [] c [] b [] := by
  obtain ⟨b, delivered, B, same⟩ := A.pass control next
  exact ⟨b, B, same, onward_agentDeliver C.free delivered (.of_empty A.slot A.workers) fun _ =>
    exchange_idle ⟨C.link, B.link⟩⟩

/-- The worker of the control stream takes a command up. -/
theorem onward_takeUp (C : c.Vacant stream) (S : a.Stands (some command.body) .waiting) :
    ∃ b : Agent Link,
      b.Stands none (.handling ⟨StreamId.control, command.id, command.payload⟩) ∧
      b.outbound = a.outbound ∧ Onward conduct clock c [] a [] c [] b [] := by
  obtain ⟨b, taken, B, same⟩ := S.takeUp
  exact ⟨b, B, same, onward_work C.free S.free S.workers (by simp [AgentSide.stepWorker, taken])
    fun _ => exchange_idle ⟨C.link, B.link⟩⟩

/-- The handler returns. -/
theorem onward_handle (C : c.Vacant stream) {invocation : Invocation}
    (S : a.Stands none (.handling invocation)) {result : Except Status Octets}
    (answered : conduct.answer invocation = (false, result)) :
    Onward conduct clock c [] a [] c [] (a.handled 0 invocation result) [] :=
  onward_work C.free S.free S.workers (by simp [AgentSide.stepWorker, answered]) fun _ =>
    exchange_idle ⟨C.link, (S.handled result).link⟩

/-- The response leaves for the controller. -/
theorem onward_respond (C : c.Vacant stream) {payload : Octets}
    (S : a.Stands none (.answering payload)) (fits : payload.length ≤ Frame.maxPayload) :
    ∃ b : Agent Link, b.Vacant ∧
      Onward conduct clock c [] a [] c [(a.responsePost payload fits).octets] b [] := by
  obtain ⟨b, left, B⟩ := S.answer fits
  exact ⟨b, B, onward_work C.free S.free S.workers (by simp [AgentSide.stepWorker, left])
    fun _ => exchange_down ⟨C.link, B.link⟩ (Post.length_octets_le _)⟩

/-- A new command on the control stream is answered. -/
theorem leads_answer {Q : Session → Prop} {n : Nat} (C : c.Vacant command.stream) (A : a.Vacant)
    (p : Post) (kind : p.kind = .command) (control : p.stream = StreamId.control)
    (payload : p.payload = command.body) (new : a.inbound.isRepeat p.seq = false)
    (next : a.inbound.isGap p.seq = false) {result : Except Status Octets}
    (answered : conduct.answer ⟨StreamId.control, command.id, command.payload⟩ = (false, result))
    (fits : (Agent.responsePayload command.id result).length ≤ Frame.maxPayload)
    (H : ∀ b : Agent Link, b.Vacant → LeadsListening Q n conduct clock command timeout c
      [(a.responsePost _ fits).octets] b []) :
    LeadsListening Q (n + 10) conduct clock command timeout c [] a [p.octets] := by
  obtain ⟨b₁, B₁, same₁, accepts⟩ := onward_accept conduct clock C A control next
  rw [payload] at B₁
  obtain ⟨b₂, B₂, same₂, takesUp⟩ := onward_takeUp conduct clock C B₁
  have B₃ := B₂.handled result
  obtain ⟨b₄, B₄, responds⟩ := onward_respond conduct clock C B₃ fits
  have post : (b₂.handled 0 ⟨StreamId.control, command.id, command.payload⟩ result).responsePost _
      fits = a.responsePost _ fits := by
    rw [Agent.responsePost, Agent.responsePost, ← same₁, ← same₂]
    rfl
  rw [post] at responds
  have responding := responds.leads_listening C.slot ⟨C.link, B₃.link⟩ (H b₄ B₄)
  have handles := onward_handle conduct clock C B₂ answered
  have handling := handles.leads_listening C.slot ⟨C.link, B₂.link⟩ responding
  have waiting := takesUp.leads_listening C.slot ⟨C.link, B₁.link⟩ handling
  have held := accepts.leads_listening C.slot ⟨C.link, A.link⟩ waiting
  have holds := onward_hold conduct clock C A kind control new
  exact holds.leads_listening C.slot ⟨C.link, A.link⟩ held

end Session

/-! ## The agent refuses -/

namespace Agent

variable {a : Agent Link}

/-- The frame that refuses a stream. -/
def refusalPost (a : Agent Link) (stream : StreamId) : Post :=
  ⟨.invalidStream, a.outbound.peek, stream, [], Nat.zero_le _⟩

/-- A new command on another stream is refused. -/
theorem Stands.refuse (S : a.Vacant) {p : Post} (kind : p.kind = .command)
    (other : p.stream ≠ StreamId.control) (new : a.inbound.isRepeat p.seq = false)
    (next : a.inbound.isGap p.seq = false) :
    ∃ b : Agent Link, b.Vacant ∧ a.receive (some p.octets) =
      b.withLink (bearing .agent [(a.refusalPost p.stream).octets]) := by
  let counted : Agent Link := { a with stats := a.stats.countReceived }
  have closed : counted.isOpen p.stream = false := by
    show a.isOpen p.stream = false
    simp [S.serves, other]
  have refused : counted.refuse p.stream =
      counted.sent.withLink (bearing .agent [(a.refusalPost p.stream).octets]) := by
    rw [Agent.refuse, notify, counted.sendPayload_bearing S.link S.running (Nat.zero_le _)]
    rfl
  have gapless : (counted.sent.withLink
      (bearing .agent [(a.refusalPost p.stream).octets])).inbound.isGap p.seq = false := next
  refine ⟨counted.sent.remember p.seq,
    ⟨S.link, S.running, S.free, S.slot, S.workers, S.serves⟩, ?_⟩
  simp only [receive, Incoming.ofOctets_octets, accept, Post.ofCode?_header, kind, Post.seq_header,
    new]
  show (if counted.isOpen p.stream then _ else
    ((counted.refuse p.stream).reportGap p.stream p.seq).remember p.seq) = _
  rw [closed, refused, reportGap, gapless]
  rfl

end Agent

theorem Session.onward_refuse (conduct : Conduct) (clock : Nat) {c : Controller Link}
    {a : Agent Link} {stream : StreamId} (C : c.Vacant stream) (A : a.Vacant) (p : Post)
    (kind : p.kind = .command) (other : p.stream ≠ StreamId.control)
    (new : a.inbound.isRepeat p.seq = false) (next : a.inbound.isGap p.seq = false) :
    ∃ b : Agent Link, b.Vacant ∧ Onward conduct clock c [] a [p.octets] c
      [(a.refusalPost p.stream).octets] b [] := by
  obtain ⟨b, B, refused⟩ := A.refuse kind other new next
  refine ⟨b, B, onward_agentHear C.free A.free A.workersWait fun _ => ?_⟩
  rw [refused]
  exact exchange_down ⟨C.link, B.link⟩ (Post.length_octets_le _)

/-! ## The controller hears -/

namespace Controller

variable {c : Controller Link} {stream : StreamId} {p : Post}

/-- The controller once its receive path holds the payload of a frame. -/
def keeping (c : Controller Link) (p : Post) : Controller Link :=
  { c with stats := c.stats.countReceived, receiving := some ⟨p.stream, p.payload, p.seq⟩ }

/-- A new response is held. -/
theorem hear_response (kind : p.kind = .response) (new : c.inbound.isRepeat p.seq = false) :
    c.receive (some p.octets) = c.keeping p := by
  simp [receive, Incoming.ofOctets_octets, accept, kind, new, keeping]

/-- A response that is held gets into its empty slot. -/
theorem Stands.pass (C : c.Vacant stream) (here : p.stream = stream) :
    ∃ d, (c.keeping p).deliver = some d ∧ d.Stands stream (some p.payload) := by
  subst here
  let stored := c.slots.set p.stream ⟨some p.payload, false, 0⟩
  refine ⟨{ c with slots := stored, stats := c.stats.countReceived }.finish (some .response) p.seq,
    ?_, ?_⟩
  · simp only [deliver, keeping, C.slot, Slot.push, C.free]
    rfl
  · exact ⟨C.link, C.running, C.free, StreamTable.get_set_self ..⟩

/-- A call that listens takes the response in its slot, whether it has begun to wait or not. -/
theorem Stands.take {command : Command} {body : Octets} (C : c.Stands command.stream (some body))
    (timeout : Option Duration) (seen : Option Nat) :
    ∃ d : Controller Link,
      (Call.listen ⟨command.stream, command.id, none, timeout, seen⟩).step c =
        (d, .done (reading command body)) ∧ d.Vacant command.stream := by
  refine ⟨{ c with slots := c.slots.set command.stream .empty }, ?_,
    ⟨C.link, C.running, C.free, StreamTable.get_set_self ..⟩⟩
  simp only [Call.step, C.slot, Slot.pop]
  rfl

/-- A new refusal is heard and changes nothing but the numbers. -/
theorem Stands.ignore (C : c.Vacant stream) (kind : p.kind = .invalidStream)
    (new : c.inbound.isRepeat p.seq = false) : (c.receive (some p.octets)).Vacant stream := by
  have ignored : c.receive (some p.octets) =
      { c with stats := c.stats.countReceived }.finish (some .invalidStream) p.seq := by
    simp [receive, Incoming.ofOctets_octets, accept, kind, new, dispatch]
  rw [ignored]
  exact ⟨C.link, C.running, C.free, C.slot⟩

end Controller

namespace Session

variable {conduct : Conduct} {clock : Nat} {c : Controller Link} {a : Agent Link}
  {command : Command} {timeout : Option Duration}

/-- A new response ends the call that listens for it. -/
theorem leads_hear {Q : Session → Prop} {n : Nat} (C : c.Vacant command.stream) (A : a.Vacant)
    (p : Post) (kind : p.kind = .response) (here : p.stream = command.stream)
    (new : c.inbound.isRepeat p.seq = false)
    (H : ∀ (d : Controller Link) seen, d.Vacant command.stream → Leads Q n (pair conduct clock d
      [returned (.listen ⟨command.stream, command.id, none, timeout, seen⟩) clock
        (Controller.reading command p.payload)] [] a [])) :
    LeadsListening Q (n + 5) conduct clock command timeout c [p.octets] a [] := by
  obtain ⟨d, delivered, D⟩ := C.pass here
  have hears : Onward conduct clock c [p.octets] a [] (c.keeping p) [] a [] :=
    onward_hear C.free A.free A.workersWait fun _ => by
      rw [Controller.hear_response kind new]
      exact exchange_idle ⟨C.link, A.link⟩
  have passes : Onward conduct clock (c.keeping p) [] a [] d [] a [] :=
    onward_deliver delivered A.free A.workersWait fun _ => exchange_idle ⟨D.link, A.link⟩
  have stored : LeadsListening Q (n + 1) conduct clock command timeout d [] a [] := by
    intro seen _
    obtain ⟨e, taken, E⟩ := D.take timeout seen
    exact leads_done (quiet_of_wait D.free A.free A.workersWait) ⟨E.link, A.link⟩ taken (H e seen E)
  have held := passes.leads_listening C.slot ⟨C.link, A.link⟩ stored
  exact hears.leads_listening C.slot ⟨C.link, A.link⟩ held

/-- A refusal leaves the call listening. -/
theorem onward_ignore (conduct : Conduct) (clock : Nat) (C : c.Vacant command.stream)
    (A : a.Vacant) (p : Post) (kind : p.kind = .invalidStream)
    (new : c.inbound.isRepeat p.seq = false) :
    ∃ d : Controller Link, d.Vacant command.stream ∧
      Onward conduct clock c [p.octets] a [] d [] a [] := by
  have D := C.ignore kind new
  exact ⟨_, D, onward_hear C.free A.free A.workersWait fun _ => exchange_idle ⟨D.link, A.link⟩⟩

/-- Where nothing is at hand, a call that listens begins to wait, and waits. -/
theorem leads_wait {Q : Session → Prop} {n : Nat} (timeout : Option Duration)
    (C : c.Vacant command.stream) (A : a.Vacant)
    (q : Q (pair conduct clock c [listening command timeout clock (some 0)] [] a [])) :
    LeadsListening Q (n + 1) conduct clock command timeout c [] a [] := by
  have K : Quiet conduct clock c [] a [] := .of_vacant C A
  rintro seen (rfl | rfl)
  · refine K.leads_call (advance_begin C.slot) ?_
    rw [exchange_idle (.of_vacant C A)]
    exact K.leads (advance_listening C.slot) q
  · exact K.leads (advance_listening C.slot) q

end Session

end CommandLink
