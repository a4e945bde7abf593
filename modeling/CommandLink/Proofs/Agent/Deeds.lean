import CommandLink.Proofs.Agent.Emissions
import CommandLink.Proofs.Agent.Shutdown

/-! # What each step of an agent's life does

`Agent.Host.Enacted` takes the steps of an agent apart: each deed with what it needs and what it
comes to. `Agent.Attempts` says what an agent means to send, in order: of these frames the link
takes some, and all of them if it is ready. What a received buffer makes an agent send is a list of
drafts that the buffer alone determines, with what the agent remembers and which streams are open
(`Agent.reaction`). -/

namespace CommandLink

/-- A frame that an agent means to send. -/
structure Draft where
  kind : FrameKind
  stream : UInt8
  payload : Octets
  deriving DecidableEq

/-- A frame without payload. -/
def Draft.notice (kind : FrameKind) (stream : UInt8) : Draft := ⟨kind, stream, []⟩

/-- The payload is not too long for a frame. -/
def Draft.fits (d : Draft) : Bool := d.payload.length ≤ Frame.maxPayload

def Emission.draft (e : Emission) : Draft := ⟨e.kind, e.stream, e.payload⟩

namespace Agent

variable {L : Type} [FrameLink L]

/-- `b` follows from `a` by attempts to send `drafts`, one after the other. -/
structure Attempts (a b : Agent L) (drafts : List Draft) : Prop where
  running : b.running = a.running
  ready : FrameLink.Ready a.link → FrameLink.Ready b.link
  sends : ∃ es : List Emission,
    FrameLink.taken b.link = FrameLink.taken a.link ++ es.map Emission.octets ∧
    b.stats.sent = a.stats.sent + es.length ∧ (es.map Emission.draft).Sublist drafts ∧
    (a.running = true → FrameLink.Ready a.link →
      es.map Emission.draft = drafts.filter Draft.fits)

variable {a b c : Agent L} {ds ds' : List Draft}

theorem Attempts.nothing (link : b.link = a.link) (sent : b.stats.sent = a.stats.sent)
    (running : b.running = a.running) : Attempts a b [] :=
  ⟨running, fun ready => link ▸ ready, [], by simp [link], sent, .refl _, fun _ _ => rfl⟩

theorem Attempts.trans (H : Attempts a b ds) (H' : Attempts b c ds') :
    Attempts a c (ds ++ ds') := by
  obtain ⟨es, taken, sent, some_, all⟩ := H.sends
  obtain ⟨es', taken', sent', some', all'⟩ := H'.sends
  refine ⟨H'.running.trans H.running, H'.ready ∘ H.ready, es ++ es', ?_, ?_, ?_, ?_⟩
  · rw [taken', taken, List.map_append, List.append_assoc]
  · rw [sent', sent, List.length_append, Nat.add_assoc]
  · rw [List.map_append]
    exact some_.append some'
  · intro running ready
    rw [List.map_append, all running ready, all' (H.running.trans running) (H.ready ready),
      List.filter_append]

/-- What comes before changes neither link nor counter, and neither does what comes after. -/
theorem Attempts.congr {a' b' : Agent L} (H : Attempts a b ds)
    (before : a'.link = a.link ∧ a'.stats.sent = a.stats.sent ∧ a'.running = a.running)
    (after : b'.link = b.link ∧ b'.stats.sent = b.stats.sent ∧ b'.running = b.running) :
    Attempts a' b' ds := by
  have began : Attempts a' a [] := .nothing before.1.symm before.2.1.symm before.2.2.symm
  have ended : Attempts b b' [] := .nothing after.1 after.2.1 after.2.2
  simpa using (began.trans H).trans ended

theorem Attempts.remember (H : Attempts a b ds) (seq : SeqNum) :
    Attempts a (b.remember seq) ds := H.congr ⟨rfl, rfl, rfl⟩ ⟨rfl, rfl, rfl⟩

theorem Attempts.sent_le (H : Attempts a b ds) : b.stats.sent ≤ a.stats.sent + ds.length := by
  obtain ⟨es, -, sent, some_, -⟩ := H.sends
  have shorter := some_.length_le
  rw [List.length_map] at shorter
  omega

/-- Of the drafts of a certain sort, none of which is too long, the link takes some, in order, and
all of them if it is ready. -/
theorem Attempts.chosen (H : Attempts a b ds) (p : Draft → Bool)
    (fits : ∀ d ∈ ds.filter p, d.fits = true) : ∃ es : List Emission,
    FrameLink.taken b.link = FrameLink.taken a.link ++ es.map Emission.octets ∧
    ((es.map Emission.draft).filter p).Sublist (ds.filter p) ∧
    (a.running = true → FrameLink.Ready a.link →
      (es.map Emission.draft).filter p = ds.filter p) := by
  obtain ⟨es, taken, -, some_, all⟩ := H.sends
  refine ⟨es, taken, some_.filter p, fun running ready => ?_⟩
  have swap : (ds.filter Draft.fits).filter p = (ds.filter p).filter Draft.fits := by
    simp only [List.filter_filter, Bool.and_comm]
  rw [all running ready, swap]
  exact List.filter_eq_self.mpr fits

/-! ## Drafts -/

/-- The announcement of a start. -/
def announcement : Draft := .notice .agentStart (StreamId.toOctet StreamId.control)

/-- The report of a gap before a frame, if there is one. -/
def lossReport (r : Inbound) (stream : StreamId) (seq : SeqNum) : List Draft :=
  if r.isGap seq then [.notice .packetLoss stream.toOctet] else []

/-- The answer to a sync request, sound or not. -/
def syncAnswer (r : Inbound) (stream : StreamId) (payload : Octets) : Draft :=
  if payload.length = SyncRequest.size then
    match SyncRequest.decode payload with
    | .error _ => .notice .error stream.toOctet
    | .ok request =>
      ⟨.syncResponse, stream.toOctet, SyncResponse.encode ⟨request.token, r.lastSeen,
        protocolVersion⟩⟩
  else .notice .error stream.toOctet

/-- What an agent means to send when it takes in a sound frame. -/
def answerTo (a : Agent L) (header : Header) (stream : StreamId) (payload : Octets) : List Draft :=
  match FrameKind.ofCode? header.kind with
  | some .agentReset =>
    lossReport a.inbound stream header.seq ++ if a.config.announce then [announcement] else []
  | some .syncRequest => [syncAnswer a.inbound stream payload]
  | kind =>
    if a.inbound.isRepeat header.seq then []
    else
      match kind with
      | some .command =>
        if a.isOpen stream then []
        else .notice .invalidStream stream.toOctet :: lossReport a.inbound stream header.seq
      | some .error => lossReport a.inbound stream header.seq
      | _ => .notice .error stream.toOctet :: lossReport a.inbound stream header.seq

/-- What an agent means to send when its receive path takes what the link hands over. -/
def reaction (a : Agent L) (buffer : Option Octets) : List Draft :=
  match buffer with
  | none => []
  | some octets =>
    match Incoming.ofOctets octets with
    | .short => []
    | .badStream header => [.notice .invalidStream header.stream]
    | .overLength header _ => [.notice .error header.stream]
    | .frame header stream payload => a.answerTo header stream payload

/-- What an agent means to send when the receive path passes on the command that it holds. -/
def handover (a : Agent L) (command : PendingCommand) : List Draft :=
  (if (a.slots.get command.stream).closed then
    [.notice .invalidStream command.stream.toOctet] else []) ++
    lossReport a.inbound command.stream command.seq

theorem length_lossReport_le (r : Inbound) (stream : StreamId) (seq : SeqNum) :
    (lossReport r stream seq).length ≤ 1 := by
  unfold lossReport
  split <;> simp

omit [FrameLink L] in
/-- Two frames at most are the answer to a frame. -/
theorem length_answerTo_le (a : Agent L) (header : Header) (stream : StreamId)
    (payload : Octets) : (a.answerTo header stream payload).length ≤ 2 := by
  have report := length_lossReport_le a.inbound stream header.seq
  have announced : (if a.config.announce then [announcement] else []).length ≤ 1 := by
    split <;> simp
  unfold answerTo
  split
  · rw [List.length_append]
    omega
  · simp
  · split
    · simp
    · split
      · split
        · simp
        · rw [List.length_cons]
          omega
      · omega
      · rw [List.length_cons]
        omega

omit [FrameLink L] in
theorem length_reaction_le (a : Agent L) (octets : Octets) :
    (a.reaction (some octets)).length ≤ 2 := by
  simp only [reaction]
  split
  · simp
  · simp
  · simp
  · exact a.length_answerTo_le _ _ _

omit [FrameLink L] in
/-- A command that is not a repeat is refused if its stream is not open, and is kept otherwise. -/
theorem reaction_of_command {octets body : Octets} {stream : StreamId}
    (found : commandIn a.inbound octets = some (stream, body)) :
    ∃ seq, a.reaction (some octets) = if a.isOpen stream then []
      else .notice .invalidStream stream.toOctet :: lossReport a.inbound stream seq := by
  unfold commandIn at found
  split at found
  · next header stream payload sound =>
    obtain ⟨⟨kind, fresh⟩, eq⟩ := Option.ite_none_right_eq_some.mp found
    cases eq
    refine ⟨header.seq, ?_⟩
    simp only [reaction, sound, answerTo, kind, fresh, Bool.false_eq_true, if_false]
  · cases found

/-- A command that is held is not answered yet. -/
theorem reaction_of_held (free : a.receiving = none) {buffer : Option Octets}
    {command : PendingCommand} (held : (a.receive buffer).receiving = some command) :
    a.reaction buffer = [] := by
  obtain ⟨octets, rfl, found, opened⟩ := commandIn_of_held free held
  obtain ⟨seq, eq⟩ := reaction_of_command found
  rw [eq, if_pos opened]

theorem attempts_sendPayload (a : Agent L) (kind : FrameKind) (stream : UInt8)
    (payload : Octets) : Attempts a (a.sendPayload kind stream payload).2
      [⟨kind, stream, payload⟩] := by
  have ready : FrameLink.Ready a.link →
      FrameLink.Ready (a.sendPayload kind stream payload).2.link :=
    fun h => (sendPayload_of_ready h kind stream payload).1
  rcases a.sendPayload_sends kind stream payload with ⟨e, link, h, ht⟩ | ⟨fits, link, h, ht⟩
  · have willing := fun hr => (sendPayload_of_ready (a := a) hr kind stream payload).2
    rw [h] at ready willing ⊢
    refine ⟨rfl, ready, [], by simpa using ht, rfl, List.nil_sublist _, fun running hr => ?_⟩
    have long : ¬ payload.length ≤ Frame.maxPayload := fun fits => nomatch willing hr running fits
    simp [Draft.fits, long]
  · rw [h] at ready ⊢
    exact ⟨rfl, ready, [⟨kind, a.outbound.peek, stream, payload, fits⟩], ht, rfl, .refl _,
      fun _ _ => by simp [Emission.draft, Draft.fits, fits]⟩

theorem attempts_notify (a : Agent L) (kind : FrameKind) (stream : UInt8) :
    Attempts a (a.notify kind stream) [.notice kind stream] := a.attempts_sendPayload kind stream []

theorem attempts_reportGap (a : Agent L) (stream : StreamId) (seq : SeqNum) :
    Attempts a (a.reportGap stream seq) (lossReport a.inbound stream seq) := by
  unfold reportGap lossReport
  split
  · exact (attempts_notify { a with stats := a.stats.countGap } .packetLoss _).congr
      ⟨rfl, rfl, rfl⟩ ⟨rfl, rfl, rfl⟩
  · exact .nothing rfl rfl rfl

theorem attempts_answerSync (a : Agent L) (stream : StreamId) (payload : Octets) :
    Attempts a (a.answerSync stream payload) [syncAnswer a.inbound stream payload] := by
  unfold answerSync syncAnswer
  split
  · cases SyncRequest.decode payload with
    | error e => exact a.attempts_notify .error _
    | ok request => exact a.attempts_sendPayload .syncResponse _ _
  · exact a.attempts_notify .error _

theorem attempts_restart (a : Agent L) :
    Attempts a a.restart (if a.config.announce then [announcement] else []) := by
  have renewed : Attempts a a.renewed [] := .nothing rfl rfl rfl
  rw [restart_eq_renewed]
  split
  · exact renewed.trans (a.renewed.attempts_sendPayload .agentStart _ [])
  · exact renewed

/-- A frame that is answered with a notice, and behind it with the report of a gap. -/
theorem attempts_noticed (a : Agent L) (kind : FrameKind) (stream : StreamId) (seq : SeqNum) :
    Attempts a (((a.notify kind stream.toOctet).reportGap stream seq).remember seq)
      (.notice kind stream.toOctet :: lossReport a.inbound stream seq) := by
  obtain ⟨link, outbound, sent, eq⟩ := a.notify_eq kind stream
  have same : (a.notify kind stream.toOctet).inbound = a.inbound := by rw [eq]
  have reported := (a.notify kind stream.toOctet).attempts_reportGap stream seq
  rw [same] at reported
  exact ((a.attempts_notify kind stream.toOctet).trans reported).remember seq

theorem attempts_accept (a : Agent L) (header : Header) (stream : StreamId) (payload : Octets) :
    Attempts a (a.accept header stream payload) (a.answerTo header stream payload) := by
  have again : Attempts a ({ a with stats := a.stats.countRepeat }.remember header.seq) [] :=
    .nothing rfl rfl rfl
  have unknown : Attempts a
      (if a.inbound.isRepeat header.seq then
        { a with stats := a.stats.countRepeat }.remember header.seq
      else ((a.notify .error stream.toOctet).reportGap stream header.seq).remember header.seq)
      (if a.inbound.isRepeat header.seq then []
      else .notice .error stream.toOctet :: lossReport a.inbound stream header.seq) := by
    split
    · exact again
    · exact a.attempts_noticed .error stream header.seq
  unfold accept answerTo
  simp only
  cases FrameKind.ofCode? header.kind with
  | none => exact unknown
  | some kind =>
    cases kind with
    | agentReset =>
      have config : (a.reportGap stream header.seq).config = a.config :=
        (a.reportGap_aside stream header.seq).config
      have restarted := (a.reportGap stream header.seq).attempts_restart
      rw [config] at restarted
      exact (a.attempts_reportGap stream header.seq).trans restarted
    | syncRequest => exact (a.attempts_answerSync stream payload).remember header.seq
    | command =>
      simp only
      split
      · exact again
      · split
        · exact .nothing rfl rfl rfl
        · exact a.attempts_noticed .invalidStream stream header.seq
    | error =>
      simp only
      split
      · exact again
      · exact (a.attempts_reportGap stream header.seq).remember header.seq
    | _ => exact unknown

theorem attempts_receive (a : Agent L) (buffer : Option Octets) :
    Attempts a (a.receive buffer) (a.reaction buffer) := by
  have noticed : ∀ (b : Agent L) (kind : FrameKind) (stream : UInt8) (seq : SeqNum),
      b.link = a.link → b.stats.sent = a.stats.sent → b.running = a.running →
      Attempts a ((b.notify kind stream).remember seq) [.notice kind stream] :=
    fun b kind stream seq link sent running =>
      (b.attempts_notify kind stream).congr ⟨link.symm, sent.symm, running.symm⟩ ⟨rfl, rfl, rfl⟩
  cases buffer with
  | none => exact .nothing rfl rfl rfl
  | some octets =>
    simp only [receive, reaction]
    cases Incoming.ofOctets octets with
    | short => exact .nothing rfl rfl rfl
    | badStream header => exact noticed _ _ _ _ rfl rfl rfl
    | overLength header stream => exact noticed _ _ _ _ rfl rfl rfl
    | frame header stream payload =>
      exact (a.counted.attempts_accept header stream payload).congr ⟨rfl, rfl, rfl⟩ ⟨rfl, rfl, rfl⟩

theorem attempts_deliver (h : a.deliver = some b) :
    ∃ command, a.receiving = some command ∧ Attempts a b (a.handover command) := by
  unfold deliver at h
  split at h
  · cases h
  · next command held =>
    refine ⟨command, held, ?_⟩
    rw [handover]
    simp only at h
    split at h
    · cases h
    · next refused =>
      cases h
      have closed : (a.slots.get command.stream).closed = true := by
        simp only [Slot.push] at refused
        split at refused
        · assumption
        · split at refused <;> cases refused
      rw [if_pos closed]
      exact (attempts_noticed { a with receiving := none } .invalidStream command.stream
        command.seq).congr ⟨rfl, rfl, rfl⟩ ⟨rfl, rfl, rfl⟩
    · next slot stored =>
      cases h
      have open_ : ¬ (a.slots.get command.stream).closed = true := by
        intro closed
        simp [Slot.push, closed] at stored
      rw [if_neg open_]
      exact (attempts_reportGap { a with
        receiving := none, slots := a.slots.set command.stream slot } command.stream
        command.seq).congr ⟨rfl, rfl, rfl⟩ ⟨rfl, rfl, rfl⟩

theorem attempts_answer (a : Agent L) (w : Worker) (payload : Octets) :
    Attempts a (a.answer w payload) [⟨.response, w.stream.toOctet, payload⟩] :=
  (a.attempts_sendPayload .response w.stream.toOctet payload).congr ⟨rfl, rfl, rfl⟩ ⟨rfl, rfl, rfl⟩

/-- Of the frames that an agent starts with, there is one at most. -/
theorem attempts_start (link : L) (config : AgentConfig) :
    Attempts (fresh link config) (start link config).2
      (if config.announce then [announcement] else []) := by
  unfold start
  simp only
  split
  · exact (fresh link config).attempts_sendPayload .agentStart _ []
  · exact .nothing rfl rfl rfl

/-! ## Deeds -/

/-- What a step of a call does not touch. -/
theorem Call.step_eq (a : Agent L) (caller : Option WorkerId) (call : Call) :
    ∃ link running serving slots workers, (call.step a caller).1 = { a with
      link := link, running := running, serving := serving, slots := slots
      workers := workers } := by
  have same : ∃ link running serving slots workers, a = { a with
      link := link, running := running, serving := serving, slots := slots
      workers := workers } := ⟨a.link, a.running, a.serving, a.slots, a.workers, rfl⟩
  by_cases mild : call.Mild
  · obtain ⟨⟨serving, slots, workers, eq⟩, -⟩ := mild.step a caller
    exact ⟨a.link, a.running, serving, slots, workers, eq⟩
  · cases call with
    | shutdownBegin =>
      simp only [step]
      split
      · exact ⟨a.link, false, a.serving, a.slots, a.workers, rfl⟩
      · exact same
    | shutdownClose => exact ⟨a.link, a.running, a.serving, _, a.workers, rfl⟩
    | shutdownTake => exact ⟨a.link, a.running, _, a.slots, a.workers, rfl⟩
    | join workers after =>
      cases after with
      | finish => exact absurd trivial mild
      | stopLink =>
        simp only [step]
        split
        · exact ⟨_, a.running, a.serving, a.slots, a.workers, rfl⟩
        · exact same
    | _ => exact absurd trivial mild

/-- A call sends nothing, even if it stops the link. -/
theorem Call.taken_step (quiet : FrameLink.StopsQuietly L) (a : Agent L)
    (caller : Option WorkerId) (call : Call) :
    FrameLink.taken (call.step a caller).1.link = FrameLink.taken a.link := by
  by_cases last : call.HasTaken
  · cases call with
    | join workers after =>
      cases after with
      | finish => exact last.elim
      | stopLink =>
        simp only [step]
        split
        · exact quiet a.link
        · rfl
    | _ => exact last.elim
  · rw [Call.link_step last]

/-- No call makes an agent run again. -/
theorem Call.running_of_step {caller : Option WorkerId} {call : Call}
    (running : (call.step a caller).1.running = true) : a.running = true := by
  by_cases halted : a.running = true
  · exact halted
  · rw [Call.halted_step (by simpa using halted)] at running
    cases running

/-- The octets that the link hands over. -/
def Deed.heard? : Deed → Option Octets
  | .hear buffer => buffer
  | _ => none

namespace Host

/-- The deeds, each with what it needs and what it comes to. -/
inductive Enacted (h : Host L) : Deed → Host L → Prop
  | event (header : EventHeader) (args : Octets) : Enacted h (.act (.event header args))
      { h with endpoint := (h.endpoint.sendEvent header args).2 }
  | announce : Enacted h (.act .announce) { h with endpoint := h.endpoint.announce.2 }
  | watch (resets : Bool) : Enacted h (.act (.watch resets))
      { h with endpoint := { h.endpoint with onReset := resets } }
  | begin (errand : Errand) (caller : Option WorkerId) : Enacted h (.act (.begin errand caller))
      { h with threads := h.threads ++ [⟨caller, errand.call, none⟩] }
  | deinit (caller : Option WorkerId) : Enacted h (.deinit caller)
      { h with threads := h.threads ++ [⟨caller, .deinit, none⟩] }
  | advance {i : Nat} {t u : Thread} (thread : h.threads[i]? = some t) (free : t.result = none)
      (take : t.take (t.call.step h.endpoint t.caller).2 = some u) :
      Enacted h (.act (.advance i)) { h with
        endpoint := (t.call.step h.endpoint t.caller).1, threads := h.threads.set i u }
  | hear (buffer : Option Octets) (free : h.endpoint.receiving = none) :
      Enacted h (.hear buffer) { h with endpoint := h.endpoint.receive buffer }
  | pass {a : Agent L} (deliver : h.endpoint.deliver = some a) :
      Enacted h (.act .pass) { h with endpoint := a }
  | takeUp {i : Nat} {w : Worker} {a : Agent L} (worker : h.endpoint.workers[i]? = some w)
      (waits : w.phase = .waiting) (take : h.endpoint.takeUp w = some a) :
      Enacted h (.act (.takeUp i)) { h with endpoint := a }
  | handle {i : Nat} {id : WorkerId} {stream : StreamId} {invocation : Invocation}
      (result : Except Status Octets)
      (worker : h.endpoint.workers[i]? = some ⟨id, stream, .handling invocation⟩) :
      Enacted h (.act (.handle i result)) { h with
        endpoint := h.endpoint.handled id invocation result
        outcomes := h.outcomes ++ [⟨invocation, result⟩] }
  | answer {i : Nat} {id : WorkerId} {stream : StreamId} {payload : Octets}
      (worker : h.endpoint.workers[i]? = some ⟨id, stream, .answering payload⟩) :
      Enacted h (.act (.answer i))
        { h with endpoint := h.endpoint.answer ⟨id, stream, .answering payload⟩ payload }

variable {h h' : Host L} {deed : Deed}

theorem enacted (ha : h.enact deed = some h') : Enacted h deed h' := by
  cases deed with
  | hear buffer =>
    obtain ⟨free, ha⟩ := Option.ite_none_left_eq_some.mp ha
    cases ha
    exact .hear buffer (by simpa using free)
  | deinit caller =>
    cases ha
    exact .deinit caller
  | act action =>
    have ha : h.act [] action = some h' := ha
    cases action with
    | event header args =>
      cases ha
      exact .event header args
    | announce =>
      cases ha
      exact .announce
    | watch resets =>
      cases ha
      exact .watch resets
    | begin errand caller =>
      cases ha
      exact .begin errand caller
    | advance i =>
      obtain ⟨t, u, thread, free, take, rfl⟩ := advance_cases ha
      exact .advance thread free take
    | hear =>
      obtain ⟨octets, none, -, -⟩ := act_hear ha
      cases none
    | pass =>
      obtain ⟨a, deliver, rfl⟩ := Option.map_eq_some_iff.mp ha
      exact .pass deliver
    | takeUp i =>
      obtain ⟨w, a, worker, waits, take, rfl⟩ := act_takeUp ha
      exact .takeUp worker waits take
    | handle i result =>
      obtain ⟨id, stream, invocation, worker, rfl⟩ := act_handle ha
      exact .handle result worker
    | answer i =>
      obtain ⟨id, stream, payload, worker, rfl⟩ := act_answer ha
      exact .answer worker

/-- What an agent means to send in the course of a deed. -/
def drafts (h : Host L) : Deed → List Draft
  | .act (.event header args) => [⟨.event, StreamId.control.toOctet, header.encode ++ args⟩]
  | .act .announce => [announcement]
  | .act .pass =>
    match h.endpoint.receiving with
    | some command => h.endpoint.handover command
    | none => []
  | .act (.answer i) =>
    match h.endpoint.workers[i]? with
    | some ⟨_, stream, .answering payload⟩ => [⟨.response, stream.toOctet, payload⟩]
    | _ => []
  | .hear buffer => h.endpoint.reaction buffer
  | _ => []

/-- Calls apart, a deed attempts to send what it means to send. -/
theorem attempts_enact (ha : h.enact deed = some h') (other : ∀ i, deed ≠ .act (.advance i)) :
    Attempts h.endpoint h'.endpoint (h.drafts deed) := by
  cases enacted ha with
  | event header args => exact h.endpoint.attempts_sendPayload .event _ _
  | announce => exact h.endpoint.attempts_sendPayload .agentStart _ []
  | advance => exact absurd rfl (other _)
  | hear buffer => exact h.endpoint.attempts_receive buffer
  | pass deliver =>
    obtain ⟨command, held, attempts⟩ := attempts_deliver deliver
    rw [drafts, held]
    exact attempts
  | takeUp worker waits take =>
    obtain ⟨slots, workers, log, rfl⟩ := takeUp_eq take
    exact .nothing rfl rfl rfl
  | answer worker =>
    rw [drafts, worker]
    exact h.endpoint.attempts_answer _ _
  | _ => exact .nothing rfl rfl rfl

/-- As many frames are counted as sent as the link takes. -/
theorem taken_enact (quiet : FrameLink.StopsQuietly L) (ha : h.enact deed = some h') :
    (FrameLink.taken h'.endpoint.link).length + h.endpoint.stats.sent =
      (FrameLink.taken h.endpoint.link).length + h'.endpoint.stats.sent := by
  by_cases calls : ∃ i, deed = .act (.advance i)
  · obtain ⟨i, rfl⟩ := calls
    cases enacted ha with
    | @advance _ t u =>
      obtain ⟨link, running, serving, slots, workers, eq⟩ :=
        Call.step_eq h.endpoint t.caller t.call
      have sent : (t.call.step h.endpoint t.caller).1.stats = h.endpoint.stats := by rw [eq]
      rw [Call.taken_step quiet, sent]
  · obtain ⟨es, taken, sent, -⟩ := (attempts_enact ha fun i e => calls ⟨i, e⟩).sends
    rw [taken, sent, List.length_append, List.length_map]
    omega

theorem running_enact (ha : h.enact deed = some h') (running : h'.endpoint.running = true) :
    h.endpoint.running = true := by
  by_cases calls : ∃ i, deed = .act (.advance i)
  · obtain ⟨i, rfl⟩ := calls
    cases enacted ha with
    | advance thread free take => exact Call.running_of_step running
  · exact (attempts_enact ha fun i e => calls ⟨i, e⟩).running ▸ running

/-- Only hearing changes what the receive path comes to. -/
theorem ear_enact (ha : h.enact deed = some h') (deaf : ∀ buffer, deed ≠ .hear buffer) :
    h'.endpoint.ear.pass = h.endpoint.ear.pass := by
  have sends : ∀ (kind : FrameKind) (stream : UInt8) (payload : Octets),
      (h.endpoint.sendPayload kind stream payload).2.ear = h.endpoint.ear := by
    intro kind stream payload
    obtain ⟨link, outbound, sent, eq⟩ := h.endpoint.sendPayload_touches kind stream payload
    rw [eq]
    rfl
  cases enacted ha with
  | event header args => exact congrArg Ear.pass (sends _ _ _)
  | announce => exact congrArg Ear.pass (sends _ _ _)
  | @advance _ t u =>
    obtain ⟨link, running, serving, slots, workers, eq⟩ :=
      Call.step_eq h.endpoint t.caller t.call
    simp only [eq]
    rfl
  | hear buffer => exact absurd rfl (deaf buffer)
  | pass deliver =>
    rw [ear_deliver deliver]
    exact Ear.pass_pass _
  | takeUp worker waits take =>
    obtain ⟨slots, workers, log, rfl⟩ := takeUp_eq take
    rfl
  | answer worker => exact congrArg Ear.pass (sends _ _ _)
  | _ => rfl

/-- Only hearing is counted as receiving. -/
theorem received_enact (ha : h.enact deed = some h') (deaf : ∀ buffer, deed ≠ .hear buffer) :
    h'.endpoint.stats.received = h.endpoint.stats.received := by
  have ear := congrArg Ear.received (ear_enact ha deaf)
  rw [Ear.received_pass, Ear.received_pass] at ear
  exact ear

end Host
end Agent
end CommandLink
