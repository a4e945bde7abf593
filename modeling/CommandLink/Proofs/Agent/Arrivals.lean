import CommandLink.Proofs.Agent.Hearing

/-! # Whatever arrives at an agent

What a link hands over need not be a frame of a controller: it may be too short, name a stream that
does not exist, declare more than it carries, or be of any kind. Whatever it is, the agent sends no
response, and leaves its slots and its workers alone (`Agent.Aside`). It remembers what
`Inbound.afterArrival` says, and holds the command that `Agent.commandIn` finds in what has arrived,
if the stream of the command is open. -/

namespace CommandLink

/-- What an agent remembers after whatever has arrived. -/
def Inbound.afterArrival (r : Inbound) (octets : Octets) : Inbound :=
  match Incoming.ofOctets octets with
  | .short => r
  | .badStream header | .overLength header _ => r.record header.seq
  | .frame header _ _ =>
    if FrameKind.ofCode? header.kind = some .agentReset then .fresh else r.record header.seq

namespace Agent

/-- The command in what has arrived, unless it is a repeat to an agent that remembers `r`. -/
def commandIn (r : Inbound) (octets : Octets) : Option (StreamId × Octets) :=
  match Incoming.ofOctets octets with
  | .frame header stream payload =>
    if FrameKind.ofCode? header.kind = some .command ∧ r.isRepeat header.seq = false then
      some (stream, payload)
    else none
  | _ => none

variable {L : Type} [FrameLink L]

/-- `b` follows from `a` by anything that sends no response and leaves slots and workers alone. -/
structure Aside (a b : Agent L) : Prop where
  said : ∃ frames, FrameLink.taken b.link = FrameLink.taken a.link ++ frames ∧
    ∀ octets ∈ frames, kindIn octets ≠ some .response
  ready : FrameLink.Ready a.link → FrameLink.Ready b.link
  config : b.config = a.config
  running : b.running = a.running
  slots : b.slots = a.slots
  serving : b.serving = a.serving
  workers : b.workers = a.workers
  invocations : b.invocations = a.invocations

theorem Aside.trans {a b c : Agent L} (H : Aside a b) (H' : Aside b c) : Aside a c where
  said := by
    obtain ⟨ps, hp, hk⟩ := H.said
    obtain ⟨qs, hq, hk'⟩ := H'.said
    refine ⟨ps ++ qs, by rw [hq, hp, List.append_assoc], fun o ho => ?_⟩
    exact (List.mem_append.mp ho).elim (hk o) (hk' o)
  ready h := H'.ready (H.ready h)
  config := H'.config.trans H.config
  running := H'.running.trans H.running
  slots := H'.slots.trans H.slots
  serving := H'.serving.trans H.serving
  workers := H'.workers.trans H.workers
  invocations := H'.invocations.trans H.invocations

/-- Counters, numbers and what is held do not matter. -/
theorem Aside.within (a : Agent L) (outbound : Outbound) (inbound : Inbound) (stats : LinkStats)
    (receiving : Option PendingCommand) :
    Aside a { a with
      outbound := outbound, inbound := inbound, stats := stats, receiving := receiving } :=
  ⟨⟨[], (List.append_nil _).symm, fun _ ho => (List.not_mem_nil ho).elim⟩, id, rfl, rfl, rfl, rfl,
    rfl, rfl⟩

/-- The kind that a peer finds in a frame is the kind under which it was sent. -/
theorem kindIn_frame (header : Header) (kind : FrameKind) (payload : Octets)
    (h : header.kind = kind.code) :
    kindIn (header.encode ++ payload) = some kind ∨ kindIn (header.encode ++ payload) = none := by
  have decoded := Header.decode_encode_append header (h ▸ FrameKind.code_lt kind) payload
  have kindOf : ∀ o : Octets, Header.decode o = .ok header →
      kindIn o = some kind ∨ kindIn o = none := by
    intro o ho
    unfold kindIn
    split
    · next header' _ _ hi =>
      left
      unfold Incoming.ofOctets at hi
      unfold Header.decode at ho
      split at hi
      · simp only [Except.ok.injEq] at ho
        simp only at hi
        split at hi
        · cases hi
        · split at hi
          · cases hi
          · cases hi
            rw [ho, h, FrameKind.ofCode?_code]
      · cases hi
    · exact .inr rfl
  exact kindOf _ decoded

theorem sendPayload_aside (a : Agent L) {kind : FrameKind} (hk : kind ≠ .response)
    (stream : UInt8) (payload : Octets) : Aside a (a.sendPayload kind stream payload).2 := by
  have ready : FrameLink.Ready a.link →
      FrameLink.Ready (a.sendPayload kind stream payload).2.link :=
    fun h => (sendPayload_of_ready h kind stream payload).1
  rcases a.sendPayload_sends kind stream payload with ⟨e, link, h, ht⟩ | ⟨-, link, h, ht⟩
  · rw [h] at ready ⊢
    exact ⟨⟨[], by rw [ht, List.append_nil], fun _ ho => (List.not_mem_nil ho).elim⟩, ready, rfl,
      rfl, rfl, rfl, rfl, rfl⟩
  · rw [h] at ready ⊢
    refine ⟨⟨_, ht, fun o ho => ?_⟩, ready, rfl, rfl, rfl, rfl, rfl, rfl⟩
    rw [List.mem_singleton.mp ho]
    rcases kindIn_frame (a.nextHeader kind stream (UInt16.ofNat payload.length)) kind payload rfl
      with found | found
    · rw [found]
      exact fun e => hk (Option.some.inj e)
    · rw [found]
      exact nofun

theorem notify_aside (a : Agent L) {kind : FrameKind} (hk : kind ≠ .response) (stream : UInt8) :
    Aside a (a.notify kind stream) := a.sendPayload_aside hk stream []

theorem reportGap_aside (a : Agent L) (stream : StreamId) (seq : SeqNum) :
    Aside a (a.reportGap stream seq) := by
  unfold reportGap
  split
  · exact (Aside.within a a.outbound a.inbound a.stats.countGap a.receiving).trans
      (notify_aside _ (by decide) _)
  · exact .within a a.outbound a.inbound a.stats a.receiving

theorem answerSync_aside (a : Agent L) (stream : StreamId) (payload : Octets) :
    Aside a (a.answerSync stream payload) := by
  unfold answerSync
  split
  · split
    · exact a.notify_aside (by decide) _
    · exact a.sendPayload_aside (by decide) _ _
  · exact a.notify_aside (by decide) _

theorem restart_aside (a : Agent L) : Aside a a.restart := by
  have renewed : Aside a a.renewed :=
    ⟨⟨[], (List.append_nil _).symm, fun _ ho => (List.not_mem_nil ho).elim⟩, id, rfl, rfl, rfl, rfl,
      rfl, a.invocations_renewed⟩
  rw [restart_eq_renewed]
  split
  · exact renewed.trans (a.renewed.sendPayload_aside (by decide) _ _)
  · exact renewed

/-! ## Receiving -/

theorem remember_aside (a : Agent L) (seq : SeqNum) : Aside a (a.remember seq) :=
  .within a a.outbound (a.inbound.record seq) a.stats a.receiving

theorem accept_aside (a : Agent L) (header : Header) (stream : StreamId) (payload : Octets) :
    Aside a (a.accept header stream payload) := by
  have told : ∀ b : Agent L, Aside a b → Aside a ((b.reportGap stream header.seq).remember
      header.seq) := fun b h => (h.trans (b.reportGap_aside _ _)).trans (remember_aside _ _)
  unfold accept
  simp only
  split
  · exact (a.reportGap_aside _ _).trans (restart_aside _)
  · exact (a.answerSync_aside _ _).trans (remember_aside _ _)
  · split
    · exact .within a a.outbound _ _ a.receiving
    · split
      · split
        · exact .within a a.outbound a.inbound a.stats _
        · exact told _ (a.notify_aside (by decide) _)
      · exact told a (.within a a.outbound a.inbound a.stats a.receiving)
      · exact told _ (a.notify_aside (by decide) _)

theorem receive_aside (a : Agent L) (octets : Octets) : Aside a (a.receive (some octets)) := by
  have counted : ∀ stats, Aside a { a with stats := stats } :=
    fun stats => .within a a.outbound a.inbound stats a.receiving
  simp only [receive]
  split
  · exact counted _
  · exact ((counted _).trans (notify_aside _ (by decide) _)).trans (remember_aside _ _)
  · exact ((counted _).trans (notify_aside _ (by decide) _)).trans (remember_aside _ _)
  · exact (counted _).trans (accept_aside _ _ _ _)

/-- The same if the link may have lost the buffer. -/
theorem aside_receive (a : Agent L) (buffer : Option Octets) : Aside a (a.receive buffer) := by
  cases buffer with
  | none => exact .within a a.outbound a.inbound _ a.receiving
  | some octets => exact a.receive_aside octets

/-! ## What is remembered and what is held -/

theorem receiving_sendPayload (a : Agent L) (kind : FrameKind) (stream : UInt8)
    (payload : Octets) : (a.sendPayload kind stream payload).2.receiving = a.receiving := by
  obtain ⟨link, outbound, sent, h⟩ := a.sendPayload_touches kind stream payload
  rw [h]

theorem receiving_reportGap (a : Agent L) (stream : StreamId) (seq : SeqNum) :
    (a.reportGap stream seq).receiving = a.receiving := by
  obtain ⟨link, outbound, sent, h⟩ := a.reportGap_eq stream seq
  rw [h]

theorem receiving_answerSync (a : Agent L) (stream : StreamId) (payload : Octets) :
    (a.answerSync stream payload).receiving = a.receiving := by
  obtain ⟨link, outbound, sent, h⟩ := a.answerSync_eq stream payload
  rw [h]

/-- What is remembered, with nothing or with a command held, after a frame. -/
theorem accept_memory {a : Agent L} (hr : a.receiving = none) (header : Header)
    (stream : StreamId) (payload : Octets) :
    (a.accept header stream payload).ear.pass.inbound =
        (if FrameKind.ofCode? header.kind = some .agentReset then .fresh
          else a.inbound.record header.seq) ∧
      (a.accept header stream payload).receiving.map (fun c => (c.stream, c.body)) =
        if FrameKind.ofCode? header.kind = some .command ∧ a.inbound.isRepeat header.seq = false ∧
          a.isOpen stream = true then some (stream, payload) else none := by
  have done : ∀ b : Agent L, b.receiving = none →
      (b.remember header.seq).ear.pass.inbound = a.inbound.record header.seq ∧
        (b.remember header.seq).receiving = none := fun b hb =>
      ⟨by simp [remember, Agent.ear, Ear.of, Ear.pass, hb, Inbound.record], hb⟩
  have told : ∀ b : Agent L, b.receiving = none →
      ((b.reportGap stream header.seq).remember header.seq).ear.pass.inbound =
          a.inbound.record header.seq ∧
        ((b.reportGap stream header.seq).remember header.seq).receiving = none :=
    fun b hb => done _ ((b.receiving_reportGap stream header.seq).trans hb)
  generalize hb : a.accept header stream payload = b
  unfold accept at hb
  simp only at hb
  split at hb
  · next hk =>
    obtain ⟨link, outbound, sent, log, h, -⟩ := (a.reportGap stream header.seq).restart_eq
    have free := (a.receiving_reportGap stream header.seq).trans hr
    rw [← hb, h, hk, if_pos rfl, if_neg (by simp)]
    simp [Agent.ear, Ear.of, Ear.pass, free]
  · next hk =>
    obtain ⟨inbound, free⟩ := done _ ((a.receiving_answerSync stream payload).trans hr)
    rw [← hb, inbound, free, hk, if_neg (by simp), if_neg (by simp)]
    exact ⟨rfl, rfl⟩
  · next kind hreset hsync =>
    rw [if_neg hreset]
    split at hb
    · next again =>
      obtain ⟨inbound, free⟩ := done { a with stats := a.stats.countRepeat } hr
      rw [← hb, inbound, free, if_neg (by simp [again])]
      exact ⟨rfl, rfl⟩
    · next again =>
      have fresh : a.inbound.isRepeat header.seq = false := by simpa using again
      split at hb
      · next hk =>
        split at hb
        · next ho =>
          rw [← hb, hk, if_pos ⟨rfl, fresh, ho⟩]
          exact ⟨rfl, rfl⟩
        · next ho =>
          obtain ⟨inbound, free⟩ := told _ ((receiving_sendPayload a _ _ _).trans hr)
          rw [← hb, refuse, notify, inbound, free, if_neg (by simp [ho])]
          exact ⟨rfl, rfl⟩
      · next hk =>
        obtain ⟨inbound, free⟩ := told a hr
        rw [← hb, inbound, free, hk, if_neg (by simp)]
        exact ⟨rfl, rfl⟩
      · next hcommand _ =>
        obtain ⟨inbound, free⟩ := told _ ((receiving_sendPayload a _ _ _).trans hr)
        rw [← hb, notify, inbound, free, if_neg fun h => hcommand h.1]
        exact ⟨rfl, rfl⟩

/-- What an agent remembers and holds after whatever has arrived. -/
theorem receive_memory {a : Agent L} (hr : a.receiving = none) (octets : Octets) :
    (a.receive (some octets)).ear.pass.inbound = a.inbound.afterArrival octets ∧
      (a.receive (some octets)).receiving.map (fun c => (c.stream, c.body)) =
        (commandIn a.inbound octets).filter fun c => a.isOpen c.1 := by
  have done : ∀ (b : Agent L) (seq : SeqNum), b.receiving = none →
      (b.remember seq).ear.pass.inbound = a.inbound.record seq ∧
        (b.remember seq).receiving.map (fun c => (c.stream, c.body)) = none :=
    fun b seq hb =>
      ⟨by simp [remember, Agent.ear, Ear.of, Ear.pass, hb, Inbound.record], by simp [remember, hb]⟩
  simp only [receive, Inbound.afterArrival, commandIn]
  cases Incoming.ofOctets octets with
  | short => exact ⟨by simp [Agent.ear, Ear.of, Ear.pass, hr], by simp [hr]⟩
  | badStream header => exact done _ _ ((receiving_sendPayload ..).trans hr)
  | overLength header stream => exact done _ _ ((receiving_sendPayload ..).trans hr)
  | frame header stream payload =>
    obtain ⟨inbound, held⟩ := accept_memory (a := { a with stats := a.stats.countReceived }) hr
      header stream payload
    refine ⟨inbound, held.trans ?_⟩
    show (if FrameKind.ofCode? header.kind = some .command ∧ a.inbound.isRepeat header.seq = false ∧
        a.isOpen stream = true then some (stream, payload) else none) =
      (if FrameKind.ofCode? header.kind = some .command ∧ a.inbound.isRepeat header.seq = false then
        some (stream, payload) else none).filter fun c => a.isOpen c.1
    by_cases hk : FrameKind.ofCode? header.kind = some .command ∧
      a.inbound.isRepeat header.seq = false
    · simp [hk.1, hk.2, Option.filter]
    · rw [if_neg hk, if_neg fun h => hk ⟨h.1, h.2.1⟩]
      rfl

/-- A command that is held has arrived on an open stream, and is not a repeat. -/
theorem commandIn_of_held {a : Agent L} (hr : a.receiving = none) {buffer : Option Octets}
    {command : PendingCommand} (held : (a.receive buffer).receiving = some command) :
    ∃ octets, buffer = some octets ∧
      commandIn a.inbound octets = some (command.stream, command.body) ∧
      a.isOpen command.stream = true := by
  cases buffer with
  | none => exact nomatch hr.symm.trans held
  | some octets =>
    have memory := (receive_memory hr octets).2
    rw [held, Option.map_some] at memory
    obtain ⟨found, opened⟩ := Option.filter_eq_some_iff.mp memory.symm
    exact ⟨octets, rfl, found, opened⟩

/-- A command that is not held, and is not a repeat, has arrived on a stream that is not open. -/
theorem isOpen_of_unheld {a : Agent L} (hr : a.receiving = none) {octets body : Octets}
    {stream : StreamId} (found : commandIn a.inbound octets = some (stream, body))
    (unheld : (a.receive (some octets)).receiving = none) : a.isOpen stream = false := by
  have memory := (receive_memory hr octets).2
  rw [unheld, found, Option.map_none] at memory
  simpa using Option.filter_eq_none_iff.mp memory.symm

end Agent
end CommandLink
