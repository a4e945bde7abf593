import CommandLink.Proofs.Agent.Speech
import CommandLink.Proofs.Endpoint.Ear

/-! # What an agent makes of its controller's frames

A frame of the controller changes the receiving half of the agent as its ear says. Beside that an
agent only sends: answers to sync requests and notices. A notice of lost frames is sent for a gap
and for nothing else, and the announcement that ends a restart begins the agent's numbers anew. -/

namespace CommandLink
namespace Agent

variable {L : Type}

/-- The receiving half of an agent. -/
def ear (a : Agent L) : Ear := .of a.inbound (a.receiving.map PendingCommand.seq) a.stats

/-- The handler invocations that an agent has told of. -/
def invocations (a : Agent L) : List Invocation :=
  a.log.filterMap fun
    | .invoked invocation => some invocation
    | .reset => none

/-- Whether a frame is a command for an open stream. -/
def awaits (a : Agent L) (p : Post) : Bool := p.kind == .command && a.isOpen p.stream

/-- Whether an agent keeps a frame until its slot takes it. -/
def holds (a : Agent L) (p : Post) : Bool :=
  a.awaits p && Discipline.agent.verdict a.inbound p != .again

/-- What becomes of an agent that takes in a frame or passes one on: its ear is `e`, and beside its
sending half only `receiving` and `slots` may differ. -/
structure Becomes (a b : Agent L) (e : Ear) (receiving : Option PendingCommand)
    (slots : StreamTable (Slot Octets)) : Prop where
  eq : ∃ link outbound sent log, b = { a with
    link := link, outbound := outbound, log := log, receiving := receiving, slots := slots
    inbound := e.inbound, stats := e.stats sent }
  invocations : b.invocations = a.invocations

/-- The kinds of the frames by which an agent answers a frame of the kind `heard`. -/
inductive Reply (heard : FrameKind) (lost : Prop) : FrameKind → Prop
  | error : Reply heard lost .error
  | invalidStream : Reply heard lost .invalidStream
  | syncResponse (h : heard = .syncRequest) : Reply heard lost .syncResponse
  | packetLoss (h : lost) : Reply heard lost .packetLoss
  | agentStart (h : heard = .agentReset) : Reply heard lost .agentStart

theorem Reply.imp_lost {heard kind : FrameKind} {lost lost' : Prop} (H : Reply heard lost kind)
    (h : lost → lost') : Reply heard lost' kind := by
  cases H with
  | error => exact .error
  | invalidStream => exact .invalidStream
  | syncResponse hk => exact .syncResponse hk
  | packetLoss hl => exact .packetLoss (h hl)
  | agentStart hk => exact .agentStart hk

theorem gaps_pass_pos {a : Agent L} {command : PendingCommand} (hr : a.receiving = some command)
    (h : a.inbound.isGap command.seq = true) : 0 < a.ear.pass.gaps := by
  simp [ear, Ear.of, hr, Ear.pass, h]

variable [FrameLink L]

theorem answerSync_eq (a : Agent L) (stream : StreamId) (payload : Octets) :
    ∃ link outbound sent, a.answerSync stream payload =
      { a with link := link, outbound := outbound, stats := { a.stats with sent := sent } } := by
  unfold answerSync
  split
  · split
    · exact a.notify_eq .error stream
    · exact a.sendPayload_eq .syncResponse stream _
  · exact a.notify_eq .error stream

theorem answerSync_smooth (a : Agent L) (stream : StreamId) (payload : Octets)
    {heard : FrameKind} (hk : heard = .syncRequest) (lost : Prop) :
    ∃ posts, Smooth (Reply heard lost) a (a.answerSync stream payload) posts := by
  have refused : ∃ posts, Smooth (Reply heard lost) a (a.notify .error stream.toOctet) posts := by
    obtain ⟨posts, h⟩ := a.notify_smooth .error stream
    exact ⟨posts, h.mono fun _ hk => hk ▸ .error⟩
  unfold answerSync
  split
  · split
    · exact refused
    · next request _ =>
      obtain ⟨posts, h⟩ := a.sendPayload_posts .syncResponse stream
        (SyncResponse.encode ⟨request.token, a.inbound.lastSeen, protocolVersion⟩)
      exact ⟨posts, h.mono fun _ e => e ▸ .syncResponse hk⟩
  · exact refused

theorem reportGap_eq (a : Agent L) (stream : StreamId) (seq : SeqNum) :
    ∃ link outbound sent, a.reportGap stream seq =
      { a with
        link := link, outbound := outbound
        stats := { a.stats with
          sent := sent
          gaps := if a.inbound.isGap seq then a.stats.gaps + 1 else a.stats.gaps } } := by
  unfold reportGap
  split
  · obtain ⟨link, outbound, sent, h⟩ :=
      { a with stats := a.stats.countGap }.notify_eq .packetLoss stream
    exact ⟨link, outbound, sent, h⟩
  · exact ⟨a.link, a.outbound, a.stats.sent, rfl⟩

theorem reportGap_smooth (a : Agent L) (stream : StreamId) (seq : SeqNum) :
    ∃ posts, Smooth (fun k => k = .packetLoss ∧ a.inbound.isGap seq = true) a
      (a.reportGap stream seq) posts := by
  unfold reportGap
  split
  · next h =>
    obtain ⟨posts, hp⟩ := { a with stats := a.stats.countGap }.notify_smooth .packetLoss stream
    have counted : Smooth (· = .packetLoss) a { a with stats := a.stats.countGap } [] :=
      .refl rfl rfl rfl
    exact ⟨_, (counted.trans hp).mono fun _ hk => ⟨hk, h⟩⟩
  · exact ⟨[], .refl rfl rfl rfl⟩

/-- An agent that has started over and has not announced it yet. -/
def renewed (a : Agent L) : Agent L :=
  { a with
    log := if a.onReset then a.log ++ [.reset] else a.log
    inbound := .fresh, outbound := .fresh }

omit [FrameLink L] in
theorem invocations_renewed (a : Agent L) : a.renewed.invocations = a.invocations := by
  unfold renewed invocations
  split
  · simp
  · rfl

omit [FrameLink L] in
theorem restart_eq_renewed [Datalink L] (a : Agent L) :
    a.restart = if a.config.announce then a.renewed.announce.2 else a.renewed := by
  have told : (if a.onReset then a.record .reset else a) =
      { a with log := if a.onReset then a.log ++ [.reset] else a.log } := by
    split <;> rfl
  unfold restart
  rw [told]
  rfl

/-- Starting over touches neither slots nor workers. -/
theorem restart_eq (a : Agent L) :
    ∃ link outbound sent log, a.restart =
      { a with
        link := link, outbound := outbound, log := log
        inbound := .fresh, stats := { a.stats with sent := sent } } ∧
      a.restart.invocations = a.invocations := by
  rw [restart_eq_renewed]
  split
  · obtain ⟨link, outbound, sent, h⟩ := a.renewed.sendPayload_eq .agentStart StreamId.control []
    rw [announce, h]
    exact ⟨link, outbound, sent, a.renewed.log, rfl, a.invocations_renewed⟩
  · exact ⟨a.link, .fresh, a.stats.sent, a.renewed.log, rfl, a.invocations_renewed⟩

/-! ## Frames -/

/-- The ways in which an agent that counts frames as received goes on with one of them. -/
inductive Course (a : Agent L) (p : Post) : Agent L → Prop
  | reset (hk : p.kind = .agentReset) : Course a p (a.reportGap p.stream p.seq).restart
  | sync (hk : p.kind = .syncRequest) :
      Course a p ((a.answerSync p.stream p.payload).remember p.seq)
  | again (hv : Discipline.agent.verdict a.inbound p = .again) :
      Course a p ({ a with stats := a.stats.countRepeat }.remember p.seq)
  | held (hw : a.awaits p = true) (hv : Discipline.agent.verdict a.inbound p ≠ .again) :
      Course a p { a with receiving := some ⟨p.stream, p.payload, p.seq⟩ }
  | refused (kind : FrameKind) (hkind : kind = .error ∨ kind = .invalidStream)
      (hw : a.awaits p = false) (hv : Discipline.agent.verdict a.inbound p ≠ .again)
      (hk : p.kind ≠ .agentReset ∧ p.kind ≠ .syncRequest) :
      Course a p (((a.notify kind p.stream.toOctet).reportGap p.stream p.seq).remember p.seq)
  | ignored (hw : a.awaits p = false) (hv : Discipline.agent.verdict a.inbound p ≠ .again)
      (hk : p.kind ≠ .agentReset ∧ p.kind ≠ .syncRequest) :
      Course a p ((a.reportGap p.stream p.seq).remember p.seq)

theorem accept_course (a : Agent L) (p : Post) :
    Course a p (a.accept p.header p.stream p.payload) := by
  unfold accept
  simp only [Post.ofCode?_header, Post.seq_header]
  by_cases hreset : p.kind = .agentReset
  · simp only [hreset]
    exact .reset hreset
  by_cases hsync : p.kind = .syncRequest
  · simp only [hsync]
    exact .sync hsync
  have again : Discipline.agent.verdict a.inbound p = .again ↔ a.inbound.isRepeat p.seq = true := by
    rw [Discipline.verdict_eq_again_iff]
    simp [Discipline.agent, hreset, hsync]
  by_cases hv : a.inbound.isRepeat p.seq = true
  · have course := Course.again (a := a) (again.mpr hv)
    cases hk : p.kind <;> first | exact absurd hk hreset | exact absurd hk hsync | simpa [hv, hk]
  · have fresh : Discipline.agent.verdict a.inbound p ≠ .again := fun e => hv (again.mp e)
    have refused : ∀ kind, kind = .error ∨ kind = .invalidStream → a.awaits p = false →
        Course a p
          (((a.notify kind p.stream.toOctet).reportGap p.stream p.seq).remember p.seq) :=
      fun kind hkind hw => .refused kind hkind hw fresh ⟨hreset, hsync⟩
    cases hk : p.kind with
    | agentReset => exact absurd hk hreset
    | syncRequest => exact absurd hk hsync
    | command =>
      simp only [hv, Bool.false_eq_true, if_false]
      split
      · next ho => exact .held (by simp [awaits, hk, ho]) fresh
      · next ho => exact refused .invalidStream (.inr rfl) (by simp [awaits, hk, ho])
    | error =>
      simp only [hv, Bool.false_eq_true, if_false]
      exact .ignored (by simp [awaits, hk]) fresh ⟨hreset, hsync⟩
    | _ =>
      simp only [hv, Bool.false_eq_true, if_false]
      exact refused .error (.inl rfl) (by simp [awaits, hk])

/-- The agent once a frame is counted as received. -/
def counted (a : Agent L) : Agent L := { a with stats := a.stats.countReceived }

theorem receive_course (a : Agent L) (p : Post) :
    Course a.counted p (a.receive (some p.octets)) := by
  have received : a.receive (some p.octets) = a.counted.accept p.header p.stream p.payload := by
    simp only [receive, Incoming.ofOctets_octets]
    rfl
  rw [received]
  exact a.counted.accept_course p

omit [FrameLink L] in
theorem ear_settle {a : Agent L} (hr : a.receiving = none) (p : Post) :
    a.ear.hear .agent p false =
      { a.ear with
        received := a.stats.received + 1
        repeats := if Discipline.agent.verdict a.inbound p = .again then a.stats.repeats + 1
          else a.stats.repeats
        gaps := if Discipline.agent.verdict a.inbound p = .gap then a.stats.gaps + 1
          else a.stats.gaps
        inbound := Discipline.agent.after a.inbound p } := by
  simp [Ear.hear, Ear.settle, ear, Ear.of, hr]

/-- What an agent does with a frame of its controller, but for what it sends. -/
theorem receive_becomes {a : Agent L} (hr : a.receiving = none) (p : Post) :
    a.Becomes (a.receive (some p.octets)) (a.ear.hear .agent p (a.awaits p))
      (if a.holds p then some ⟨p.stream, p.payload, p.seq⟩ else none) a.slots := by
  have course := a.receive_course p
  generalize a.receive (some p.octets) = b at course
  have gap : ∀ (hv : Discipline.agent.verdict a.inbound p ≠ .again), p.kind ≠ .syncRequest →
      (Discipline.agent.verdict a.inbound p = .gap ↔ a.inbound.isGap p.seq = true) := by
    intro hv hk
    rw [Discipline.verdict_eq_gap_iff hv]
    simp [Discipline.agent, hk]
  -- a frame behind which the agent reports a gap, if there is one, and remembers the number
  have settled : ∀ a' : Agent L, (∃ link outbound sent, a' =
      { a.counted with
        link := link, outbound := outbound, stats := { a.counted.stats with sent := sent } }) →
      a.awaits p = false → Discipline.agent.verdict a.inbound p ≠ .again →
      p.kind ≠ .agentReset ∧ p.kind ≠ .syncRequest →
      a.Becomes ((a'.reportGap p.stream p.seq).remember p.seq)
        (a.ear.hear .agent p (a.awaits p))
        (if a.holds p then some ⟨p.stream, p.payload, p.seq⟩ else none) a.slots := by
    rintro a' ⟨link, outbound, sent, rfl⟩ hw hv hk
    obtain ⟨link', outbound', sent', h⟩ := reportGap_eq
      { a.counted with
        link := link, outbound := outbound, stats := { a.counted.stats with sent := sent } }
      p.stream p.seq
    have kept : Discipline.agent.after a.inbound p = a.inbound.record p.seq := by
      simp [Discipline.after, Discipline.agent, hk.1]
    rw [h, hw, ear_settle hr]
    refine ⟨⟨link', outbound', sent', a.log, ?_⟩, rfl⟩
    simp [remember, hw, holds, kept, hv, gap hv hk.2, hr, Ear.stats, ear, Ear.of, counted,
      LinkStats.countReceived]
  cases course with
  | reset hk =>
    have hv : Discipline.agent.verdict a.inbound p ≠ .again := by
      intro h
      have := (Discipline.verdict_eq_again_iff.mp h).2
      simp [Discipline.agent, hk] at this
    have hw : a.awaits p = false := by simp [awaits, hk]
    have kept : Discipline.agent.after a.inbound p = .fresh := by
      simp [Discipline.after, Discipline.agent, hk]
    obtain ⟨link, outbound, sent, h⟩ := a.counted.reportGap_eq p.stream p.seq
    obtain ⟨link', outbound', sent', log, h', hi⟩ := (a.counted.reportGap p.stream p.seq).restart_eq
    rw [h', hw, ear_settle hr]
    refine ⟨⟨link', outbound', sent', log, ?_⟩, ?_⟩
    · rw [h]
      simp [hw, holds, kept, hv, gap hv (by simp [hk]), hr, Ear.stats, ear, Ear.of, counted,
        LinkStats.countReceived]
    · rw [← h', hi, h]
      rfl
  | sync hk =>
    have hv : Discipline.agent.verdict a.inbound p = .next :=
      Discipline.verdict_of_exempt (by simp [Discipline.agent, hk])
        (by simp [Discipline.agent, hk]) _
    have hw : a.awaits p = false := by simp [awaits, hk]
    obtain ⟨link, outbound, sent, h⟩ := a.counted.answerSync_eq p.stream p.payload
    have kept : Discipline.agent.after a.inbound p = a.inbound.record p.seq := by
      simp [Discipline.after, Discipline.agent, hk]
    rw [h, hw, ear_settle hr]
    refine ⟨⟨link, outbound, sent, a.log, ?_⟩, rfl⟩
    simp [remember, hw, holds, kept, hv, hr, Ear.stats, ear, Ear.of, counted,
      LinkStats.countReceived]
  | again hv =>
    have hv : Discipline.agent.verdict a.inbound p = .again := hv
    have kept := Discipline.after_of_again hv
    have heard : a.ear.hear .agent p (a.awaits p) = a.ear.hear .agent p false := by
      simp [Ear.hear, ear, Ear.of, hv]
    rw [heard, ear_settle hr]
    refine ⟨⟨a.link, a.outbound, a.stats.sent, a.log, ?_⟩, rfl⟩
    simp [remember, holds, kept, hv, hr, Ear.stats, ear, Ear.of, counted,
      LinkStats.countReceived, LinkStats.countRepeat]
  | held hw hv =>
    have hw : a.awaits p = true := hw
    have hv : Discipline.agent.verdict a.inbound p ≠ .again := hv
    refine ⟨⟨a.link, a.outbound, a.stats.sent, a.log, ?_⟩, rfl⟩
    simp [hw, holds, Ear.hear, hv, Ear.stats, ear, Ear.of, counted, LinkStats.countReceived]
  | refused kind hkind hw hv hk =>
    obtain ⟨link, outbound, sent, h⟩ := a.counted.notify_eq kind p.stream
    exact settled _ ⟨link, outbound, sent, h⟩ hw hv hk
  | ignored hw hv hk =>
    exact settled _ ⟨a.link, a.outbound, a.stats.sent, rfl⟩ hw hv hk

omit [FrameLink L] in
theorem Becomes.ear {a b : Agent L} {e : Ear} {receiving : Option PendingCommand}
    {slots : StreamTable (Slot Octets)} (H : a.Becomes b e receiving slots)
    (hp : receiving.map PendingCommand.seq = e.pending) : b.ear = e := by
  obtain ⟨link, outbound, sent, log, h⟩ := H.eq
  rw [h, ← Ear.of_stats e sent, ← hp]
  rfl

theorem ear_receive {a : Agent L} (hr : a.receiving = none) (p : Post) :
    (a.receive (some p.octets)).ear = a.ear.hear .agent p (a.awaits p) := by
  have free : a.ear.pending = none := by simp [Agent.ear, Ear.of, hr]
  refine (receive_becomes hr p).ear ?_
  rw [Ear.pending_hear free]
  have inbound : a.ear.inbound = a.inbound := rfl
  rw [holds, inbound]
  cases a.awaits p && Discipline.agent.verdict a.inbound p != .again <;> rfl

/-! ## What is sent in answer -/

/-- An agent whose restarts its controller hears of. -/
structure Steady (a : Agent L) : Prop where
  announce : a.config.announce = true
  running : a.running = true
  ready : FrameLink.Ready a.link

theorem restart_speech (a : Agent L) :
    ∃ posts, Speech (· = .agentStart) a a.restart posts ∧
      (a.Steady → Smooth (· = .agentStart) a a.restart posts) := by
  rw [restart_eq_renewed]
  split
  · have ready : FrameLink.Ready a.link → FrameLink.Ready a.renewed.announce.2.link :=
      fun h => (sendPayload_of_ready (a := a.renewed) h .agentStart _ []).1
    rcases a.renewed.sendPayload_cases .agentStart StreamId.control [] with
      ⟨e, link, h, ht⟩ | ⟨fits, link, h, ht⟩
    · refine ⟨[], ⟨?_, ?_, fun p hp => (List.not_mem_nil hp).elim, ready⟩, fun H => ?_⟩
      · rw [announce, h, List.map_nil, List.append_nil]
        exact ht
      · rw [announce, h]
        rfl
      · have sent := (sendPayload_of_ready (a := a.renewed) H.ready .agentStart
          StreamId.control.toOctet []).2 H.running (Nat.zero_le _)
        rw [h] at sent
        cases sent
    · have speech : Speech (· = .agentStart) a a.renewed.announce.2
          [⟨.agentStart, a.renewed.outbound.peek, StreamId.control, [], fits⟩] := by
        refine ⟨?_, ?_, ?_, ready⟩
        · rw [announce, h]
          exact ht
        · rw [announce, h]
          rfl
        · intro p hp
          rw [List.mem_singleton.mp hp]
      refine ⟨_, speech, fun _ => ⟨speech, fun {up} hi => ?_⟩⟩
      rw [announce, h]
      exact hi.exempt rfl rfl .fresh
  · next hannounce =>
    exact ⟨[], ⟨by simp [renewed], rfl, fun p hp => (List.not_mem_nil hp).elim, fun h => h⟩,
      fun H => absurd H.announce hannounce⟩

/-- What an agent sends when it takes in a frame: answers that fit the frame, and in step with the
controller, unless a restart goes unheard. -/
theorem receive_speech (a : Agent L) (p : Post) :
    let K := Reply p.kind (Discipline.agent.verdict a.inbound p = .gap)
    ∃ posts, Speech K a (a.receive (some p.octets)) posts ∧
      ((p.kind = .agentReset → a.Steady) → Smooth K a (a.receive (some p.octets)) posts) := by
  intro K
  have course := a.receive_course p
  generalize a.receive (some p.octets) = b at course
  have counted : Smooth K a a.counted [] := .refl rfl rfl rfl
  have smoothly : ∀ {b ps}, Smooth K a.counted b ps →
      ∃ posts, Speech K a b posts ∧ ((p.kind = .agentReset → a.Steady) → Smooth K a b posts) :=
    fun h => ⟨_, (counted.trans h).toSpeech, fun _ => counted.trans h⟩
  have silent : ∀ b : Agent L, b.link = a.link → b.outbound = a.outbound →
      b.stats.sent = a.stats.sent →
      ∃ posts, Speech K a b posts ∧ ((p.kind = .agentReset → a.Steady) → Smooth K a b posts) :=
    fun b hl ho hs => ⟨[], (Smooth.refl hl ho hs).toSpeech, fun _ => .refl hl ho hs⟩
  -- a gap report, where a gap report means a gap
  have reported : ∀ a' : Agent L, a'.inbound = a.inbound → p.kind ≠ .syncRequest →
      Discipline.agent.verdict a.inbound p ≠ .again →
      ∃ ps, Smooth K a' (a'.reportGap p.stream p.seq) ps := by
    intro a' hi hk hv
    obtain ⟨ps, h⟩ := a'.reportGap_smooth p.stream p.seq
    refine ⟨ps, h.mono fun kind hkind => hkind.1 ▸ .packetLoss ?_⟩
    rw [Discipline.verdict_eq_gap_iff hv, ← hi]
    exact ⟨hkind.2, by simp [Discipline.agent, hk]⟩
  have remembered : ∀ a' : Agent L, Smooth K a' (a'.remember p.seq) [] :=
    fun a' => .refl rfl rfl rfl
  cases course with
  | reset hk =>
    have hv : Discipline.agent.verdict a.inbound p ≠ .again := by
      intro h
      have := (Discipline.verdict_eq_again_iff.mp h).2
      simp [Discipline.agent, hk] at this
    obtain ⟨ps, h⟩ := reported a.counted rfl (by simp [hk]) hv
    obtain ⟨qs, hs, hsmooth⟩ := (a.counted.reportGap p.stream p.seq).restart_speech
    have started : ∀ kind, kind = .agentStart → K kind := fun _ e => e ▸ .agentStart hk
    refine ⟨_, (counted.trans h).toSpeech.trans (hs.mono started), fun H => ?_⟩
    have steady := H hk
    refine (counted.trans h).trans ((hsmooth ⟨?_, ?_, (counted.trans h).ready steady.ready⟩).mono
      started)
    · obtain ⟨_, _, _, e⟩ := a.counted.reportGap_eq p.stream p.seq
      rw [e]
      exact steady.announce
    · obtain ⟨_, _, _, e⟩ := a.counted.reportGap_eq p.stream p.seq
      rw [e]
      exact steady.running
  | sync hk =>
    obtain ⟨ps, h⟩ := a.counted.answerSync_smooth p.stream p.payload hk
      (Discipline.agent.verdict a.inbound p = .gap)
    exact smoothly (h.trans (remembered _))
  | again hv => exact silent _ rfl rfl rfl
  | held hw hv => exact silent _ rfl rfl rfl
  | refused kind hkind hw hv hk =>
    obtain ⟨ps, h⟩ := a.counted.notify_smooth kind p.stream
    obtain ⟨_, _, _, e⟩ := a.counted.notify_eq kind p.stream
    obtain ⟨qs, h'⟩ := reported (a.counted.notify kind p.stream.toOctet) (by rw [e]; rfl) hk.2 hv
    have told : ∀ k, k = kind → K k := by
      rintro _ rfl
      rcases hkind with rfl | rfl
      · exact .error
      · exact .invalidStream
    exact smoothly (((h.mono told).trans h').trans (remembered _))
  | ignored hw hv hk =>
    obtain ⟨qs, h⟩ := reported a.counted rfl hk.2 hv
    exact smoothly (h.trans (remembered _))

/-! ## Passing a command on -/

/-- What an agent does with the command that it holds. -/
theorem deliver_cases {a b : Agent L} (h : a.deliver = some b) :
    ∃ command, a.receiving = some command ∧
      (((a.slots.get command.stream).closed = true ∧ a.Becomes b a.ear.pass none a.slots) ∨
        ((a.slots.get command.stream).closed = false ∧
          (a.slots.get command.stream).item = none ∧
          a.Becomes b a.ear.pass none (a.slots.set command.stream
            { a.slots.get command.stream with item := some command.body }))) ∧
      ∃ posts, Smooth (Reply .command (a.inbound.isGap command.seq = true)) a b posts := by
  unfold deliver at h
  split at h
  · cases h
  · next command hr =>
    refine ⟨command, hr, ?_⟩
    -- the last step, after `a'` has told of a closed slot or has filled an open one
    have finished : ∀ (a' : Agent L) (slots : StreamTable (Slot Octets)),
        (∃ link outbound sent, a' = { a with
          link := link, outbound := outbound, receiving := none, slots := slots
          stats := { a.stats with sent := sent } }) →
        a.Becomes ((a'.reportGap command.stream command.seq).remember command.seq) a.ear.pass
          none slots := by
      rintro a' slots ⟨link, outbound, sent, rfl⟩
      obtain ⟨link', outbound', sent', h'⟩ := reportGap_eq
        { a with
          link := link, outbound := outbound, receiving := none, slots := slots
          stats := { a.stats with sent := sent } } command.stream command.seq
      rw [h']
      refine ⟨⟨link', outbound', sent', a.log, ?_⟩, rfl⟩
      simp [remember, ear, Ear.of, hr, Ear.pass, Ear.stats]
    have smoothly : ∀ (a' : Agent L) (ps : List Post), a'.inbound = a.inbound →
        Smooth (Reply .command (a.inbound.isGap command.seq = true)) a a' ps →
        ∃ posts, Smooth (Reply .command (a.inbound.isGap command.seq = true)) a
          ((a'.reportGap command.stream command.seq).remember command.seq) posts := by
      intro a' ps hi hp
      obtain ⟨qs, hq⟩ := a'.reportGap_smooth command.stream command.seq
      rw [hi] at hq
      have gap : Smooth (Reply .command (a.inbound.isGap command.seq = true)) a' _ qs :=
        hq.mono fun _ hk => hk.1 ▸ .packetLoss hk.2
      exact ⟨_, (hp.trans gap).trans (.refl rfl rfl rfl)⟩
    cases hc : (a.slots.get command.stream).closed with
    | true =>
      simp only [Slot.push, hc, if_true, Option.some.injEq] at h
      subst h
      obtain ⟨link, outbound, sent, e⟩ :=
        { a with receiving := none }.notify_eq .invalidStream command.stream
      obtain ⟨ps, hp⟩ := { a with receiving := none }.notify_smooth .invalidStream command.stream
      have dropped : Smooth (Reply .command (a.inbound.isGap command.seq = true)) a
          { a with receiving := none } [] := .refl rfl rfl rfl
      refine ⟨.inl ⟨rfl, finished _ _ ⟨link, outbound, sent, e⟩⟩, smoothly _ _ ?_
        (dropped.trans (hp.mono fun _ hk => hk ▸ .invalidStream))⟩
      rw [refuse, e]
    | false =>
      cases hi : (a.slots.get command.stream).item with
      | some body => simp [Slot.push, hc, hi] at h
      | none =>
        simp only [Slot.push, hc, hi, Option.isSome_none, Bool.false_eq_true, if_false,
          Option.some.injEq] at h
        subst h
        exact ⟨.inr ⟨rfl, rfl, finished _ _ ⟨a.link, a.outbound, a.stats.sent, by simp [hc]⟩⟩,
          smoothly _ [] rfl (.refl rfl rfl rfl)⟩

theorem ear_deliver {a b : Agent L} (h : a.deliver = some b) : b.ear = a.ear.pass := by
  obtain ⟨command, -, ⟨-, H⟩ | ⟨-, -, H⟩, -⟩ := deliver_cases h
  · exact H.ear (Ear.pending_pass _).symm
  · exact H.ear (Ear.pending_pass _).symm

end Agent
end CommandLink
