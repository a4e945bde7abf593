import CommandLink.Proofs.Agent.Arrivals
import CommandLink.Proofs.Endpoint.Intake

/-! # An agent that takes in what arrives

The receive path of an agent on its own, while someone empties the slots. Of the commands that it
keeps, those on streams that are open get into the slots, in order, and each of the others is told
of with a notice; and as often as the agent counts a gap it sends a notice of lost frames
(`Agent.Took`). -/

namespace CommandLink
namespace Agent

variable {L : Type} [FrameLink L]

/-! ## Notices -/

/-- `b` follows from `a` by sending frames of the given kinds on the given streams. -/
def Tells (a b : Agent L) (told : List (FrameKind × StreamId)) : Prop :=
  ∃ posts, Speech (fun _ => True) a b posts ∧ posts.map (fun p => (p.kind, p.stream)) = told

theorem Tells.nothing {a b : Agent L} (hl : b.link = a.link) (hs : b.stats.sent = a.stats.sent) :
    Tells a b [] :=
  ⟨[], ⟨by simp [hl], hs, fun _ hp => (List.not_mem_nil hp).elim, fun h => hl ▸ h⟩, rfl⟩

theorem Tells.trans {a b c : Agent L} {told told' : List (FrameKind × StreamId)}
    (H : Tells a b told) (H' : Tells b c told') : Tells a c (told ++ told') := by
  obtain ⟨ps, hs, rfl⟩ := H
  obtain ⟨qs, hs', rfl⟩ := H'
  exact ⟨ps ++ qs, hs.trans hs', List.map_append⟩

/-- Only link and counter of frames sent matter. -/
theorem Tells.congr {a a' b b' : Agent L} {told : List (FrameKind × StreamId)} (H : Tells a b told)
    (h : a'.link = a.link ∧ a'.stats.sent = a.stats.sent)
    (h' : b'.link = b.link ∧ b'.stats.sent = b.stats.sent) : Tells a' b' told := by
  obtain ⟨posts, speech, rfl⟩ := H
  refine ⟨posts, ⟨by rw [h.1, h'.1, speech.link], by rw [h.2, h'.2, speech.sent], speech.kinds,
    fun ready => ?_⟩, rfl⟩
  rw [h'.1]
  exact speech.ready (h.1 ▸ ready)

theorem Tells.ready {a b : Agent L} {told : List (FrameKind × StreamId)} (H : Tells a b told)
    (h : FrameLink.Ready a.link) : FrameLink.Ready b.link := by
  obtain ⟨_, speech, -⟩ := H
  exact speech.ready h

/-- What a notice on a stream leaves as it is. -/
theorem notify_tells {a : Agent L} (running : a.running = true) (ready : FrameLink.Ready a.link)
    (kind : FrameKind) (stream : StreamId) :
    Tells a (a.notify kind stream.toOctet) [(kind, stream)] :=
  ⟨_, (sendPayload_smooth_of_ready ready running kind stream (Nat.zero_le _)).toSpeech.mono
    fun _ _ => trivial, rfl⟩

/-- The notice of a gap, if there is one. -/
def lossNotice (r : Inbound) (stream : StreamId) (seq : SeqNum) : List (FrameKind × StreamId) :=
  if r.isGap seq then [(.packetLoss, stream)] else []

theorem reportGap_tells {a : Agent L} (running : a.running = true)
    (ready : FrameLink.Ready a.link) (stream : StreamId) (seq : SeqNum) :
    Tells a (a.reportGap stream seq) (lossNotice a.inbound stream seq) := by
  unfold reportGap lossNotice
  split
  · have counted : Tells a { a with stats := a.stats.countGap } [] := .nothing rfl rfl
    exact counted.trans (notify_tells (a := { a with stats := a.stats.countGap }) running ready
      .packetLoss stream)
  · exact .nothing rfl rfl

/-! ## The receive path -/

instance : ReceivePath (Agent L) where
  slots a := a.slots
  setSlots a slots' := { a with slots := slots' }
  pending a := a.receiving.map fun c => (c.stream, c.body)
  receive a octets := a.receive (some octets)
  deliver := deliver
  slots_setSlots _ _ := rfl
  pending_setSlots _ _ := rfl
  slots_receive a octets := (a.receive_aside octets).slots
  deliver_cases {a b} h := by
    obtain ⟨command, hr, becomes, -⟩ := deliver_cases h
    refine ⟨command.stream, command.body, by rw [hr]; rfl, ?_⟩
    rcases becomes with ⟨hc, B⟩ | ⟨hc, hi, B⟩
    · obtain ⟨link, outbound, sent, log, rfl⟩ := B.eq
      exact ⟨rfl, .inl ⟨hc, rfl⟩⟩
    · obtain ⟨link, outbound, sent, log, rfl⟩ := B.eq
      exact ⟨rfl, .inr ⟨hc, hi, rfl⟩⟩
  deliver_of_room {a stream body} hp hi := by
    obtain ⟨command, hr, e⟩ := Option.map_eq_some_iff.mp hp
    cases e
    cases hc : (a.slots.get command.stream).closed with
    | true => exact ⟨_, by simp [deliver, hr, Slot.push, hc]; rfl⟩
    | false => exact ⟨_, by simp [deliver, hr, Slot.push, hc, hi]; rfl⟩

/-- The stream takes commands. -/
def accepts (a : Agent L) (stream : StreamId) : Prop :=
  a.isOpen stream = true ∧ (a.slots.get stream).closed = false

/-- A command is counted as a repeat, held, or refused. -/
theorem receive_command (a : Agent L) {f : SoundFrame} (hk : f.kind = some .command) :
    a.receive (some f.octets) =
      if a.inbound.isRepeat f.seq then
        { a with stats := a.stats.countReceived.countRepeat, inbound := a.inbound.record f.seq }
      else if a.isOpen f.stream then
        { a with
          stats := a.stats.countReceived, receiving := some ⟨f.stream, f.payload, f.seq⟩ }
      else ((a.counted.refuse f.stream).reportGap f.stream f.seq).remember f.seq := by
  have hk : FrameKind.ofCode? f.header.kind = some .command := hk
  simp only [receive, f.sound, accept, hk]
  rfl

theorem refused_eq (a : Agent L) (stream : StreamId) (seq : SeqNum) :
    ∃ link outbound sent, (a.refuse stream).reportGap stream seq =
      { a with
        link := link, outbound := outbound
        stats := { a.stats with
          sent := sent
          gaps := if a.inbound.isGap seq then a.stats.gaps + 1 else a.stats.gaps } } := by
  obtain ⟨link, outbound, sent, h⟩ := a.notify_eq .invalidStream stream
  obtain ⟨link', outbound', sent', h'⟩ := (a.refuse stream).reportGap_eq stream seq
  refine ⟨link', outbound', sent', h'.trans ?_⟩
  rw [refuse, h]

theorem ear_receive_command {a : Agent L} (hr : a.receiving = none) {f : SoundFrame}
    (hk : f.kind = some .command) :
    (a.receive (some f.octets)).ear.pass = a.ear.absorb f.seq := by
  rw [a.receive_command hk]
  by_cases again : a.inbound.isRepeat f.seq = true
  · simp [again, Agent.ear, Ear.of, hr, Ear.pass, Ear.absorb, LinkStats.countReceived,
      LinkStats.countRepeat]
  · by_cases ho : a.isOpen f.stream = true
    · simp [again, ho, Agent.ear, Ear.of, hr, Ear.pass, Ear.absorb, LinkStats.countReceived]
    · obtain ⟨link, outbound, sent, h⟩ := a.counted.refused_eq f.stream f.seq
      rw [if_neg again, if_neg ho, h]
      simp [again, remember, Agent.ear, Ear.of, hr, Ear.pass, Ear.absorb, counted,
        LinkStats.countReceived]

/-- What is told of a frame: nothing if it is held, or a repeat. -/
def noticesOf (a : Agent L) (f : SoundFrame) : List (FrameKind × StreamId) :=
  if a.inbound.isRepeat f.seq ∨ a.isOpen f.stream then []
  else (.invalidStream, f.stream) :: lossNotice a.inbound f.stream f.seq

theorem refused_tells {a : Agent L} (running : a.running = true)
    (ready : FrameLink.Ready a.link) (stream : StreamId) (seq : SeqNum) :
    Tells a ((a.refuse stream).reportGap stream seq)
      ((.invalidStream, stream) :: lossNotice a.inbound stream seq) := by
  have told := notify_tells running ready .invalidStream stream
  obtain ⟨link, outbound, sent, h⟩ := a.notify_eq .invalidStream stream
  have running' : (a.refuse stream).running = true := by rw [refuse, h]; exact running
  have same : (a.refuse stream).inbound = a.inbound := by rw [refuse, h]
  have reported := reportGap_tells running' (told.ready ready) stream seq
  rw [same] at reported
  exact told.trans reported

theorem receive_tells {a : Agent L} (running : a.running = true) (ready : FrameLink.Ready a.link)
    {f : SoundFrame} (hk : f.kind = some .command) :
    Tells a (a.receive (some f.octets)) (a.noticesOf f) := by
  rw [a.receive_command hk, noticesOf]
  by_cases again : a.inbound.isRepeat f.seq = true
  · rw [if_pos again, if_pos (.inl again)]
    exact .nothing rfl rfl
  · rw [if_neg again]
    by_cases ho : a.isOpen f.stream = true
    · rw [if_pos ho, if_pos (.inr ho)]
      exact .nothing rfl rfl
    · rw [if_neg ho, if_neg fun h => h.elim again ho]
      exact (refused_tells (a := a.counted) running ready f.stream f.seq).congr ⟨rfl, rfl⟩
        ⟨rfl, rfl⟩

/-- What is told when a held command is passed on. -/
theorem deliver_tells {a b : Agent L} (running : a.running = true)
    (ready : FrameLink.Ready a.link) (h : a.deliver = some b) :
    ∃ command, a.receiving = some command ∧
      Tells a b ((if (a.slots.get command.stream).closed then
        [(.invalidStream, command.stream)] else []) ++
          lossNotice a.inbound command.stream command.seq) := by
  unfold deliver at h
  split at h
  · cases h
  · next command hr =>
    refine ⟨command, hr, ?_⟩
    cases hc : (a.slots.get command.stream).closed with
    | true =>
      simp only [Slot.push, hc, if_true, Option.some.injEq] at h
      subst h
      exact (refused_tells (a := { a with receiving := none }) running ready command.stream
        command.seq).congr ⟨rfl, rfl⟩ ⟨rfl, rfl⟩
    | false =>
      cases hi : (a.slots.get command.stream).item with
      | some body => simp [Slot.push, hc, hi] at h
      | none =>
        simp only [Slot.push, hc, hi, Option.isSome_none, Bool.false_eq_true, if_false,
          Option.some.injEq] at h
        subst h
        exact (reportGap_tells (a := { a with
          receiving := none
          slots := a.slots.set command.stream
            { item := some command.body, closed := false
              cancels := (a.slots.get command.stream).cancels } }) running ready command.stream
          command.seq).congr ⟨rfl, rfl⟩ ⟨rfl, rfl⟩

/-! ## Commands -/

theorem countP_lossNotice (r : Inbound) (stream : StreamId) (seq : SeqNum) :
    (lossNotice r stream seq).countP (·.1 = .packetLoss) = if r.isGap seq then 1 else 0 := by
  unfold lossNotice
  split <;> rfl

theorem count_lossNotice (r : Inbound) (stream : StreamId) (seq : SeqNum) (s : StreamId) :
    (lossNotice r stream seq).count (.invalidStream, s) = 0 := by
  unfold lossNotice
  split <;> simp

/-- After the commands `fs` from `a`, with slots that have been emptied now and then. -/
structure Took (a : Agent L) (fs : List SoundFrame) (d : Intake (Agent L)) : Prop where
  running : d.endpoint.running = true
  ready : FrameLink.Ready d.endpoint.link
  serving : d.endpoint.serving = a.serving
  held : ∀ command, d.endpoint.receiving = some command → a.isOpen command.stream = true
  closed : ∀ stream, (d.endpoint.slots.get stream).closed = (a.slots.get stream).closed
  ear : d.endpoint.ear.pass = (Reception.ofFrames fs).ear a.ear fs.length
  told : ∃ told, Tells a d.endpoint told ∧
    d.endpoint.stats.gaps = a.stats.gaps + told.countP (·.1 = .packetLoss) ∧
    ∀ stream, ¬ a.accepts stream →
      told.count (.invalidStream, stream) +
          (Intake.on stream (ReceivePath.pending d.endpoint).toList).length =
        ((Reception.ofFrames fs).kept.filterMap (SoundFrame.payloadOn .command stream)).length
  commands : ∀ stream, a.accepts stream →
    d.reached stream = (a.slots.get stream).item.toList ++
      (Reception.ofFrames fs).kept.filterMap (SoundFrame.payloadOn .command stream)

variable {a : Agent L} {fs : List SoundFrame} {d d' : Intake (Agent L)}

theorem Took.start (running : a.running = true) (ready : FrameLink.Ready a.link)
    (hi : a.inbound = .fresh) (hr : a.receiving = none) : Took a [] (.ofEndpoint a) where
  running := running
  ready := ready
  serving := rfl
  held command h := by
    have h : a.receiving = some command := h
    rw [hr] at h
    cases h
  closed _ := rfl
  ear := by
    simp [Intake.ofEndpoint, Ear.pass, Agent.ear, Ear.of, hi, hr, Reception.ear, Reception.fresh]
  told := ⟨[], .nothing rfl rfl, rfl, fun stream _ => by
    simp [Intake.ofEndpoint, Intake.on, ReceivePath.pending, hr, Reception.fresh]⟩
  commands stream _ := by
    simp [Intake.ofEndpoint, Intake.reached, Intake.on, ReceivePath.pending, ReceivePath.slots, hr,
      Reception.fresh]

theorem Took.isOpen (T : Took a fs d) (stream : StreamId) :
    d.endpoint.isOpen stream = a.isOpen stream := by
  rw [Agent.isOpen, T.serving]
  rfl

/-- The command that is held, if one is. -/
theorem receiving_receive {a : Agent L} (hr : a.receiving = none) {f : SoundFrame}
    (hk : f.kind = some .command) :
    (a.receive (some f.octets)).receiving =
      if a.inbound.isRepeat f.seq then none
      else if a.isOpen f.stream then some ⟨f.stream, f.payload, f.seq⟩
      else none := by
  rw [a.receive_command hk]
  by_cases again : a.inbound.isRepeat f.seq = true
  · simp [again, hr]
  · rw [if_neg again, if_neg again]
    by_cases ho : a.isOpen f.stream = true
    · rw [if_pos ho, if_pos ho]
    · obtain ⟨link, outbound, sent, h⟩ := a.counted.refused_eq f.stream f.seq
      rw [if_neg ho, if_neg ho, h]
      exact hr

theorem gaps_receive (a : Agent L) {f : SoundFrame} (hk : f.kind = some .command) :
    (a.receive (some f.octets)).stats.gaps =
      a.stats.gaps + (a.noticesOf f).countP (·.1 = .packetLoss) := by
  rw [a.receive_command hk, noticesOf]
  by_cases again : a.inbound.isRepeat f.seq = true
  · rw [if_pos again, if_pos (.inl again)]
    rfl
  · by_cases ho : a.isOpen f.stream = true
    · rw [if_neg again, if_pos ho, if_pos (.inr ho)]
      rfl
    · have refused : ¬(a.inbound.isRepeat f.seq = true ∨ a.isOpen f.stream = true) :=
        fun h => h.elim again ho
      obtain ⟨link, outbound, sent, h⟩ := a.counted.refused_eq f.stream f.seq
      rw [if_neg again, if_neg ho, if_neg refused, h, List.countP_cons_of_neg (by simp),
        countP_lossNotice]
      show (if a.inbound.isGap f.seq then a.stats.gaps + 1 else a.stats.gaps) = _
      split <;> rfl

/-- A command is told of as refused, held, or a repeat. -/
theorem count_noticesOf (a : Agent L) {f : SoundFrame} (hr : a.receiving = none)
    (hk : f.kind = some .command) (stream : StreamId) :
    (a.noticesOf f).count (.invalidStream, stream) +
        (Intake.on stream (ReceivePath.pending (a.receive (some f.octets))).toList).length =
      if a.inbound.isRepeat f.seq then 0 else (f.payloadOn .command stream).toList.length := by
  have pending : ReceivePath.pending (a.receive (some f.octets)) =
      (a.receive (some f.octets)).receiving.map fun c => (c.stream, c.body) := rfl
  rw [pending, receiving_receive hr hk, noticesOf]
  by_cases again : a.inbound.isRepeat f.seq = true
  · simp [again, Intake.on]
  · by_cases hs : f.stream = stream
    · by_cases ho : a.isOpen f.stream = true
      · simp [again, hs ▸ ho, hs, hk, Intake.on, SoundFrame.payloadOn]
      · simp [again, hs ▸ ho, hs, hk, Intake.on, SoundFrame.payloadOn, count_lossNotice]
    · by_cases ho : a.isOpen f.stream = true <;>
        simp [again, ho, hs, Intake.on, SoundFrame.payloadOn, count_lossNotice]

/-- A command for an open stream is on its way into the slot, unless it is a repeat. -/
theorem on_pending_receive {a : Agent L} (hr : a.receiving = none) {f : SoundFrame}
    (hk : f.kind = some .command) {stream : StreamId} (ho : a.isOpen stream = true) :
    Intake.on stream (ReceivePath.pending (a.receive (some f.octets))).toList =
      if a.inbound.isRepeat f.seq then [] else (f.payloadOn .command stream).toList := by
  have pending : ReceivePath.pending (a.receive (some f.octets)) =
      (a.receive (some f.octets)).receiving.map fun c => (c.stream, c.body) := rfl
  rw [pending, receiving_receive hr hk]
  by_cases again : a.inbound.isRepeat f.seq = true
  · simp [again, Intake.on]
  · by_cases hs : f.stream = stream
    · simp [again, hs, ho, hk, Intake.on, SoundFrame.payloadOn]
    · by_cases hf : a.isOpen f.stream = true <;>
        simp [again, hs, hf, Intake.on, SoundFrame.payloadOn]

/-- One more command is taken in. -/
theorem Took.hear (T : Took a fs d) {f : SoundFrame} (hk : f.kind = some .command)
    {arrivals : List Octets} (hf : arrivals[d.heard]? = some f.octets)
    (h : d.act arrivals .hear = some d') : Took a (fs ++ [f]) d' := by
  have closed := Intake.closed_act h
  have reached := Intake.reached_hear h
  obtain ⟨octets, next, free, rfl⟩ := Intake.act_hear h
  rw [hf] at next
  cases next
  have hr : d.endpoint.receiving = none := Option.map_eq_none_iff.mp free
  have ear : d.endpoint.ear = (Reception.ofFrames fs).ear a.ear fs.length := by
    rw [← T.ear, Ear.pass_of_none (by simp [Agent.ear, Ear.of, hr])]
  have unheard : d.endpoint.inbound = (Reception.ofFrames fs).inbound := congrArg Ear.inbound ear
  have aside := d.endpoint.receive_aside f.octets
  have held := receiving_receive hr hk
  have kept : ∀ stream, (Reception.ofFrames (fs ++ [f])).kept.filterMap
      (SoundFrame.payloadOn .command stream) =
        (Reception.ofFrames fs).kept.filterMap (SoundFrame.payloadOn .command stream) ++
          if d.endpoint.inbound.isRepeat f.seq then []
          else (f.payloadOn .command stream).toList := by
    intro stream
    rw [Reception.ofFrames_concat, Reception.kept_hear, ← unheard]
    split
    · rw [List.append_nil]
    · rw [List.filterMap_append]
      cases hf : f.payloadOn .command stream <;> simp [hf]
  refine ⟨aside.running.trans T.running, aside.ready T.ready, aside.serving.trans T.serving, ?_,
    fun stream => (closed stream).trans (T.closed stream), ?_, ?_, ?_⟩
  · intro command hc
    have hc : (d.endpoint.receive (some f.octets)).receiving = some command := hc
    rw [held] at hc
    split at hc
    · cases hc
    · obtain ⟨h, e⟩ := Option.ite_none_right_eq_some.mp hc
      cases e
      exact (T.isOpen f.stream).symm.trans h
  · show (d.endpoint.receive (some f.octets)).ear.pass = _
    rw [ear_receive_command hr hk, ear, Reception.ofFrames_concat, List.length_append,
      List.length_singleton, Reception.ear_hear]
  · obtain ⟨told, tells, gaps, refused⟩ := T.told
    refine ⟨told ++ d.endpoint.noticesOf f, tells.trans (receive_tells T.running T.ready hk), ?_,
      fun stream hs => ?_⟩
    · rw [List.countP_append, ← Nat.add_assoc, ← gaps]
      exact d.endpoint.gaps_receive hk
    · have before := refused stream hs
      rw [free, Option.toList_none] at before
      have now := d.endpoint.count_noticesOf hr hk stream
      have more : (if d.endpoint.inbound.isRepeat f.seq then []
          else (f.payloadOn .command stream).toList).length =
        if d.endpoint.inbound.isRepeat f.seq then 0
          else (f.payloadOn .command stream).toList.length := by split <;> rfl
      rw [kept, List.length_append, more, ← now, ← before, List.count_append, Nat.add_assoc]
      rfl
  · intro stream ho
    rw [reached stream, T.commands stream ho, kept, List.append_assoc]
    exact congrArg (_ ++ ·) (congrArg (_ ++ ·)
      (on_pending_receive hr hk ((T.isOpen stream).trans ho.1)))

theorem gaps_deliver {a b : Agent L} {command : PendingCommand}
    (hr : a.receiving = some command) (h : a.deliver = some b) :
    b.stats.gaps = a.stats.gaps + (lossNotice a.inbound command.stream command.seq).countP
      (·.1 = .packetLoss) := by
  have ear := congrArg Ear.gaps (ear_deliver h)
  rw [countP_lossNotice]
  simp only [Agent.ear, Ear.of, hr, Option.map_some, Ear.pass] at ear
  rw [ear]
  split <;> rfl

/-- A command that is held is passed on, or told of as refused. -/
theorem Took.pass (T : Took a fs d) {arrivals : List Octets}
    (h : d.act arrivals .pass = some d') : Took a fs d' := by
  have closed := Intake.closed_act h
  have reached : ∀ stream, ((ReceivePath.slots d.endpoint).get stream).closed = false →
      d'.reached stream = d.reached stream := fun stream => Intake.reached_act h nofun
  obtain ⟨b, hb, rfl⟩ := Option.map_eq_some_iff.mp h
  obtain ⟨command, hr, tells⟩ := deliver_tells T.running T.ready hb
  obtain ⟨running, serving, free⟩ :
      b.running = d.endpoint.running ∧ b.serving = d.endpoint.serving ∧ b.receiving = none := by
    obtain ⟨_, -, ⟨-, B⟩ | ⟨-, -, B⟩, -⟩ := deliver_cases hb
    · obtain ⟨link, outbound, sent, log, rfl⟩ := B.eq
      exact ⟨rfl, rfl, rfl⟩
    · obtain ⟨link, outbound, sent, log, rfl⟩ := B.eq
      exact ⟨rfl, rfl, rfl⟩
  refine ⟨running.trans T.running, tells.ready T.ready, serving.trans T.serving, ?_,
    fun stream => (closed stream).trans (T.closed stream), ?_, ?_, fun stream ho => ?_⟩
  · intro command' hc
    have hc : b.receiving = some command' := hc
    rw [free] at hc
    cases hc
  · show b.ear.pass = _
    rw [ear_deliver hb, Ear.pass_pass, T.ear]
  · obtain ⟨told, already, gaps, refused⟩ := T.told
    refine ⟨_, already.trans tells, ?_, fun stream hs => ?_⟩
    · rw [List.countP_append, ← Nat.add_assoc, ← gaps, List.countP_append]
      refine (gaps_deliver hr hb).trans (congrArg (_ + ·) ?_)
      split <;> simp
    · have before := refused stream hs
      have pending : ReceivePath.pending d.endpoint = some (command.stream, command.body) := by
        show d.endpoint.receiving.map _ = _
        rw [hr]
        rfl
      have none_left : ReceivePath.pending b = none := by
        show b.receiving.map _ = none
        rw [free]
        rfl
      rw [pending] at before
      rw [← before, List.count_append, List.count_append, count_lossNotice]
      show _ + (Intake.on stream (ReceivePath.pending b).toList).length = _
      rw [none_left]
      cases hc : (d.endpoint.slots.get command.stream).closed with
      | true => by_cases hcs : command.stream = stream <;> simp [hcs, Intake.on]
      | false =>
        have other : command.stream ≠ stream := by
          rintro rfl
          exact hs ⟨T.held command hr, (T.closed command.stream).symm.trans hc⟩
        simp [Intake.on, other]
  · exact (reached stream ((T.closed stream).trans ho.2)).trans (T.commands stream ho)

/-- What is in a slot is taken. -/
theorem Took.drain (T : Took a fs d) {arrivals : List Octets} {stream : StreamId}
    (h : d.act arrivals (.drain stream) = some d') : Took a fs d' := by
  have closed := Intake.closed_act h
  have reached : ∀ stream, ((ReceivePath.slots d.endpoint).get stream).closed = false →
      d'.reached stream = d.reached stream := fun stream => Intake.reached_act h nofun
  obtain ⟨body, -, rfl⟩ := Intake.act_drain h
  refine ⟨T.running, T.ready, T.serving, T.held,
    fun stream => (closed stream).trans (T.closed stream), T.ear, ?_, fun stream ho => ?_⟩
  · obtain ⟨told, tells, gaps, refused⟩ := T.told
    exact ⟨told, tells.congr ⟨rfl, rfl⟩ ⟨rfl, rfl⟩, gaps, refused⟩
  · exact (reached stream ((T.closed stream).trans ho.2)).trans (T.commands stream ho)

/-- A run takes in the commands that it hears. -/
theorem Took.run (hk : ∀ f ∈ fs, f.kind = some .command) (running : a.running = true)
    (ready : FrameLink.Ready a.link) (hi : a.inbound = .fresh) (hr : a.receiving = none)
    {moves : List Intake.Move}
    (run : (Intake.ofEndpoint a).perform (fs.map SoundFrame.octets) moves = some d) :
    Took a (fs.take d.heard) d := by
  refine Intake.takes (fun hf T next h => T.hear (hk _ hf) next h) ?_
    (.start running ready hi hr) run
  intro heard d d' move hm T h
  cases move with
  | hear => exact absurd rfl hm
  | pass => exact T.pass h
  | drain stream => exact T.drain h

end Agent
end CommandLink
