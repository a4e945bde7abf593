import CommandLink.Proofs.Agent.Deeds

/-! # Which frames an agent takes for lost

An agent counts a gap before a frame, and tells the controller of it, if the number of the frame is
neither the one that it has seen last nor the next (`Jumps`); what it has seen last is what its
history since the latest reset says (`Agent.remembered`). Requests to sync are exempt. A frame with
the number seen last is a repeat and tells of no loss, but for one case: a request to reset is
processed in spite of its number, and is then reported as if frames were lost before it
(`Rewinds`). Beside these no frame is reported, whatever else happens
(`Agent.Host.losses_reported`). -/

namespace CommandLink

/-- The link hands over a sound frame. -/
def Carries (buffer : Option Octets) (header : Header) (stream : StreamId) : Prop :=
  ∃ octets payload, buffer = some octets ∧ Incoming.ofOctets octets = .frame header stream payload

/-- A frame by whose number a receiver that remembers `r` knows of lost ones. -/
structure Jumps (r : Inbound) (header : Header) : Prop where
  other : FrameKind.ofCode? header.kind ≠ some .syncRequest
  apart : ∃ last, r.lastSeen = some last ∧ header.seq ≠ last ∧ header.seq ≠ last.next

/-- A request to reset with the number seen last. -/
structure Rewinds (r : Inbound) (header : Header) : Prop where
  kind : FrameKind.ofCode? header.kind = some .agentReset
  again : r.lastSeen = some header.seq

namespace Agent

/-- Whether an agent that remembers `r` reports a gap before a frame. -/
def gapBefore (r : Inbound) (header : Header) : Bool :=
  match FrameKind.ofCode? header.kind with
  | some .syncRequest => false
  | some .agentReset => r.isGap header.seq
  | _ => r.isGap header.seq && !r.isRepeat header.seq

theorem gapBefore_iff {r : Inbound} {header : Header} :
    gapBefore r header = true ↔ Jumps r header ∨ Rewinds r header := by
  have jumps : FrameKind.ofCode? header.kind ≠ some .syncRequest →
      (Jumps r header ↔ r.isGap header.seq = true ∧ ¬ r.isRepeat header.seq = true) := by
    intro other
    rw [Inbound.isGap_iff, Inbound.isRepeat_iff]
    constructor
    · rintro ⟨-, last, seen, ne, apart⟩
      exact ⟨⟨last, seen, apart⟩, fun same => ne (Option.some.inj (same.symm.trans seen))⟩
    · rintro ⟨⟨last, seen, apart⟩, fresh⟩
      exact ⟨other, last, seen, fun same => fresh (same ▸ seen), apart⟩
  have rewinds : FrameKind.ofCode? header.kind ≠ some .agentReset → ¬ Rewinds r header :=
    fun other H => other H.kind
  unfold gapBefore
  split
  · next kind =>
    refine ⟨nofun, ?_⟩
    rintro (H | H)
    · exact absurd kind H.other
    · exact absurd (H.kind.symm.trans kind) (by decide)
  · next kind =>
    rw [jumps (by rw [kind]; decide)]
    constructor
    · intro gap
      by_cases again : r.isRepeat header.seq = true
      · exact .inr ⟨kind, Inbound.isRepeat_iff.mp again⟩
      · exact .inl ⟨gap, again⟩
    · rintro (⟨gap, -⟩ | H)
      · exact gap
      · -- no number is its own successor
        rw [Inbound.isGap_iff]
        exact ⟨header.seq, H.again, (SeqNum.next_ne_self header.seq).symm⟩
  · next other reset =>
    rw [jumps other, or_iff_left (rewinds reset)]
    simp

/-- The notices of lost frames among drafts. -/
def losses (ds : List Draft) : List Draft := ds.filter (·.kind = .packetLoss)

@[simp] theorem losses_append (ds ds' : List Draft) :
    losses (ds ++ ds') = losses ds ++ losses ds' := List.filter_append ..

/-- The notice for a frame that is reported as lost frames' successor. -/
def lossIn (r : Inbound) (buffer : Option Octets) : List Draft :=
  match buffer with
  | none => []
  | some octets =>
    match Incoming.ofOctets octets with
    | .frame header stream _ =>
      if gapBefore r header then [.notice .packetLoss stream.toOctet] else []
    | _ => []

theorem losses_lossReport (r : Inbound) (stream : StreamId) (seq : SeqNum) :
    losses (lossReport r stream seq) = lossReport r stream seq := by
  unfold lossReport
  split <;> rfl

/-- What an agent remembers by its history: the number in what it has heard last, unless that was a
request to reset. -/
def remembered (deeds : List Deed) : Inbound :=
  (deeds.filterMap Deed.heard?).foldl Inbound.afterArrival .fresh

section
variable {L : Type}

/-- The notice that is due once the command at hand has been passed on. -/
def pendingLoss (a : Agent L) : List Draft :=
  match a.receiving with
  | some command => lossReport a.inbound command.stream command.seq
  | none => []

/-- From `a` to `b` the notices of lost frames among `ds`, and the one that is still pending, are
`due`, and as many gaps are counted. -/
structure Accounts (a b : Agent L) (ds due : List Draft) : Prop where
  losses : losses ds ++ b.pendingLoss = due
  gaps : b.ear.pass.gaps = a.stats.gaps + due.length

variable {a b : Agent L} {ds due : List Draft}

theorem accounts_of_free (free : b.receiving = none) (told : losses ds = due)
    (gaps : b.stats.gaps = a.stats.gaps + due.length) : Accounts a b ds due := by
  refine ⟨by rw [pendingLoss, free, told, List.append_nil], ?_⟩
  rw [Ear.pass_of_none (by simp [ear, Ear.of, free])]
  exact gaps

variable [FrameLink L]

theorem gaps_notify (a : Agent L) (kind : FrameKind) (stream : UInt8) :
    (a.notify kind stream).stats.gaps = a.stats.gaps := by
  obtain ⟨link, outbound, sent, eq⟩ := a.sendPayload_touches kind stream []
  rw [notify, eq]

theorem gaps_reportGap (a : Agent L) (stream : StreamId) (seq : SeqNum) :
    (a.reportGap stream seq).stats.gaps =
      a.stats.gaps + (lossReport a.inbound stream seq).length := by
  obtain ⟨link, outbound, sent, eq⟩ := a.reportGap_eq stream seq
  rw [eq, lossReport]
  split <;> rfl

/-- A frame that is answered with a notice, and behind it with the report of a gap. -/
theorem accounts_noticed (free : a.receiving = none) {kind : FrameKind} (hk : kind ≠ .packetLoss)
    (stream : StreamId) (seq : SeqNum) :
    Accounts a (((a.notify kind stream.toOctet).reportGap stream seq).remember seq)
      (.notice kind stream.toOctet :: lossReport a.inbound stream seq)
      (lossReport a.inbound stream seq) := by
  obtain ⟨link, outbound, sent, eq⟩ := a.notify_eq kind stream
  have same : (a.notify kind stream.toOctet).inbound = a.inbound := by rw [eq]
  have gaps := (a.notify kind stream.toOctet).gaps_reportGap stream seq
  rw [same, gaps_notify] at gaps
  refine accounts_of_free ?_ ?_ gaps
  · exact (receiving_reportGap _ _ _).trans ((a.receiving_sendPayload _ _ _).trans free)
  · rw [losses, List.filter_cons_of_neg (by simp [Draft.notice, hk])]
    exact losses_lossReport ..

theorem accounts_reset (free : a.receiving = none) (stream : StreamId) (seq : SeqNum) :
    Accounts a (a.reportGap stream seq).restart
      (lossReport a.inbound stream seq ++ if a.config.announce then [announcement] else [])
      (lossReport a.inbound stream seq) := by
  obtain ⟨link, outbound, sent, log, eq, -⟩ := (a.reportGap stream seq).restart_eq
  have gaps := a.gaps_reportGap stream seq
  have announced : losses (if a.config.announce then [announcement] else []) = [] := by
    split <;> rfl
  refine accounts_of_free ?_ ?_ ?_
  · rw [eq]
    exact (a.receiving_reportGap _ _).trans free
  · rw [losses_append, losses_lossReport, announced, List.append_nil]
  · rw [eq]
    exact gaps

theorem accounts_answerSync (free : a.receiving = none) (stream : StreamId) (seq : SeqNum)
    (payload : Octets) : Accounts a ((a.answerSync stream payload).remember seq)
      [syncAnswer a.inbound stream payload] [] := by
  obtain ⟨link, outbound, sent, eq⟩ := a.answerSync_eq stream payload
  have other : (syncAnswer a.inbound stream payload).kind ≠ .packetLoss := by
    unfold syncAnswer
    split
    · split <;> simp [Draft.notice]
    · simp [Draft.notice]
  refine accounts_of_free ((a.receiving_answerSync _ _).trans free) (by simp [losses, other]) ?_
  rw [eq]
  rfl

omit [FrameLink L] in
/-- A repeat is passed over; only what is none can come behind a gap. -/
theorem accounts_unless_repeat (free : a.receiving = none) {stream : StreamId} {seq : SeqNum}
    (fresh : Accounts a b ds (lossReport a.inbound stream seq)) :
    Accounts a
      (if a.inbound.isRepeat seq then { a with stats := a.stats.countRepeat }.remember seq else b)
      (if a.inbound.isRepeat seq then [] else ds)
      (if a.inbound.isGap seq && !a.inbound.isRepeat seq then
        [.notice .packetLoss stream.toOctet] else []) := by
  have again : Accounts a ({ a with stats := a.stats.countRepeat }.remember seq) [] [] :=
    accounts_of_free free rfl rfl
  split
  · next rep => simpa [rep] using again
  · next other => simpa [other, lossReport] using fresh

theorem accounts_accept (free : a.receiving = none) (header : Header) (stream : StreamId)
    (payload : Octets) :
    Accounts a (a.accept header stream payload) (a.answerTo header stream payload)
      (if gapBefore a.inbound header then [.notice .packetLoss stream.toOctet] else []) := by
  have noticed := fun kind (other : kind ≠ FrameKind.packetLoss) =>
    accounts_noticed free other stream header.seq
  have unknown := accounts_unless_repeat free (noticed .error (by decide))
  unfold accept answerTo gapBefore
  simp only
  cases FrameKind.ofCode? header.kind with
  | none => exact unknown
  | some kind =>
    cases kind with
    | agentReset => exact accounts_reset free stream header.seq
    | syncRequest => exact accounts_answerSync free stream header.seq payload
    | command =>
      refine accounts_unless_repeat free ?_
      simp only
      split
      · refine ⟨rfl, ?_⟩
        simp only [ear, Ear.of, Option.map_some, Ear.pass, lossReport]
        by_cases gap : a.inbound.isGap header.seq = true <;> simp [gap]
      · exact noticed .invalidStream (by decide)
    | error =>
      exact accounts_unless_repeat free <| accounts_of_free
        ((a.receiving_reportGap _ _).trans free) (losses_lossReport ..)
        (a.gaps_reportGap stream header.seq)
    | _ => exact unknown

/-- A buffer is reported as its frame says. -/
theorem accounts_receive (free : a.receiving = none) (buffer : Option Octets) :
    Accounts a (a.receive buffer) (a.reaction buffer) (lossIn a.inbound buffer) := by
  cases buffer with
  | none => exact accounts_of_free free rfl rfl
  | some octets =>
    simp only [receive, reaction, lossIn]
    cases Incoming.ofOctets octets with
    | short => exact accounts_of_free free rfl rfl
    | badStream header =>
      exact accounts_of_free ((receiving_sendPayload ..).trans free) rfl (gaps_notify ..)
    | overLength header stream =>
      exact accounts_of_free ((receiving_sendPayload ..).trans free) rfl (gaps_notify ..)
    | frame header stream payload =>
      obtain ⟨told, gaps⟩ := accounts_accept (a := a.counted) free header stream payload
      exact ⟨told, gaps⟩

/-! ## What is sent -/

theorem fits_of_mem_lossReport {r : Inbound} {stream : StreamId} {seq : SeqNum} {d : Draft}
    (hd : d ∈ lossReport r stream seq) : d.fits = true := by
  unfold lossReport at hd
  split at hd
  · cases List.mem_singleton.mp hd
    rfl
  · cases hd

theorem fits_of_mem_lossIn {r : Inbound} {buffer : Option Octets} {d : Draft}
    (hd : d ∈ lossIn r buffer) : d.fits = true := by
  unfold lossIn at hd
  split at hd
  · cases hd
  · split at hd
    · split at hd
      · cases List.mem_singleton.mp hd
        rfl
      · cases hd
    · cases hd

omit [FrameLink L] in
theorem fits_of_mem_pendingLoss {d : Draft} (hd : d ∈ a.pendingLoss) : d.fits = true := by
  unfold pendingLoss at hd
  split at hd
  · exact fits_of_mem_lossReport hd
  · cases hd

/-- From `a` to `b` the link takes the notices of lost frames that are `due`, but for one that is
still pending. It takes no others, and these if it is ready and the agent runs. -/
structure Warns (a b : Agent L) (due : List Draft) : Prop where
  running : b.running = true → a.running = true
  sends : ∃ es : List Emission,
    FrameLink.taken b.link = FrameLink.taken a.link ++ es.map Emission.octets ∧
    (losses (es.map Emission.draft) ++ b.pendingLoss).Sublist due ∧
    (b.running = true → FrameLink.Ready a.link → FrameLink.Ready b.link ∧
      losses (es.map Emission.draft) ++ b.pendingLoss = due)

theorem Warns.trans {c : Agent L} (H : Warns a b due) (H' : Warns b c b.pendingLoss) :
    Warns a c due := by
  obtain ⟨es, taken, some_, all⟩ := H.sends
  obtain ⟨es', taken', some', all'⟩ := H'.sends
  refine ⟨H.running ∘ H'.running, es ++ es', ?_, ?_, fun running ready => ?_⟩
  · rw [taken', taken, List.map_append, List.append_assoc]
  · rw [List.map_append, losses_append, List.append_assoc]
    exact (some'.append_left _).trans some_
  · obtain ⟨ready, all⟩ := all (H'.running running) ready
    obtain ⟨ready, all'⟩ := all' running ready
    exact ⟨ready, by rw [List.map_append, losses_append, List.append_assoc, all', all]⟩

theorem Attempts.warns (H : Attempts a b ds) (told : losses ds ++ b.pendingLoss = due)
    (fits : ∀ d ∈ due, d.fits = true) : Warns a b due := by
  obtain ⟨es, taken, some_, all⟩ := H.chosen (·.kind = .packetLoss) fun d hd =>
    fits d (told ▸ List.mem_append_left _ hd)
  refine ⟨fun running => H.running ▸ running, es, taken, ?_, fun running ready => ?_⟩
  · rw [← told]
    exact some_.append_right _
  · refine ⟨H.ready ready, ?_⟩
    rw [losses, all (H.running ▸ running) ready]
    exact told

/-! ## Runs -/

namespace Host

variable {h m h' : Host L} {deed : Deed} {deeds more : List Deed} {buffer : Option Octets}

/-- Beside hearing, what is said of lost frames is what was pending. -/
theorem losses_drafts (ha : h.enact deed = some h') (deaf : ∀ other, deed ≠ .hear other)
    (other : ∀ i, deed ≠ .act (.advance i)) :
    losses (h.drafts deed) ++ h'.endpoint.pendingLoss = h.endpoint.pendingLoss := by
  have sent : ∀ (kind : FrameKind) (stream : UInt8) (payload : Octets),
      (h.endpoint.sendPayload kind stream payload).2.pendingLoss = h.endpoint.pendingLoss := by
    intro kind stream payload
    obtain ⟨link, outbound, sent, eq⟩ := h.endpoint.sendPayload_touches kind stream payload
    rw [eq]
    rfl
  cases enacted ha with
  | event header args => exact sent _ _ _
  | announce => exact sent _ _ _
  | advance => exact absurd rfl (other _)
  | hear buffer => exact absurd rfl (deaf buffer)
  | @pass a deliver =>
    obtain ⟨command, held, B, -⟩ := deliver_cases deliver
    have free : a.receiving = none := by
      rcases B with ⟨-, B⟩ | ⟨-, -, B⟩ <;>
      · obtain ⟨link, outbound, sent, log, rfl⟩ := B.eq
        rfl
    have refused : losses (if (h.endpoint.slots.get command.stream).closed then
        [.notice .invalidStream command.stream.toOctet] else []) = [] := by split <;> rfl
    simp only [drafts, held, handover, pendingLoss, free, losses_append, losses_lossReport, refused,
      List.nil_append, List.append_nil]
  | takeUp worker waits take =>
    obtain ⟨slots, workers, log, rfl⟩ := takeUp_eq take
    rfl
  | answer worker =>
    rw [drafts, worker]
    exact sent _ _ _
  | _ => rfl

theorem warns_enact (quiet : FrameLink.StopsQuietly L) (H : h.Halting)
    (ha : h.enact deed = some h') (deaf : ∀ other, deed ≠ .hear other) :
    Warns h.endpoint h'.endpoint h.endpoint.pendingLoss := by
  by_cases calls : ∃ i, deed = .act (.advance i)
  · obtain ⟨i, rfl⟩ := calls
    cases enacted ha with
    | @advance _ t u thread free take =>
      have pending : (t.call.step h.endpoint t.caller).1.pendingLoss =
          h.endpoint.pendingLoss := by
        obtain ⟨link, running, serving, slots, workers, eq⟩ :=
          Call.step_eq h.endpoint t.caller t.call
        rw [eq]
        rfl
      refine ⟨fun running => Call.running_of_step (a := h.endpoint) running, [], ?_, ?_,
        fun running ready => ⟨?_, pending⟩⟩
      · simpa using Call.taken_step quiet h.endpoint t.caller t.call
      · exact pending ▸ .refl _
      · -- the link of an agent that runs is not stopped
        have went : h.endpoint.running = true := Call.running_of_step running
        have going : ¬ t.call.HasTaken := fun last =>
          nomatch went.symm.trans (H.halted t (List.mem_of_getElem? thread) last.hasClosed.stops)
        have same : (t.call.step h.endpoint t.caller).1.link = h.endpoint.link :=
          Call.link_step going
        exact same.symm ▸ ready
  · have other : ∀ i, deed ≠ .act (.advance i) := fun i e => calls ⟨i, e⟩
    exact (attempts_enact ha other).warns (losses_drafts ha deaf other)
      fun _ => fits_of_mem_pendingLoss

/-- Until the next buffer is heard, nothing is said of lost frames but what was pending. -/
theorem warns_onward (quiet : FrameLink.StopsQuietly L) (H : m.Halting)
    (onward : m.enactAll more = some h') (deaf : ∀ deed ∈ more, ∀ other, deed ≠ .hear other) :
    Warns m.endpoint h'.endpoint m.endpoint.pendingLoss ∧
      h'.endpoint.ear.pass = m.endpoint.ear.pass := by
  induction more generalizing m with
  | nil =>
    cases onward
    exact ⟨⟨id, [], by simp, .refl _, fun _ ready => ⟨ready, rfl⟩⟩, rfl⟩
  | cons deed more ih =>
    rw [enactAll, List.foldlM_cons] at onward
    obtain ⟨n, step, rest⟩ := Option.bind_eq_some_iff.mp onward
    have here := deaf deed List.mem_cons_self
    obtain ⟨warns, ear⟩ := ih (H.enact step) rest fun d hd => deaf d (List.mem_cons_of_mem _ hd)
    exact ⟨(warns_enact quiet H step here).trans warns, ear.trans (ear_enact step here)⟩

theorem memory_enact (ha : h.enact deed = some h') :
    h'.endpoint.ear.pass.inbound =
      deed.heard?.toList.foldl Inbound.afterArrival h.endpoint.ear.pass.inbound := by
  by_cases hears : ∃ buffer, deed = .hear buffer
  · obtain ⟨buffer, rfl⟩ := hears
    cases enacted ha with
    | hear buffer free =>
      have now : h.endpoint.ear.pass = h.endpoint.ear :=
        Ear.pass_of_none (by simp [Agent.ear, Ear.of, free])
      cases buffer with
      | none =>
        show (h.endpoint.receive none).ear.pass.inbound = h.endpoint.ear.pass.inbound
        simp only [receive, Agent.ear, Ear.of, Ear.pass, free, Option.map_none]
      | some octets =>
        rw [now]
        exact (receive_memory free octets).1
  · have deaf : ∀ buffer, deed ≠ .hear buffer := fun buffer e => hears ⟨buffer, e⟩
    have unheard : deed.heard? = none := by
      cases deed with
      | hear buffer => exact absurd rfl (deaf buffer)
      | _ => rfl
    rw [ear_enact ha deaf, unheard]
    rfl

/-- What an agent remembers is what its history says. -/
theorem memory_enactAll (run : h.enactAll deeds = some h') :
    h'.endpoint.ear.pass.inbound =
      (deeds.filterMap Deed.heard?).foldl Inbound.afterArrival h.endpoint.ear.pass.inbound := by
  induction deeds generalizing h with
  | nil =>
    cases run
    rfl
  | cons deed deeds ih =>
    rw [enactAll, List.foldlM_cons] at run
    obtain ⟨n, step, rest⟩ := Option.bind_eq_some_iff.mp run
    rw [ih rest, memory_enact step, filterMap_cons_toList, List.foldl_append]

/-- From `a` to `b` an agent counts a gap for each of the notices. It sends these notices of lost
frames and no others, as far as its link takes them. -/
structure Reports (a b : Agent L) (notices : List Draft) : Prop where
  gaps : b.stats.gaps = a.stats.gaps + notices.length
  sends : ∃ es : List Emission,
    FrameLink.taken b.link = FrameLink.taken a.link ++ es.map Emission.octets ∧
    (losses (es.map Emission.draft)).Sublist notices ∧
    (b.running = true → FrameLink.Ready a.link → losses (es.map Emission.draft) = notices)

/-- An agent from its start, whatever arrives, whatever its owner, its handlers and those who shut
it down do meanwhile. From the moment when a buffer is heard to the moment when its frame has been
dealt with, the agent counts a gap and tells of lost frames, once and on the stream of the frame, if
the buffer holds a sound frame by whose number it knows of lost ones, or a request to reset with the
number seen last; otherwise it does neither. -/
theorem losses_reported (quiet : FrameLink.StopsQuietly L) {link : L} {config : AgentConfig}
    (run : (ofAgent (Agent.start link config).2).enactAll deeds = some h)
    (heard : h.enact (.hear buffer) = some m) (onward : m.enactAll more = some h')
    (deaf : ∀ deed ∈ more, ∀ other, deed ≠ .hear other)
    (free : h'.endpoint.receiving = none) :
    (∀ header stream, Carries buffer header stream →
      Jumps (remembered deeds) header ∨ Rewinds (remembered deeds) header →
      Reports h.endpoint h'.endpoint [.notice .packetLoss stream.toOctet]) ∧
    ((∀ header stream, Carries buffer header stream →
      ¬ Jumps (remembered deeds) header ∧ ¬ Rewinds (remembered deeds) header) →
      Reports h.endpoint h'.endpoint []) := by
  have prepared : Prepared link config (Agent.start link config).2 := .start
  have poised := prepared.poised.2
  have began := (custody_of_poised poised).toHalting
  have H : h.Halting := foldlM_preserves Halting.enact run began
  obtain ⟨warns', ear⟩ := warns_onward quiet (H.enact heard) onward deaf
  cases enacted heard with
  | hear buffer waits =>
    have accounts := accounts_receive waits buffer
    have warns := ((h.endpoint.attempts_receive buffer).warns accounts.losses
      fun _ => fits_of_mem_lossIn).trans warns'
    have memory : h.endpoint.inbound = remembered deeds := by
      have all := memory_enactAll run
      obtain ⟨link', outbound, sent, start⟩ := start_eq link config
      rw [Ear.pass_of_none (by simp [Agent.ear, Ear.of, waits]), ofAgent, start] at all
      exact all
    rw [memory] at accounts warns
    have reports : Reports h.endpoint h'.endpoint (lossIn (remembered deeds) buffer) := by
      obtain ⟨es, taken, some_, all⟩ := warns.sends
      have done : h'.endpoint.pendingLoss = [] := by rw [pendingLoss, free]
      rw [done, List.append_nil] at some_ all
      refine ⟨?_, es, taken, some_, fun running ready => (all running ready).2⟩
      have gaps := accounts.gaps
      have counted : h'.endpoint.ear.pass.gaps = h'.endpoint.stats.gaps := by
        rw [Ear.pass_of_none (by simp [Agent.ear, Ear.of, free])]
        rfl
      rw [← counted, ear]
      exact gaps
    constructor
    · rintro header stream ⟨octets, payload, rfl, sound⟩ tells
      simpa only [lossIn, sound, gapBefore_iff.mpr tells, if_true] using reports
    · intro none_
      have silent : lossIn (remembered deeds) buffer = [] := by
        unfold lossIn
        split
        · rfl
        · next octets =>
          split
          · next header stream payload sound =>
            obtain ⟨sound, rewinds⟩ := none_ header stream ⟨octets, payload, rfl, sound⟩
            rw [if_neg fun tells => (gapBefore_iff.mp tells).elim sound rewinds]
          · rfl
      exact silent ▸ reports

/-- An agent on a link that takes every frame. -/
def onMemory : Host ScriptedLink := ofAgent (Agent.start ⟨[], []⟩ ⟨"1.0", true⟩).2

/-- A command with the number 0, which a worker takes up. -/
def takenUp : List Deed := [.hear (some [0x00, 0, 4, 0, 5, 1, 0, 0]), .act .pass, .act (.takeUp 0)]

/-- While a command with the number 5 is passed on, an event is sent, and the first command is
answered. -/
def meanwhile : List Deed :=
  [.act (.event ⟨2, 1⟩ []), .act .pass, .act (.handle 0 (.ok [])), .act (.answer 0)]

theorem losses_reported_meanwhile :
    ∃ h m h' : Host ScriptedLink, onMemory.enactAll takenUp = some h ∧
      h.enact (.hear (some [0x05, 0, 4, 0, 5, 2, 0, 0])) = some m ∧
      m.enactAll meanwhile = some h' ∧
      h'.endpoint.link.frames = [[0x50, 0, 0, 0], [0x21, 0, 4, 0, 2, 1, 0, 0], [0x92, 0, 0, 0],
        [0x13, 0, 4, 0, 5, 1, 0, 0]] ∧
      Reports h.endpoint h'.endpoint [.notice .packetLoss (StreamId.toOctet StreamId.control)] := by
  obtain ⟨h, run, m, heard, h', onward, free, frames⟩ :
      ∃ h : Host ScriptedLink, onMemory.enactAll takenUp = some h ∧
      ∃ m, h.enact (.hear (some [0x05, 0, 4, 0, 5, 2, 0, 0])) = some m ∧
      ∃ h', m.enactAll meanwhile = some h' ∧ h'.endpoint.receiving = none ∧
      h'.endpoint.link.frames = [[0x50, 0, 0, 0], [0x21, 0, 4, 0, 2, 1, 0, 0], [0x92, 0, 0, 0],
        [0x13, 0, 4, 0, 5, 1, 0, 0]] := ⟨_, rfl, _, rfl, _, rfl, rfl, rfl⟩
  have deaf : ∀ deed ∈ meanwhile, ∀ other, deed ≠ .hear other := by simp [meanwhile]
  have reports := (losses_reported (fun _ => rfl) run heard onward deaf free).1
    ⟨0, ⟨5, by decide⟩, 0, 4⟩ StreamId.control ⟨_, [5, 2, 0, 0], rfl, rfl⟩
    (.inl ⟨by decide, SeqNum.first, rfl, by decide, by decide⟩)
  exact ⟨h, m, h', run, heard, onward, frames, reports⟩

/-- A request to reset with the number seen last: no number is missing, and yet the agent counts a
gap and tells of lost frames. -/
theorem reset_reported_lost :
    ∃ h h' : Host ScriptedLink, onMemory.enactAll takenUp = some h ∧
      h.enact (.hear (some [0x40, 0, 0, 0])) = some h' ∧
      (∀ header stream, Carries (some [0x40, 0, 0, 0]) header stream →
        ¬ Jumps (remembered takenUp) header) ∧
      h'.endpoint.receiving = none ∧ h.endpoint.stats.gaps = 0 ∧ h'.endpoint.stats.gaps = 1 ∧
      h'.endpoint.link.frames = h.endpoint.link.frames ++ [[0x91, 0, 0, 0], [0x50, 0, 0, 0]] := by
  refine ⟨_, _, rfl, rfl, ?_, rfl, rfl, rfl, rfl⟩
  rintro header stream ⟨octets, payload, eq, sound⟩ ⟨-, last, seen, ne, -⟩
  cases eq
  cases sound
  cases seen
  exact ne rfl

end Host
end
end Agent
end CommandLink
