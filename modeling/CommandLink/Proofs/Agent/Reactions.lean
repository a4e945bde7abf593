import CommandLink.Proofs.Agent.Deeds
import CommandLink.Proofs.Agent.Progress

/-! # How much an agent sends for what it receives

Whatever an agent receives, it sends two frames at most on account of it. What it has not sent yet
it owes (`Agent.owed`): a response for each command that is on its way to a handler or in its hands,
and beside it the report of a gap. No step adds to what has been sent and what is owed together, but
for two frames with each buffer that is received, and one with each frame that the owner asks for
(`Agent.Host.owed_enact`). -/

namespace CommandLink

/-- A worker that has taken up a command sends one response. -/
def WorkerPhase.owed : WorkerPhase → Nat
  | .handling _ | .answering _ => 1
  | .waiting | .stopped => 0

namespace Agent

variable {L : Type}

/-- The frames that an agent may still send for what it has received: a response for each command
in a slot or in a worker's hands, and for a command that the receive path holds the report of a gap
as well. -/
def owed (a : Agent L) : Nat :=
  a.slots.total (·.item.toList.length) + total (·.phase.owed) a.workers +
    2 * a.receiving.toList.length

/-- The buffers that an agent answers with nothing, if it remembers `r`. -/
inductive Unanswered (r : Inbound) : Option Octets → Prop
  | null : Unanswered r none
  | short {octets : Octets} (h : octets.length < Header.size) : Unanswered r (some octets)
  /-- A frame with the number seen last, unless it asks for a reset or a sync. -/
  | again {octets : Octets} {header : Header} {stream : StreamId} {payload : Octets}
      (sound : Incoming.ofOctets octets = .frame header stream payload)
      (last : r.lastSeen = some header.seq)
      (kind : FrameKind.ofCode? header.kind ≠ some .agentReset ∧
        FrameKind.ofCode? header.kind ≠ some .syncRequest) : Unanswered r (some octets)
  /-- A report of an error that is the first frame, or the next one. -/
  | error {octets : Octets} {header : Header} {stream : StreamId} {payload : Octets}
      (sound : Incoming.ofOctets octets = .frame header stream payload)
      (kind : FrameKind.ofCode? header.kind = some .error)
      (inSequence : ∀ last, r.lastSeen = some last → header.seq = last.next) :
      Unanswered r (some octets)

/-- Nothing is different but what an agent remembers and has counted, and it has sent nothing. -/
def Mute (a b : Agent L) : Prop :=
  ∃ inbound stats, b = { a with inbound := inbound, stats := stats } ∧ stats.sent = a.stats.sent

/-! ## Workers -/

theorem owed_setPhase {a : Agent L} (H : ∀ (i : Nat) w, a.workers[i]? = some w → w.id = i)
    {i : WorkerId} {w : Worker} (hw : a.workers[i]? = some w) (phase : WorkerPhase) :
    (a.setPhase i phase).owed + w.phase.owed = a.owed + phase.owed := by
  have sum := total_set hw (·.phase.owed) { w with phase := phase }
  rw [← workers_setPhase H hw] at sum
  simp only [owed, setPhase] at sum ⊢
  omega

theorem owed_takeUp {a b : Agent L} (H : ∀ (i : Nat) w, a.workers[i]? = some w → w.id = i)
    {i : Nat} {w : Worker} (hw : a.workers[i]? = some w) (waits : w.phase = .waiting)
    (h : a.takeUp w = some b) : b.owed ≤ a.owed := by
  have moved : ∀ (c : Agent L) (phase : WorkerPhase), c.workers = a.workers →
      (c.setPhase w.id phase).owed = c.owed + phase.owed := by
    intro c phase same
    have sum := owed_setPhase (a := c) (by rw [same]; exact H) (by rw [same]; exact hw) phase
    rw [waits] at sum
    rw [H i w hw]
    exact sum
  -- an item that is taken up is one thing less in the slots
  have cleared : ∀ body, (a.slots.get w.stream).item = some body →
      owed { a with slots := a.slots.modify w.stream Slot.clear } + 1 = a.owed := by
    intro body item
    have sum := a.slots.total_set (·.item.toList.length) w.stream (a.slots.get w.stream).clear
    simp only [item, Slot.clear, Option.toList_some, Option.toList_none, List.length_singleton,
      List.length_nil] at sum
    simp only [owed, StreamTable.modify, Slot.clear]
    omega
  rcases takeUp_ways h with ⟨body, invocation, item, -, rfl⟩ | ⟨body, item, -, rfl⟩ | ⟨-, -, rfl⟩
  · have sum := moved { a with slots := a.slots.modify w.stream Slot.clear }
      (.handling invocation) rfl
    rw [← cleared body item]
    exact Nat.le_of_eq sum
  · have sum := moved { a with slots := a.slots.modify w.stream Slot.clear }
      (.answering (responsePayload CommandId.zero (.error .error))) rfl
    rw [← cleared body item]
    exact Nat.le_of_eq sum
  · exact Nat.le_of_eq (moved a .stopped rfl)

section
variable [FrameLink L] {a b : Agent L}

/-! ## The receive path -/

theorem received_sendPayload (a : Agent L) (kind : FrameKind) (stream : UInt8)
    (payload : Octets) :
    (a.sendPayload kind stream payload).2.stats.received = a.stats.received := by
  obtain ⟨link, outbound, sent, eq⟩ := a.sendPayload_touches kind stream payload
  rw [eq]

theorem owed_sendPayload (a : Agent L) (kind : FrameKind) (stream : UInt8) (payload : Octets) :
    (a.sendPayload kind stream payload).2.owed = a.owed := by
  obtain ⟨link, outbound, sent, eq⟩ := a.sendPayload_touches kind stream payload
  rw [eq]
  rfl

theorem received_reportGap (a : Agent L) (stream : StreamId) (seq : SeqNum) :
    (a.reportGap stream seq).stats.received = a.stats.received := by
  obtain ⟨link, outbound, sent, eq⟩ := a.reportGap_eq stream seq
  rw [eq]

theorem received_accept (a : Agent L) (header : Header) (stream : StreamId) (payload : Octets) :
    (a.accept header stream payload).stats.received = a.stats.received := by
  have told : ∀ b : Agent L, b.stats.received = a.stats.received →
      ((b.reportGap stream header.seq).remember header.seq).stats.received = a.stats.received :=
    fun b same => (b.received_reportGap stream header.seq).trans same
  unfold accept
  simp only
  split
  · obtain ⟨link, outbound, sent, log, eq, -⟩ := (a.reportGap stream header.seq).restart_eq
    rw [eq]
    exact a.received_reportGap stream header.seq
  · obtain ⟨link, outbound, sent, eq⟩ := a.answerSync_eq stream payload
    rw [eq]
    rfl
  · split
    · rfl
    · split
      · split
        · rfl
        · exact told _ (a.received_sendPayload _ _ _)
      · exact told a rfl
      · exact told _ (a.received_sendPayload _ _ _)

theorem received_receive (a : Agent L) (octets : Octets) :
    (a.receive (some octets)).stats.received = a.stats.received + 1 := by
  simp only [receive]
  split
  · rfl
  · exact received_sendPayload ..
  · exact received_sendPayload ..
  · exact received_accept ..

/-- A buffer that is received stands for two frames. -/
theorem owed_receive (free : a.receiving = none) (buffer : Option Octets) :
    (a.reaction buffer).length + (a.receive buffer).owed + 2 * a.stats.received ≤
      a.owed + 2 * (a.receive buffer).stats.received := by
  cases buffer with
  | none => exact Nat.le_of_eq (by rw [reaction, List.length_nil, Nat.zero_add]; rfl)
  | some octets =>
    have aside := a.receive_aside octets
    have once := a.received_receive octets
    have few := a.length_reaction_le octets
    rw [owed, owed, aside.slots, aside.workers, free, once]
    cases held : (a.receive (some octets)).receiving with
    | none =>
      simp only [Option.toList_none, List.length_nil]
      omega
    | some command =>
      simp only [reaction_of_held free held, Option.toList_none, Option.toList_some,
        List.length_nil, List.length_singleton]
      omega

/-- What passing a command on sends was owed. -/
theorem owed_deliver {command : PendingCommand} (held : a.receiving = some command)
    (h : a.deliver = some b) : (a.handover command).length + b.owed ≤ a.owed ∧
      b.stats.received = a.stats.received := by
  obtain ⟨command', held', B, -⟩ := deliver_cases h
  cases held.symm.trans held'
  have report := length_lossReport_le a.inbound command.stream command.seq
  have heard := a.ear.received_pass
  rcases B with ⟨closed, B⟩ | ⟨closed, empty, B⟩
  · obtain ⟨link, outbound, sent, log, rfl⟩ := B.eq
    refine ⟨?_, heard⟩
    simp only [handover, closed, if_true, owed, held, List.length_append, List.length_singleton,
      Option.toList_some, Option.toList_none, List.length_nil]
    omega
  · obtain ⟨link, outbound, sent, log, rfl⟩ := B.eq
    have sum := a.slots.total_set (·.item.toList.length) command.stream
      { a.slots.get command.stream with item := some command.body }
    refine ⟨?_, heard⟩
    simp only [empty, closed, Option.toList_some, Option.toList_none, List.length_singleton,
      List.length_nil] at sum
    simp only [handover, closed, Bool.false_eq_true, if_false, owed, held, List.nil_append,
      Option.toList_some, Option.toList_none, List.length_singleton, List.length_nil]
    omega

/-- The buffers that are answered with nothing cause nothing later either. -/
theorem mute_receive {buffer : Option Octets} (H : Unanswered a.inbound buffer) :
    Mute a (a.receive buffer) := by
  cases H with
  | null => exact ⟨a.inbound, _, rfl, rfl⟩
  | @short octets h =>
    have short : Incoming.ofOctets octets = .short := by
      rcases octets with _ | ⟨first, _ | ⟨id, _ | ⟨lo, _ | ⟨hi, body⟩⟩⟩⟩
      iterate 4 rfl
      simp only [List.length_cons, Header.size] at h
      omega
    refine ⟨a.inbound, a.stats.countReceived.countDropped, ?_, rfl⟩
    simp only [receive, short]
  | @again octets header stream payload sound last kind =>
    have rep : a.inbound.isRepeat header.seq = true := Inbound.isRepeat_iff.mpr last
    refine ⟨a.inbound.record header.seq, a.stats.countReceived.countRepeat, ?_, rfl⟩
    simp only [receive, sound, accept]
    split
    · next reset => exact absurd reset kind.1
    · next sync => exact absurd sync kind.2
    · simp [rep, remember]
  | @error octets header stream payload sound kind inSequence =>
    have gapless : ¬ a.inbound.isGap header.seq = true := by
      rw [Inbound.isGap_iff]
      rintro ⟨last, seen, apart⟩
      exact apart (inSequence last seen)
    simp only [receive, sound, accept, kind, reportGap, gapless, Bool.false_eq_true, if_false]
    split
    · exact ⟨_, a.stats.countReceived.countRepeat, rfl, rfl⟩
    · exact ⟨_, a.stats.countReceived, rfl, rfl⟩

/-! ## Calls -/

/-- No call makes an agent owe more. -/
theorem Call.owed_step (a : Agent L) (caller : Option WorkerId) (call : Call) :
    (call.step a caller).1.owed ≤ a.owed := by
  let items : Slot Octets → Nat := fun s => s.item.toList.length
  have closes : ∀ s, items s.close ≤ items s := fun s => Nat.zero_le _
  cases call with
  | openStart stream =>
    rcases openStart_step a caller stream with same | started
    · exact Nat.le_of_eq (congrArg Agent.owed same)
    · have reopened := a.slots.total_modify_le
        (f := fun s : Slot Octets => s.item.toList.length) (g := Slot.reopen)
        (fun s => Nat.le_refl _) stream
      rw [(startWorker_eq started).2]
      simp only [owed, total_concat, WorkerPhase.owed]
      omega
  | closeSlot stream worker =>
    have closed := a.slots.total_modify_le closes stream
    exact Nat.add_le_add_right (Nat.add_le_add_right closed _) _
  | shutdownClose =>
    have closed := a.slots.total_map_le closes
    exact Nat.add_le_add_right (Nat.add_le_add_right closed _) _
  | openFind | closeTake | shutdownBegin | join =>
    simp only [step]
    (repeat' split) <;> exact Nat.le_refl _
  | _ => exact Nat.le_refl _

end

/-! ## Deeds -/

/-- The owner asks for a frame to be sent. -/
def Deed.explicit : Deed → Bool
  | .act (.event _ _) | .act .announce => true
  | _ => false

namespace Host

variable [FrameLink L] {h h' : Host L} {deed : Deed} {deeds : List Deed}

/-- What a deed means to send was owed, or a buffer is received for it, or the owner asks for it. -/
theorem owed_drafts (numbered : ∀ (i : Nat) w, h.endpoint.workers[i]? = some w → w.id = i)
    (ha : h.enact deed = some h') (other : ∀ i, deed ≠ .act (.advance i)) :
    (h.drafts deed).length + h'.endpoint.owed + 2 * h.endpoint.stats.received ≤
      h.endpoint.owed + 2 * h'.endpoint.stats.received + if deed.explicit then 1 else 0 := by
  cases enacted ha with
  | event header args =>
    simp only [drafts, Deed.explicit, sendEvent, owed_sendPayload, received_sendPayload,
      List.length_singleton, if_true]
    omega
  | announce =>
    simp only [drafts, Deed.explicit, Agent.announce, owed_sendPayload, received_sendPayload,
      List.length_singleton, if_true]
    omega
  | advance => exact absurd rfl (other _)
  | hear buffer free => exact owed_receive free buffer
  | pass deliver =>
    obtain ⟨command, held, -⟩ := deliver_cases deliver
    obtain ⟨owed, received⟩ := owed_deliver held deliver
    simp only [drafts, held, received, Deed.explicit, Bool.false_eq_true, if_false]
    omega
  | takeUp worker waits take =>
    have lower := owed_takeUp numbered worker waits take
    obtain ⟨slots, workers, log, rfl⟩ := takeUp_eq take
    simp only [drafts, List.length_nil, Deed.explicit, Bool.false_eq_true, if_false]
    omega
  | @handle i id stream invocation result worker =>
    obtain rfl : id = i := numbered i _ worker
    have sum := owed_setPhase numbered worker (.answering (responsePayload invocation.id result))
    simp only [WorkerPhase.owed] at sum
    simp only [drafts, List.length_nil, handled, Deed.explicit, Bool.false_eq_true, if_false]
    have received : (h.endpoint.setPhase id
        (.answering (responsePayload invocation.id result))).stats.received =
      h.endpoint.stats.received := rfl
    omega
  | @answer i id stream payload worker =>
    obtain rfl : id = i := numbered i _ worker
    obtain ⟨link, outbound, sent, eq⟩ :=
      h.endpoint.answer_eq ⟨id, stream, .answering payload⟩ payload
    have sum := owed_setPhase numbered worker .waiting
    simp only [WorkerPhase.owed] at sum
    simp only [drafts, worker, List.length_singleton, eq, Deed.explicit, Bool.false_eq_true,
      if_false]
    simp only [owed, setPhase] at sum ⊢
    omega
  | _ => exact Nat.le_of_eq (by simp [drafts, Deed.explicit, owed])

/-- What has been sent and what is owed grow by two with each buffer that is received, and by one
with each frame that the owner asks for. -/
theorem owed_enact (numbered : ∀ (i : Nat) w, h.endpoint.workers[i]? = some w → w.id = i)
    (ha : h.enact deed = some h') :
    h'.endpoint.stats.sent + h'.endpoint.owed + 2 * h.endpoint.stats.received ≤
      h.endpoint.stats.sent + h.endpoint.owed + 2 * h'.endpoint.stats.received +
        if deed.explicit then 1 else 0 := by
  by_cases calls : ∃ i, deed = .act (.advance i)
  · obtain ⟨i, rfl⟩ := calls
    cases enacted ha with
    | @advance _ t u thread free take =>
      have lower := Call.owed_step h.endpoint t.caller t.call
      obtain ⟨link, running, serving, slots, workers, eq⟩ :=
        Call.step_eq h.endpoint t.caller t.call
      have stats : (t.call.step h.endpoint t.caller).1.stats = h.endpoint.stats := by rw [eq]
      simp only [stats]
      omega
  · have other : ∀ i, deed ≠ .act (.advance i) := fun i e => calls ⟨i, e⟩
    have said := (attempts_enact ha other).sent_le
    have owed := owed_drafts numbered ha other
    omega

theorem owed_enactAll (H : h.Halting) (run : h.enactAll deeds = some h') :
    h'.endpoint.stats.sent + h'.endpoint.owed + 2 * h.endpoint.stats.received ≤
      h.endpoint.stats.sent + h.endpoint.owed + 2 * h'.endpoint.stats.received +
        deeds.countP Deed.explicit := by
  induction deeds generalizing h with
  | nil =>
    cases run
    exact Nat.le_refl _
  | cons deed deeds ih =>
    rw [enactAll, List.foldlM_cons] at run
    obtain ⟨n, step, rest⟩ := Option.bind_eq_some_iff.mp run
    have now := owed_enact H.numbered step
    have later := ih (H.enact step) rest
    rw [List.countP_cons]
    omega

/-- Each buffer that is heard is counted as received, unless there is none. -/
theorem received_heard (ha : h.enact deed = some h') :
    h'.endpoint.stats.received = h.endpoint.stats.received + deed.heard?.toList.length := by
  by_cases hears : ∃ buffer, deed = .hear buffer
  · obtain ⟨buffer, rfl⟩ := hears
    cases enacted ha with
    | hear buffer free =>
      cases buffer with
      | none => rfl
      | some octets => exact h.endpoint.received_receive octets
  · have deaf : ∀ buffer, deed ≠ .hear buffer := fun buffer e => hears ⟨buffer, e⟩
    have unheard : deed.heard? = none := by
      cases deed with
      | hear buffer => exact absurd rfl (deaf buffer)
      | _ => rfl
    rw [received_enact ha deaf, unheard]
    rfl

theorem counts_enactAll (quiet : FrameLink.StopsQuietly L) (run : h.enactAll deeds = some h') :
    (FrameLink.taken h'.endpoint.link).length + h.endpoint.stats.sent =
        (FrameLink.taken h.endpoint.link).length + h'.endpoint.stats.sent ∧
      h'.endpoint.stats.received =
        h.endpoint.stats.received + (deeds.filterMap Deed.heard?).length := by
  induction deeds generalizing h with
  | nil =>
    cases run
    exact ⟨rfl, rfl⟩
  | cons deed deeds ih =>
    rw [enactAll, List.foldlM_cons] at run
    obtain ⟨n, step, rest⟩ := Option.bind_eq_some_iff.mp run
    obtain ⟨sent, received⟩ := ih rest
    have sent' := taken_enact quiet step
    have received' := received_heard step
    rw [filterMap_cons_toList, List.length_append]
    omega

/-- An agent in a run from its start has sent two frames at most for each buffer that it has
received, beside those that its owner has asked for. -/
theorem sent_bounded (quiet : FrameLink.StopsQuietly L) {link : L} {config : AgentConfig}
    (run : (ofAgent (Agent.start link config).2).enactAll deeds = some h) :
    (FrameLink.taken h.endpoint.link).length =
        (FrameLink.taken link).length + h.endpoint.stats.sent ∧
      h.endpoint.stats.received = (deeds.filterMap Deed.heard?).length ∧
      h.endpoint.stats.sent + h.endpoint.owed ≤ 2 * h.endpoint.stats.received +
        ((if config.announce then 1 else 0) + deeds.countP Deed.explicit) := by
  have prepared : Prepared link config (Agent.start link config).2 := .start
  have H := (custody_of_poised prepared.poised.2).toHalting
  obtain ⟨taken, received⟩ := counts_enactAll quiet run
  have bound := owed_enactAll H run
  obtain ⟨es, took, sent, some_, -⟩ := (attempts_start link config).sends
  obtain ⟨link', outbound, sent', start⟩ := start_eq link config
  have few := some_.length_le
  have drafts : (if config.announce then [announcement] else []).length =
      if config.announce then 1 else 0 := by split <;> rfl
  have first := congrArg List.length took
  have nothing : (fresh link config).stats.sent = 0 ∧
      (Agent.start link config).2.stats.received = 0 ∧ (Agent.start link config).2.owed = 0 := by
    refine ⟨rfl, by rw [start]; rfl, ?_⟩
    have slots : (StreamTable.fill (Slot.empty : Slot Octets)).total (·.item.toList.length) = 0 :=
      StreamTable.total_fill rfl
    rw [start]
    simp only [owed, fresh, slots]
    rfl
  rw [List.length_append, List.length_map] at first
  rw [List.length_map] at few
  simp only [ofAgent] at taken received bound
  have before : FrameLink.taken (fresh link config).link = FrameLink.taken link := rfl
  rw [before] at first
  refine ⟨?_, ?_, ?_⟩ <;> omega

end Host
end Agent
end CommandLink
