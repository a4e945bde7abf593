import CommandLink.Proofs.Agent.Arrivals
import CommandLink.Proofs.Agent.Service

/-! # Streams to which a worker attends

The owner of an agent may open and close streams while commands come in. A stream that is open all
the while keeps its slot and its worker (`Agent.Host.attends_act`), and no other worker takes
commands from that slot. There are two ways to lose this, and both begin before: a worker of an
earlier opening of the stream may still be at work when the stream is opened again, and a call that
closes the stream may have taken the worker of that earlier opening and have still to close the
slot. -/

namespace CommandLink
namespace Agent

section
variable {L : Type} {a : Agent L} {stream : StreamId} {i j : WorkerId}

/-- A worker of a stream that has not stopped. -/
def OnDuty (a : Agent L) (stream : StreamId) (i : WorkerId) : Prop :=
  ∃ w, a.workers[i]? = some w ∧ w.stream = stream ∧ w.phase ≠ .stopped

/-- A stream on which commands come in, or wait. -/
inductive InUse (a : Agent L) (stream : StreamId) : Prop
  | opened (h : a.isOpen stream = true)
  | stored (h : (a.slots.get stream).item ≠ none)
  | held (command : PendingCommand) (h : a.receiving = some command) (hs : command.stream = stream)

/-- What the workers do, as far as it concerns whom they serve. -/
structure Crew (a : Agent L) : Prop where
  numbered : ∀ (i : Nat) w, a.workers[i]? = some w → w.id = i
  addressed : ∀ w ∈ a.workers, ∀ invocation ∈ w.phase.inHand, invocation.stream = w.stream
  /-- A slot that takes commands is not left alone with them. -/
  manned : ∀ stream, (a.slots.get stream).closed = false → a.InUse stream → ∃ i, a.OnDuty stream i

/-- One worker alone empties the slot of a stream, and the slot takes commands. -/
structure Attended (a : Agent L) (stream : StreamId) (i : WorkerId) : Prop extends Crew a where
  serving : a.serving.get stream = some i
  roomy : (a.slots.get stream).closed = false
  alone : ∀ j, a.OnDuty stream j ↔ j = i

/-- What is done and what waits on a stream is the same. -/
def SameOn (a b : Agent L) (stream : StreamId) : Prop :=
  b.phaseOn stream = a.phaseOn stream ∧ b.waitingOn stream = a.waitingOn stream

theorem onDuty_setPhase (H : ∀ (i : Nat) w, a.workers[i]? = some w → w.id = i)
    {w : Worker} (hw : a.workers[i]? = some w) (active : w.phase ≠ .stopped)
    {phase : WorkerPhase} :
    (a.setPhase i phase).OnDuty stream j ↔ a.OnDuty stream j ∧ (phase = .stopped → j ≠ i) := by
  simp only [OnDuty, getElem?_setPhase H, Option.map_eq_some_iff]
  constructor
  · rintro ⟨v, ⟨u, hu, rfl⟩, hs, hp⟩
    by_cases e : j = i
    · subst e
      rw [hw, Option.some.injEq] at hu
      subst hu
      rw [if_pos rfl] at hs hp
      exact ⟨⟨w, hw, hs, active⟩, fun stops => absurd stops hp⟩
    · rw [if_neg e] at hs hp
      exact ⟨⟨u, hu, hs, hp⟩, fun _ => e⟩
  · rintro ⟨⟨v, hv, hs, hp⟩, stays⟩
    refine ⟨_, ⟨v, hv, rfl⟩, ?_⟩
    split
    · next e => exact ⟨hs, fun stops => stays stops e⟩
    · exact ⟨hs, hp⟩

/-- An active worker of a stream that is attended is the one that attends to it. -/
theorem Attended.eq (A : a.Attended stream i) {w : Worker} (hw : a.workers[j]? = some w)
    (active : w.phase ≠ .stopped) (hs : w.stream = stream) : j = i :=
  (A.alone j).mp ⟨w, hw, hs, active⟩

theorem Attended.isOpen (A : a.Attended stream i) : a.isOpen stream = true :=
  isOpen_of_serving A.serving

/-- What the worker of the stream does is what is done on the stream. -/
theorem Attended.phaseOn (A : a.Attended stream i) {w : Worker} (hw : a.workers[i]? = some w) :
    a.phaseOn stream = some w.phase := by
  simp [Agent.phaseOn, A.serving, hw]

/-- What is done on the stream once a worker, of this or another stream, has gone on. -/
theorem Attended.phaseOn_setPhase (A : a.Attended stream i) {w : Worker}
    (hw : a.workers[j]? = some w) (active : w.phase ≠ .stopped) (phase : WorkerPhase) :
    (a.setPhase j phase).phaseOn stream =
      if w.stream = stream then some phase else a.phaseOn stream := by
  obtain ⟨v, hv, hs, -⟩ := (A.alone i).mpr rfl
  have serving : (a.setPhase j phase).serving.get stream = some i := A.serving
  rw [Agent.phaseOn, serving, Option.bind_some, getElem?_setPhase A.numbered, hv]
  by_cases here : w.stream = stream
  · simp [A.eq hw active here, here]
  · have ne : i ≠ j := by
      rintro rfl
      rw [hv, Option.some.injEq] at hw
      subst hw
      exact here hs
    simp [Agent.phaseOn, A.serving, hv, ne, here]

theorem Attended.worker (A : a.Attended stream i) :
    ∃ w, a.workers[i]? = some w ∧ w.stream = stream ∧ w.phase ≠ .stopped := (A.alone i).mpr rfl

/-! ## Workers -/

theorem Crew.setPhase (C : Crew a) {w : Worker} (hw : a.workers[i]? = some w)
    (active : w.phase ≠ .stopped) {phase : WorkerPhase}
    (addressed : ∀ invocation ∈ phase.inHand, invocation.stream = w.stream)
    (stays : phase = .stopped → (a.slots.get w.stream).closed = true) :
    Crew (a.setPhase i phase) := by
  refine ⟨numbered_setPhase C.numbered i phase, fun u hu => ?_, fun s open_ used => ?_⟩
  · obtain ⟨j, hj⟩ := List.getElem?_of_mem hu
    rw [getElem?_setPhase C.numbered, Option.map_eq_some_iff] at hj
    obtain ⟨v, hv, rfl⟩ := hj
    split
    · next e =>
      rw [e, hw, Option.some.injEq] at hv
      rw [← hv]
      exact addressed
    · exact C.addressed v (List.mem_of_getElem? hv)
  · have used' : a.InUse s := by
      cases used with
      | opened h => exact .opened h
      | stored h => exact .stored h
      | held command h hs => exact .held command h hs
    obtain ⟨j, duty⟩ := C.manned s open_ used'
    refine ⟨j, (onDuty_setPhase C.numbered hw active).mpr ⟨duty, ?_⟩⟩
    rintro stops rfl
    obtain ⟨v, hv, hs, -⟩ := duty
    rw [hw, Option.some.injEq] at hv
    rw [hv, hs] at stays
    have shut := stays stops
    rw [show (a.slots.get s).closed = false from open_] at shut
    cases shut

theorem Attended.setPhase (A : a.Attended stream i) {w : Worker} (hw : a.workers[j]? = some w)
    (active : w.phase ≠ .stopped) {phase : WorkerPhase}
    (addressed : ∀ invocation ∈ phase.inHand, invocation.stream = w.stream)
    (stays : phase = .stopped → (a.slots.get w.stream).closed = true) :
    (a.setPhase j phase).Attended stream i := by
  refine ⟨A.toCrew.setPhase hw active addressed stays, A.serving, A.roomy, fun k => ?_⟩
  rw [onDuty_setPhase A.numbered hw active, A.alone k, and_iff_left_iff_imp]
  rintro rfl stops rfl
  obtain ⟨v, hv, hs, -⟩ := A.worker
  rw [hw, Option.some.injEq] at hv
  have shut := stays stops
  rw [hv, hs, A.roomy] at shut
  cases shut

/-- The workers do not depend on anything but slots, serving and `receiving`. -/
theorem Attended.same {b : Agent L} (A : a.Attended stream i) (slots : b.slots = a.slots)
    (serving : b.serving = a.serving) (workers : b.workers = a.workers)
    (receiving : ∀ command, b.receiving = some command →
      a.receiving = some command ∨ a.isOpen command.stream = true) : b.Attended stream i := by
  have duty : ∀ s j, b.OnDuty s j ↔ a.OnDuty s j := fun s j => by rw [OnDuty, workers]; rfl
  refine ⟨⟨?_, ?_, fun s open_ used => ?_⟩, ?_, ?_, fun j => ?_⟩
  · rw [workers]
    exact A.numbered
  · rw [workers]
    exact A.addressed
  · rw [slots] at open_
    simp only [duty]
    refine A.manned s open_ ?_
    cases used with
    | opened h => exact .opened (by rwa [isOpen_congr serving] at h)
    | stored h => exact .stored (by rwa [slots] at h)
    | held command h hs =>
      rcases receiving command h with before | opened
      · exact .held command before hs
      · exact .opened (hs ▸ opened)
  · rw [serving]
    exact A.serving
  · rw [slots]
    exact A.roomy
  · rw [duty]
    exact A.alone j

/-- Of slots only the items matter here, and of those only which slots have one. -/
theorem Attended.withSlots (A : a.Attended stream i) (slots : StreamTable (Slot Octets))
    (receiving : Option PendingCommand)
    (closed : ∀ s, (slots.get s).closed = (a.slots.get s).closed)
    (used : ∀ s, (slots.get s).item ≠ none → a.InUse s)
    (held : ∀ command, receiving = some command → a.receiving = some command) :
    Attended { a with slots := slots, receiving := receiving } stream i := by
  refine ⟨⟨A.numbered, A.addressed, fun s open_ inUse => ?_⟩, A.serving, ?_, A.alone⟩
  · refine A.manned s ((closed s).symm.trans open_) ?_
    cases inUse with
    | opened h => exact .opened h
    | stored h => exact used s h
    | held command h hs => exact .held command (held command h) hs
  · exact (closed stream).trans A.roomy

theorem Attended.takeUp (A : a.Attended stream i) {b : Agent L} {w : Worker}
    (hw : a.workers[j]? = some w) (waits : w.phase = .waiting) (h : a.takeUp w = some b) :
    b.Attended stream i := by
  have active : w.phase ≠ .stopped := by simp [waits]
  have cleared : Attended { a with slots := a.slots.modify w.stream Slot.clear } stream i := by
    refine A.withSlots _ a.receiving (closed_modify_clear _ _) (fun s hs => .stored ?_) fun _ => id
    simp only [StreamTable.modify, StreamTable.get_set] at hs
    split at hs
    · exact absurd rfl hs
    · exact hs
  have id_eq := A.numbered j w hw
  rcases takeUp_ways h with ⟨body, invocation, -, hi, rfl⟩ | ⟨body, -, -, rfl⟩ | ⟨-, shut, rfl⟩
  · rw [id_eq]
    have addressed : ∀ x ∈ (WorkerPhase.handling invocation).inHand, x.stream = w.stream := by
      intro x hx
      rw [List.mem_singleton.mp hx, stream_of_invocationOf hi]
    exact (cleared.setPhase hw active addressed (by simp)).same rfl rfl rfl fun _ => .inl
  · rw [id_eq]
    exact cleared.setPhase hw active (fun _ hx => absurd hx List.not_mem_nil) (by simp)
  · rw [id_eq]
    exact A.setPhase hw active (fun _ hx => absurd hx List.not_mem_nil) fun _ => shut

/-- A worker that takes up a command, or stops, does so on its own stream. -/
theorem Attended.takeUp_elsewhere (A : a.Attended stream i) {b : Agent L} {w : Worker}
    (hw : a.workers[j]? = some w) (waits : w.phase = .waiting) (h : a.takeUp w = some b)
    (other : w.stream ≠ stream) :
    SameOn a b stream ∧ b.invocationsOn stream = a.invocationsOn stream := by
  have phase : ∀ phase, (a.setPhase w.id phase).phaseOn stream = a.phaseOn stream := by
    intro phase
    rw [A.numbered j w hw, A.phaseOn_setPhase hw (by simp [waits]), if_neg other]
  have waiting : waitingOn { a with slots := a.slots.modify w.stream Slot.clear } stream =
      a.waitingOn stream := by
    rw [waitingOn, StreamTable.get_modify_of_ne _ other]
    rfl
  rcases takeUp_ways h with ⟨body, invocation, -, hi, rfl⟩ | ⟨body, -, -, rfl⟩ | ⟨-, -, rfl⟩
  · refine ⟨⟨phase _, waiting⟩, ?_⟩
    rw [invocationsOn_record, if_neg (stream_of_invocationOf hi ▸ other), List.append_nil]
    rfl
  · exact ⟨⟨phase _, waiting⟩, rfl⟩
  · exact ⟨⟨phase _, rfl⟩, rfl⟩

/-- The worker of the stream takes up the command that has waited longest. -/
theorem Attended.takeUp_here (A : a.Attended stream i) {b : Agent L} {w : Worker}
    (hw : a.workers[j]? = some w) (waits : w.phase = .waiting) (h : a.takeUp w = some b)
    (here : w.stream = stream) :
    ∃ body, a.waitingOn stream = body :: b.waitingOn stream ∧
      ((∃ invocation, invocationOf stream body = some invocation ∧
        b.phaseOn stream = some (.handling invocation) ∧
        b.invocationsOn stream = a.invocationsOn stream ++ [invocation]) ∨
      (invocationOf stream body = none ∧
        b.phaseOn stream =
          some (.answering (responsePayload CommandId.zero (.error .error))) ∧
        b.invocationsOn stream = a.invocationsOn stream)) := by
  subst here
  have phase : ∀ phase, (a.setPhase w.id phase).phaseOn w.stream = some phase := by
    intro phase
    rw [A.numbered j w hw, A.phaseOn_setPhase hw (by simp [waits]), if_pos rfl]
  have waiting : ∀ {body}, (a.slots.get w.stream).item = some body → a.waitingOn w.stream =
      body :: waitingOn { a with slots := a.slots.modify w.stream Slot.clear } w.stream := by
    intro body hb
    simp [waitingOn, hb, StreamTable.modify, Slot.clear]
  rcases takeUp_ways h with ⟨body, invocation, hb, hi, rfl⟩ | ⟨body, hb, hi, rfl⟩ | ⟨-, shut, -⟩
  · refine ⟨body, waiting hb, .inl ⟨invocation, hi, phase _, ?_⟩⟩
    rw [invocationsOn_record, if_pos (stream_of_invocationOf hi)]
    rfl
  · exact ⟨body, waiting hb, .inr ⟨hi, phase _, rfl⟩⟩
  · rw [A.roomy] at shut
    cases shut

theorem Attended.answered [FrameLink L] (A : a.Attended stream i) {w : Worker} {payload : Octets}
    (hw : a.workers[j]? = some w) (busy : w.phase = .answering payload) :
    (a.answer w payload).Attended stream i := by
  obtain ⟨link, outbound, sent, eq⟩ := a.answer_eq w payload
  rw [eq, A.numbered j w hw]
  have waits : (a.setPhase j .waiting).Attended stream i :=
    A.setPhase hw (by simp [busy]) (fun _ hx => absurd hx List.not_mem_nil) (by simp)
  exact waits.same rfl rfl rfl fun _ => .inl

/-! ## Opening and closing streams -/

theorem Attended.startWorker (A : a.Attended stream i) {b : Agent L} {s : StreamId}
    (h : a.startWorker s = .ok b) : b.Attended stream i := by
  unfold Agent.startWorker at h
  split at h
  · cases h
  · next shut =>
    have other : s ≠ stream := by
      rintro rfl
      exact shut A.isOpen
    simp only [Except.ok.injEq] at h
    subst h
    have duty : ∀ {s' j}, a.OnDuty s' j → OnDuty { a with
        slots := a.slots.modify s Slot.reopen
        serving := a.serving.set s (some a.workers.length)
        workers := a.workers ++ [⟨a.workers.length, s, .waiting⟩] } s' j := by
      rintro s' j ⟨w, hw, hs, hp⟩
      exact ⟨w, getElem?_append_of_some hw _, hs, hp⟩
    refine ⟨⟨?_, ?_, fun s' open_ used => ?_⟩, ?_, ?_, fun j => ?_⟩
    · intro j w hw
      rcases getElem?_concat_cases hw with hw | ⟨rfl, rfl⟩
      · exact A.numbered j w hw
      · rfl
    · intro w hw
      rcases mem_or_eq_of_mem_concat hw with hw | rfl
      · exact A.addressed w hw
      · exact fun _ hx => absurd hx List.not_mem_nil
    · by_cases e : s = s'
      · subst e
        exact ⟨a.workers.length, ⟨a.workers.length, s, .waiting⟩, by simp, rfl, nofun⟩
      · have same := a.slots.get_modify_of_ne e Slot.reopen
        rw [same] at open_
        obtain ⟨j, hj⟩ := A.manned s' open_ <| by
          cases used with
          | opened h =>
            refine .opened ?_
            rw [Agent.isOpen, StreamTable.get_set_of_ne _ e] at h
            exact h
          | stored h => exact .stored (by rwa [same] at h)
          | held command h hs => exact .held command h hs
        exact ⟨j, duty hj⟩
    · exact (StreamTable.get_set_of_ne _ other _).trans A.serving
    · exact (congrArg Slot.closed (StreamTable.get_modify_of_ne _ other _)).trans A.roomy
    · constructor
      · rintro ⟨w, hw, hs, hp⟩
        rcases getElem?_concat_cases hw with hw | ⟨-, rfl⟩
        · exact A.eq hw hp hs
        · exact absurd hs other
      · rintro rfl
        exact duty A.worker

theorem Attended.closeTake (A : a.Attended stream i) {s : StreamId} (other : s ≠ stream) :
    Attended { a with serving := a.serving.set s none } stream i := by
  refine ⟨⟨A.numbered, A.addressed, fun s' open_ used => A.manned s' open_ ?_⟩, ?_, A.roomy,
    A.alone⟩
  · cases used with
    | opened h =>
      refine .opened ?_
      simp only [Agent.isOpen, StreamTable.get_set] at h
      split at h
      · cases h
      · exact h
    | stored h => exact .stored h
    | held command h hs => exact .held command h hs
  · exact (StreamTable.get_set_of_ne _ other _).trans A.serving

theorem Attended.closeSlot (A : a.Attended stream i) {s : StreamId} (other : s ≠ stream) :
    Attended { a with slots := a.slots.modify s Slot.close } stream i := by
  refine ⟨⟨A.numbered, A.addressed, fun s' open_ used => ?_⟩, A.serving, ?_, A.alone⟩
  · by_cases e : s = s'
    · subst e
      simp [StreamTable.modify, Slot.close] at open_
    · have same := a.slots.get_modify_of_ne e Slot.close
      rw [same] at open_
      refine A.manned s' open_ ?_
      cases used with
      | opened h => exact .opened h
      | stored h => exact .stored (by rwa [same] at h)
      | held command h hs => exact .held command h hs
  · exact (congrArg Slot.closed (StreamTable.get_modify_of_ne _ other _)).trans A.roomy

theorem Attended.sameOn_startWorker (A : a.Attended stream i) {b : Agent L} {s : StreamId}
    (h : a.startWorker s = .ok b) : SameOn a b stream := by
  unfold Agent.startWorker at h
  split at h
  · cases h
  · next shut =>
    have other : s ≠ stream := by
      rintro rfl
      exact shut A.isOpen
    simp only [Except.ok.injEq] at h
    subst h
    obtain ⟨w, hw, -⟩ := A.worker
    constructor
    · simp only [Agent.phaseOn, StreamTable.get_set_of_ne _ other, A.serving, Option.bind_some, hw,
        getElem?_append_of_some hw]
    · rw [waitingOn, StreamTable.get_modify_of_ne _ other]
      rfl

theorem sameOn_closeTake {s : StreamId} (other : s ≠ stream) :
    SameOn a { a with serving := a.serving.set s none } stream := by
  refine ⟨?_, rfl⟩
  simp only [Agent.phaseOn, StreamTable.get_set_of_ne _ other]

theorem sameOn_closeSlot {s : StreamId} (other : s ≠ stream) :
    SameOn a { a with slots := a.slots.modify s Slot.close } stream := by
  refine ⟨rfl, ?_⟩
  rw [waitingOn, StreamTable.get_modify_of_ne _ other]
  rfl

/-- A call goes on, and does not close the stream. -/
theorem Attended.call [Datalink L] (A : a.Attended stream i) {call : Call} (mild : call.Mild)
    (other : ∀ j, call ≠ .closeSlot stream j) (caller : Option WorkerId)
    (opened : (call.step a caller).1.isOpen stream = true) :
    (call.step a caller).1.Attended stream i ∧ SameOn a (call.step a caller).1 stream ∧
      ∀ next, (call.step a caller).2 = .next next → ∀ j, next ≠ .closeSlot stream j := by
  have same : SameOn a a stream := ⟨rfl, rfl⟩
  cases call with
  | openFind =>
    simp only [Call.step]
    split
    · exact ⟨A, same, by simp⟩
    · exact ⟨A, same, by simp⟩
  | openStart s =>
    simp only [Call.step]
    split
    · next b h => exact ⟨A.startWorker h, A.sameOn_startWorker h, by simp⟩
    · exact ⟨A, same, by simp⟩
  | closeTake s =>
    simp only [Call.step] at opened ⊢
    split
    · exact ⟨A, same, by simp⟩
    · next notControl =>
      rw [if_neg notControl] at opened
      split
      · next worker hs =>
        rw [hs] at opened
        have other : s ≠ stream := by
          rintro rfl
          simp [Agent.isOpen] at opened
        refine ⟨A.closeTake other, sameOn_closeTake other, fun next h j => ?_⟩
        cases h
        simp [other]
      · exact ⟨A, same, by simp⟩
  | closeSlot s worker =>
    have ne : s ≠ stream := fun e => other worker (by rw [e])
    exact ⟨A.closeSlot ne, sameOn_closeSlot ne, by simp [Call.step]⟩
  | shutdownBegin => exact mild.elim
  | shutdownClose => exact mild.elim
  | shutdownTake => exact mild.elim
  | join workers after =>
    cases after with
    | stopLink => exact mild.elim
    | finish =>
      simp only [Call.step]
      split
      · exact ⟨A, same, by simp⟩
      · exact ⟨A, same, by simp⟩

end

/-! ## The receive path -/

variable {L : Type} [FrameLink L] {a b : Agent L} {stream : StreamId} {i : WorkerId}

theorem Attended.receive (A : a.Attended stream i) (free : a.receiving = none) (octets : Octets) :
    (a.receive (some octets)).Attended stream i := by
  have H := a.receive_aside octets
  refine A.same H.slots H.serving H.workers fun command hc => .inr ?_
  have held := (receive_memory free octets).2
  rw [hc] at held
  exact (Option.filter_eq_some_iff.mp held.symm).2

theorem Attended.deliver (A : a.Attended stream i) (h : a.deliver = some b) :
    b.Attended stream i := by
  obtain ⟨command, hr, ⟨-, B⟩ | ⟨-, -, B⟩, -⟩ := deliver_cases h
  · obtain ⟨link, outbound, sent, log, eq⟩ := B.eq
    rw [eq]
    exact A.same rfl rfl rfl nofun
  · obtain ⟨link, outbound, sent, log, eq⟩ := B.eq
    have stored := A.withSlots (a.slots.set command.stream
      { a.slots.get command.stream with item := some command.body }) none (fun s => by
        rw [StreamTable.get_set]
        split
        · next e => rw [e]
        · rfl) (fun s hs => by
        rw [StreamTable.get_set] at hs
        split at hs
        · next e => exact .held command hr e
        · exact .stored hs) nofun
    rw [eq]
    exact stored.same rfl rfl rfl nofun

namespace Host

/-- A running agent that attends to a stream, while nobody shuts it down or closes that stream. -/
structure Attends (h : Host L) (stream : StreamId) (i : WorkerId) : Prop
    extends h.endpoint.Attended stream i where
  running : h.endpoint.running = true
  ready : FrameLink.Ready h.endpoint.link
  mild : h.Mild
  uncalled : ∀ t ∈ h.threads, t.result = none → ∀ j, t.call ≠ .closeSlot stream j

variable {h h' : Host L} {incoming : List Octets} {action : Action}

/-- What is sent of its own accord, beside responses, changes nothing of this. -/
theorem Attends.announced (A : h.Attends stream i) {kind : FrameKind} (hk : kind ≠ .response)
    (s : StreamId) (payload : Octets) :
    Attends { h with endpoint := (h.endpoint.sendPayload kind s.toOctet payload).2 } stream i := by
  have H := h.endpoint.sendPayload_aside hk s.toOctet payload
  have receiving := h.endpoint.receiving_sendPayload kind s.toOctet payload
  generalize (h.endpoint.sendPayload kind s.toOctet payload).2 = b at H receiving
  exact ⟨A.toAttended.same H.slots H.serving H.workers fun _ hc => .inl (receiving ▸ hc),
    H.running.trans A.running, H.ready A.ready, A.mild, A.uncalled⟩

/-- As long as a stream stays open it is attended. -/
theorem attends_act (A : h.Attends stream i) (ha : h.act incoming action = some h')
    (opened : h'.endpoint.isOpen stream = true) : h'.Attends stream i := by
  have ⟨attended, running, ready, mild, uncalled⟩ := A
  have mild' := (act_effect mild ha).2
  cases action with
  | event header args =>
    cases ha
    exact A.announced (by decide) StreamId.control (header.encode ++ args)
  | announce =>
    cases ha
    exact A.announced (by decide) StreamId.control []
  | watch resets =>
    cases ha
    exact ⟨attended.same rfl rfl rfl fun _ => .inl, running, ready, mild', uncalled⟩
  | begin errand caller =>
    cases ha
    refine ⟨attended, running, ready, mild', fun t ht hr j => ?_⟩
    rcases mem_or_eq_of_mem_concat ht with ht | rfl
    · exact uncalled t ht hr j
    · cases errand <;> (intro e; cases e)
  | advance k =>
    simp only [act, advance] at ha
    split at ha
    · cases ha
    · next t ht =>
      split at ha
      · cases ha
      · next unfinished =>
        obtain ⟨t', htake, rfl⟩ := Option.map_eq_some_iff.mp ha
        have unfinished : t.result = none := by simpa using unfinished
        have here := List.mem_of_getElem? ht
        obtain ⟨attended', -, onward⟩ := attended.call (mild t here) (uncalled t here unfinished)
          t.caller opened
        obtain ⟨⟨serving, slots, workers, eq⟩, -⟩ := (mild t here).step h.endpoint t.caller
        refine ⟨attended', by rw [eq]; exact running, by rw [eq]; exact ready, mild', ?_⟩
        intro u hu hr j
        rcases List.mem_or_eq_of_mem_set hu with hu | rfl
        · exact uncalled u hu hr j
        · unfold Thread.take at htake
          split at htake
          · cases htake
            cases hr
          · next next hnext =>
            cases htake
            exact onward next hnext j
          · cases htake
  | hear =>
    obtain ⟨octets, -, free, rfl⟩ := act_hear ha
    have H := h.endpoint.receive_aside octets
    exact ⟨attended.receive free octets, H.running.trans running, H.ready ready, mild', uncalled⟩
  | pass =>
    obtain ⟨b, hd, rfl⟩ := Option.map_eq_some_iff.mp ha
    obtain ⟨command, -, B, posts, smooth⟩ := deliver_cases hd
    have running' : b.running = h.endpoint.running := by
      rcases B with ⟨-, B⟩ | ⟨-, -, B⟩ <;>
      · obtain ⟨link, outbound, sent, log, eq⟩ := B.eq
        rw [eq]
    exact ⟨attended.deliver hd, running'.trans running, smooth.ready ready, mild', uncalled⟩
  | takeUp k =>
    obtain ⟨w, b, hw, waits, hb, rfl⟩ := act_takeUp ha
    obtain ⟨slots, workers, log, eq⟩ := takeUp_eq hb
    exact ⟨attended.takeUp hw waits hb, by rw [eq]; exact running, by rw [eq]; exact ready, mild',
      uncalled⟩
  | handle k result =>
    obtain ⟨id, s, invocation, hw, rfl⟩ := act_handle ha
    obtain rfl : id = k := attended.numbered k _ hw
    exact ⟨attended.setPhase hw (by simp) (fun _ hx => absurd hx List.not_mem_nil)
      (by simp), running,
      ready, mild', uncalled⟩
  | answer k =>
    obtain ⟨id, s, payload, hw, rfl⟩ := act_answer ha
    have H := h.endpoint.sendPayload_kept .response s payload
    exact ⟨attended.answered hw rfl, H.running.trans running,
      (sendPayload_of_ready ready .response s.toOctet payload).1, mild', uncalled⟩

/-- A stream that is open when its agent has been set up is attended. -/
theorem attends_of_poised (P : a.Poised none) (running : a.running = true)
    (ready : FrameLink.Ready a.link) (free : a.receiving = none)
    (serving : a.serving.get stream = some i) :
    (ofAgent a).Attends stream i ∧ (ofAgent a).endpoint.phaseOn stream = some .waiting := by
  have opened := isOpen_of_serving serving
  obtain ⟨w, hw, hs, active⟩ := P.served stream i serving
  have waits := (P.idle i w hw).resolve_right active
  refine ⟨⟨⟨⟨P.numbered, fun w hw x hx => ?_, fun s open_ used => ?_⟩, serving,
    P.roomy stream opened, fun j => ?_⟩, running, ready,
    fun _ ht => absurd ht List.not_mem_nil, fun _ ht => absurd ht List.not_mem_nil⟩, ?_⟩
  · obtain ⟨j, hj⟩ := List.getElem?_of_mem hw
    rcases P.idle j w hj with e | e <;> simp [e, WorkerPhase.inHand] at hx
  · cases used with
    | opened h =>
      obtain ⟨j, hj⟩ := isOpen_iff.mp h
      exact ⟨j, P.served s j hj⟩
    | stored h => exact absurd (P.empty s) h
    | held command h _ => cases free.symm.trans h
  · constructor
    · rintro ⟨v, hv, hs, hp⟩
      have serves := (P.serves j v hv hp).resolve_right (Option.some_ne_none _).symm
      rw [hs, serving] at serves
      exact (Option.some.inj serves).symm
    · rintro rfl
      exact ⟨w, hw, hs, active⟩
  · simp only [ofAgent, phaseOn, serving, Option.bind_some, hw, Option.map_some, waits]

end Host
end Agent
end CommandLink
