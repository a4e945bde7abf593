import CommandLink.Proofs.Agent.Progress
import CommandLink.Proofs.Agent.Turns

/-! # An agent from turn to turn

A buffer that arrives at an agent at rest may hold a command for an open stream. It then goes into
the stream's slot, from there to the stream's worker, and through the handler (`Agent.Underway`).
Anything else is dealt with at once. So whatever happens to an agent turn by turn, its table, its
workers and its slots are in step, and the commands that its handlers are given are those that came
when their streams were open (`Agent.Host.streams_in_step`). -/

namespace CommandLink
namespace Agent

/-- The notices among drafts that say that a stream takes no commands. -/
def refusals (ds : List Draft) : List Draft := ds.filter (·.kind = .invalidStream)

section
variable {L : Type} {a b c : Agent L} {command : PendingCommand} {before : List Invocation}
  {stream : StreamId} {i : WorkerId}

/-- The invocation that comes of what happens to an agent at rest: that of a command which is not a
repeat, is long enough for a header, and comes on an open stream. -/
def due (a : Agent L) : Occasion → List Invocation
  | .arrival (some octets) =>
    (((commandIn a.inbound octets).filter fun c => a.isOpen c.1).bind fun c =>
      invocationOf c.1 c.2).toList
  | _ => []

/-- Where the command is, and whether its handler has been invoked after those of `before`. -/
inductive Whereabouts (b : Agent L) (command : PendingCommand) (before : List Invocation) : Prop
  | held (held : b.receiving = some command) (empty : (b.slots.get command.stream).item = none)
      (idle : ∀ (j : Nat) w, b.workers[j]? = some w → w.phase = .waiting ∨ w.phase = .stopped)
      (untold : b.invocations = before)
  | stored (free : b.receiving = none)
      (stored : (b.slots.get command.stream).item = some command.body)
      (idle : ∀ (j : Nat) w, b.workers[j]? = some w → w.phase = .waiting ∨ w.phase = .stopped)
      (untold : b.invocations = before)
  | taken (free : b.receiving = none) (empty : (b.slots.get command.stream).item = none)
      (told : b.invocations = before ++ (invocationOf command.stream command.body).toList)

/-- An agent deals with a command for an open stream, and with nothing else. -/
structure Underway (b : Agent L) (command : PendingCommand) (before : List Invocation) : Prop
    extends Staffed b none where
  opened : b.isOpen command.stream = true
  roomy : ∀ s, b.isOpen s = true → (b.slots.get s).closed = false
  elsewhere : ∀ s, s ≠ command.stream → (b.slots.get s).item = none
  others : ∀ (j : Nat) w, b.workers[j]? = some w → w.stream ≠ command.stream →
    w.phase = .waiting ∨ w.phase = .stopped
  whereabouts : Whereabouts b command before

theorem Underway.orderly (U : b.Underway command before)
    (control : b.isOpen StreamId.control = true) : b.Orderly := by
  refine U.toStaffed.orderly control U.roomy (fun s shut => U.elsewhere s ?_) nofun
  rintro rfl
  exact nomatch shut.symm.trans U.opened

theorem Underway.roomyOf (U : b.Underway command before) {w : Worker}
    (hw : b.workers[i]? = some w) (active : w.phase ≠ .stopped) :
    (b.slots.get w.stream).closed = false :=
  U.roomy _ (isOpen_of_serving ((U.toStaffed.serving_iff hw active w.stream).mpr rfl))

/-- The worker of the stream goes on. -/
theorem Underway.moved (U : b.Underway command before) {w : Worker} (hw : b.workers[i]? = some w)
    (active : w.phase ≠ .stopped) (here : w.stream = command.stream) {phase : WorkerPhase}
    (workers : c.workers = (b.setPhase i phase).workers) (stays : phase ≠ .stopped)
    (serving : c.serving = b.serving)
    (closed : ∀ s, (c.slots.get s).closed = (b.slots.get s).closed)
    (elsewhere : ∀ s, s ≠ command.stream → (c.slots.get s).item = none)
    (whereabouts : Whereabouts c command before) : c.Underway command before := by
  have S := U.toStaffed.setPhase hw active fun stops => absurd stops stays
  refine ⟨S.congr serving workers, ?_, fun s opened => ?_, elsewhere, fun j v hv other => ?_,
    whereabouts⟩
  · rw [isOpen_congr serving]
    exact U.opened
  · rw [isOpen_congr serving] at opened
    rw [closed]
    exact U.roomy s opened
  · rw [workers, getElem?_setPhase U.numbered, Option.map_eq_some_iff] at hv
    obtain ⟨u, hu, rfl⟩ := hv
    by_cases same : j = i
    · subst same
      cases hw.symm.trans hu
      simp [here] at other
    · simp only [if_neg same] at other ⊢
      exact U.others j u hu other

theorem Underway.takeUp (U : b.Underway command before) {w : Worker}
    (hw : b.workers[i]? = some w) (waits : w.phase = .waiting) (h : b.takeUp w = some c) :
    c.Underway command before := by
  have active : w.phase ≠ .stopped := by simp [waits]
  have roomy := U.roomyOf hw active
  have id := U.numbered i w hw
  have cleared := closed_modify_clear b.slots w.stream
  by_cases here : w.stream = command.stream
  · have elsewhere : ∀ s, s ≠ command.stream →
        ((b.slots.modify w.stream Slot.clear).get s).item = none := by
      intro s other
      rw [StreamTable.get_modify_of_ne _ (here ▸ other.symm)]
      exact U.elsewhere s other
    have empty : ((b.slots.modify w.stream Slot.clear).get command.stream).item = none := by
      rw [here, StreamTable.modify, StreamTable.get_set_self]
      rfl
    cases U.whereabouts with
    | held _ vacant _ _ =>
      rw [← here] at vacant
      cases h.symm.trans (takeUp_of_roomy vacant roomy)
    | taken _ vacant _ =>
      rw [← here] at vacant
      cases h.symm.trans (takeUp_of_roomy vacant roomy)
    | stored free stored _ untold =>
      rcases takeUp_ways h with ⟨body, invocation, item, found, rfl⟩ | ⟨body, item, found, rfl⟩ |
        ⟨item, -, -⟩
      · rw [here] at item found
        cases stored.symm.trans item
        rw [id]
        refine U.moved hw active here rfl (by simp) rfl cleared elsewhere (.taken free empty ?_)
        rw [invocations_record, found]
        exact congrArg (· ++ [invocation]) untold
      · rw [here] at item found
        cases stored.symm.trans item
        rw [id]
        refine U.moved hw active here rfl (by simp) rfl cleared elsewhere (.taken free empty ?_)
        rw [found]
        exact untold.trans (List.append_nil _).symm
      · rw [here] at item
        cases item.symm.trans stored
  · cases h.symm.trans (takeUp_of_roomy (U.elsewhere _ here) roomy)

end

section
variable {L : Type} [FrameLink L] {a b c : Agent L} {command : PendingCommand}
  {before : List Invocation} {stream : StreamId}

omit [FrameLink L] in
/-- What the receive path holds is the command, and nobody has anything else to do. -/
theorem Underway.atHand (U : b.Underway command before) {pending : PendingCommand}
    (held : b.receiving = some pending) : pending = command ∧
      (b.slots.get command.stream).item = none ∧
      (∀ (j : Nat) w, b.workers[j]? = some w → w.phase = .waiting ∨ w.phase = .stopped) ∧
      b.invocations = before := by
  cases U.whereabouts with
  | held held' empty idle untold =>
    cases held'.symm.trans held
    exact ⟨rfl, empty, idle, untold⟩
  | stored free => cases free.symm.trans held
  | taken free => cases free.symm.trans held

theorem Underway.deliver (U : b.Underway command before) (h : b.deliver = some c) :
    c.Underway command before := by
  obtain ⟨pending, held, B, -⟩ := deliver_cases h
  obtain ⟨rfl, empty, idle, untold⟩ := U.atHand held
  rcases B with ⟨shut, -⟩ | ⟨-, -, B⟩
  · cases shut.symm.trans (U.roomy _ U.opened)
  · obtain ⟨⟨link, outbound, sent, log, rfl⟩, told⟩ := B
    refine ⟨U.toStaffed.congr rfl rfl, U.opened, fun s opened => ?_, fun s other => ?_, U.others,
      .stored rfl ?_ idle (told.trans untold)⟩
    · simp only [StreamTable.get_set]
      split
      · exact U.roomy _ U.opened
      · exact U.roomy s opened
    · simp only [StreamTable.get_set_of_ne _ other.symm]
      exact U.elsewhere s other
    · rw [StreamTable.get_set_self]

omit [FrameLink L] in
/-- A worker at work has the command in its hands. -/
theorem Underway.atWork (U : b.Underway command before) {i : Nat} {w : Worker}
    (hw : b.workers[i]? = some w) (busy : w.phase ≠ .waiting) (active : w.phase ≠ .stopped) :
    w.stream = command.stream ∧ b.receiving = none ∧
      (b.slots.get command.stream).item = none ∧
      b.invocations = before ++ (invocationOf command.stream command.body).toList := by
  have lazy_ : ¬ (w.phase = .waiting ∨ w.phase = .stopped) := not_or.mpr ⟨busy, active⟩
  refine ⟨Decidable.byContradiction fun other => lazy_ (U.others i w hw other), ?_⟩
  cases U.whereabouts with
  | held _ _ idle _ => exact absurd (idle i w hw) lazy_
  | stored _ _ idle _ => exact absurd (idle i w hw) lazy_
  | taken free empty told => exact ⟨free, empty, told⟩

omit [FrameLink L] in
/-- The worker of the stream goes on and sends a frame, or none. -/
theorem Underway.worked (U : b.Underway command before) {i : Nat} {w : Worker}
    (hw : b.workers[i]? = some w) (busy : w.phase ≠ .waiting) (active : w.phase ≠ .stopped)
    {phase : WorkerPhase}
    (eq : ∃ link outbound stats, c = { b with
      link := link, outbound := outbound, stats := stats
      workers := (b.setPhase i phase).workers })
    (stays : phase ≠ .stopped) : c.Underway command before := by
  obtain ⟨here, free, empty, told⟩ := U.atWork hw busy active
  obtain ⟨link, outbound, stats, rfl⟩ := eq
  exact U.moved hw active here rfl stays rfl (fun _ => rfl) U.elsewhere (.taken free empty told)

/-- A slot that is open and empty takes the command. -/
theorem stored_of_room (held : a.receiving = some command)
    (roomy : (a.slots.get command.stream).closed = false)
    (empty : (a.slots.get command.stream).item = none) :
    ∃ b, a.deliver = some b ∧ (b.slots.get command.stream).item = some command.body := by
  obtain ⟨b, delivers⟩ := Host.deliver_of_room held empty
  refine ⟨b, delivers, ?_⟩
  obtain ⟨pending, receiving, B, -⟩ := deliver_cases delivers
  cases held.symm.trans receiving
  rcases B with ⟨shut, -⟩ | ⟨-, -, B⟩
  · exact nomatch shut.symm.trans roomy
  · obtain ⟨link, outbound, sent, log, rfl⟩ := B.eq
    rw [StreamTable.get_set_self]

omit [FrameLink L] in
/-- A worker takes up the command that waits, and answers it at once or has it handled. -/
theorem begun_of_item (numbered : ∀ (i : Nat) w, a.workers[i]? = some w → w.id = i) {i : Nat}
    {w : Worker} (hw : a.workers[i]? = some w) {body : Octets}
    (item : (a.slots.get w.stream).item = some body) : ∃ c, a.takeUp w = some c ∧
      ((∃ invocation, c.workers[i]? = some { w with phase := .handling invocation }) ∨
        ∃ payload, c.workers[i]? = some { w with phase := .answering payload }) := by
  cases numbered i w hw
  have moved := getElem?_setPhase_self numbered hw
  obtain ⟨c, takes⟩ := Host.takeUp_of_item item
  refine ⟨c, takes, ?_⟩
  rcases takeUp_ways takes with ⟨_, invocation, -, -, rfl⟩ | ⟨_, -, -, rfl⟩ | ⟨empty, -, -⟩
  · exact .inl ⟨invocation, moved _⟩
  · exact .inr ⟨_, moved _⟩
  · exact nomatch empty.symm.trans item

/-- Of the frames that say that a stream takes no commands, the agent sends from `a` to `b` these
and no others, as far as its link takes them. -/
def Refuses (a b : Agent L) (notices : List Draft) : Prop :=
  ∃ es : List Emission, FrameLink.taken b.link = FrameLink.taken a.link ++ es.map Emission.octets ∧
    (refusals (es.map Emission.draft)).Sublist notices ∧
    (FrameLink.Ready a.link → refusals (es.map Emission.draft) = notices)

theorem Attempts.refuses {ds notices : List Draft} (H : Attempts a b ds)
    (running : a.running = true) (eq : refusals ds = notices)
    (fits : ∀ d ∈ notices, d.fits = true) : Refuses a b notices := by
  obtain ⟨es, taken, some_, all⟩ := H.chosen (·.kind = .invalidStream) fun d hd =>
    fits d (eq ▸ hd)
  exact ⟨es, taken, eq ▸ some_, fun ready => (all running ready).trans eq⟩

omit [FrameLink L] in
theorem refusals_lossReport (r : Inbound) (stream : StreamId) (seq : SeqNum) :
    refusals (lossReport r stream seq) = [] := by
  unfold lossReport
  split <;> rfl

namespace Host

variable {h m m' h' : Host L} {o : Occasion} {deed : Deed} {buffer : Option Octets}

/-- An agent at rest in `h` deals with a command that has arrived. -/
structure Handles (h : Host L) (command : PendingCommand) (m : Host L) : Prop where
  underway : m.endpoint.Underway command h.endpoint.invocations
  serving : m.endpoint.serving = h.endpoint.serving
  threads : m.threads = h.threads
  attempts : ∃ ds, Attempts h.endpoint m.endpoint ds ∧ refusals ds = []

omit [FrameLink L] in
/-- The slot of an open stream does not refuse the command. -/
theorem refusals_drafts (U : m.endpoint.Underway command before) (follows : deed.follows = true) :
    refusals (m.drafts deed) = [] := by
  unfold drafts
  split
  · cases follows
  · cases follows
  · split
    · next pending held =>
      obtain ⟨rfl, -⟩ := U.atHand held
      rw [handover, U.roomy _ U.opened]
      exact refusals_lossReport ..
    · rfl
  · split <;> rfl
  · cases follows
  · rfl

theorem Handles.enact (H : h.Handles command m) (returned : ∀ t ∈ h.threads, t.result ≠ none)
    (follows : deed.follows = true) (ha : m.enact deed = some m') : h.Handles command m' := by
  have U := H.underway
  by_cases calls : ∃ i, deed = .act (.advance i)
  · obtain ⟨i, rfl⟩ := calls
    obtain ⟨t, u, thread, free, -, -⟩ := advance_cases (show m.advance i = some m' from ha)
    rw [H.threads] at thread
    exact absurd free (returned t (List.mem_of_getElem? thread))
  · have attempts := attempts_enact ha fun i e => calls ⟨i, e⟩
    have silent := refusals_drafts U follows
    obtain ⟨ds, before, none_⟩ := H.attempts
    have attempts' : ∃ ds, Attempts h.endpoint m'.endpoint ds ∧ refusals ds = [] :=
      ⟨_, before.trans attempts, by
        rw [refusals, List.filter_append]
        exact List.append_eq_nil_iff.mpr ⟨none_, silent⟩⟩
    cases enacted ha with
    | advance => exact absurd ⟨_, rfl⟩ calls
    | @pass a deliver =>
      refine ⟨U.deliver deliver, ?_, H.threads, attempts'⟩
      obtain ⟨pending, -, B, -⟩ := deliver_cases deliver
      rw [← H.serving]
      rcases B with ⟨-, B⟩ | ⟨-, -, B⟩ <;>
      · obtain ⟨link, outbound, sent, log, rfl⟩ := B.eq
        rfl
    | takeUp worker waits take =>
      refine ⟨U.takeUp worker waits take, ?_, H.threads, attempts'⟩
      rw [← H.serving]
      obtain ⟨slots, workers, log, rfl⟩ := takeUp_eq take
      rfl
    | @handle i id stream invocation result worker =>
      cases U.numbered i _ worker
      exact ⟨U.worked worker (by simp) (by simp) ⟨_, _, _, rfl⟩ (by simp), H.serving, H.threads,
        attempts'⟩
    | @answer i id stream payload worker =>
      cases U.numbered i _ worker
      obtain ⟨link, outbound, sent, eq⟩ :=
        m.endpoint.answer_eq ⟨id, stream, .answering payload⟩ payload
      rw [eq] at attempts' ⊢
      exact ⟨U.worked worker (by simp) (by simp) ⟨_, _, _, rfl⟩ (by simp), H.serving, H.threads,
        attempts'⟩
    | _ => cases follows

theorem Composed.receive (S : h.Composed) (buffer : Option Octets) :
    (h.endpoint.receive buffer).Poised none ∧
      (h.endpoint.receive buffer).isOpen StreamId.control = true ∧
      (h.endpoint.receive buffer).running = true := by
  have H := h.endpoint.aside_receive buffer
  refine ⟨S.poised.congr H.serving H.slots H.workers, ?_, H.running.trans S.running⟩
  rw [isOpen_congr H.serving]
  exact S.control

/-- A command that has arrived is held at first. -/
theorem handles_of_held (S : h.Composed)
    (held : (h.endpoint.receive buffer).receiving = some command) :
    h.Handles command { h with endpoint := h.endpoint.receive buffer } := by
  obtain ⟨octets, -, -, opened⟩ := commandIn_of_held S.received held
  have H := h.endpoint.aside_receive buffer
  have P := (S.receive buffer).1
  have attempts := h.endpoint.attempts_receive buffer
  rw [reaction_of_held S.received held] at attempts
  refine ⟨⟨P.toStaffed, ?_, P.roomy, fun s _ => P.empty s, fun j w hw _ => P.idle j w hw,
    .held held (P.empty _) P.idle H.invocations⟩, H.serving, rfl, _, attempts, rfl⟩
  exact (isOpen_congr H.serving _).trans opened

/-- An agent with nothing to do does nothing. -/
theorem not_enact_of_poised (P : m.endpoint.Poised none) (free : m.endpoint.receiving = none)
    (returned : ∀ t ∈ m.threads, t.result ≠ none) (follows : deed.follows = true) :
    m.enact deed ≠ some m' := by
  intro ha
  cases enacted ha with
  | advance thread free take => exact returned _ (List.mem_of_getElem? thread) free
  | pass deliver =>
    obtain ⟨pending, receiving, -⟩ := deliver_cases deliver
    exact nomatch free.symm.trans receiving
  | takeUp worker waits take =>
    exact nomatch take.symm.trans (P.takeUp_eq_none worker waits rfl)
  | handle result worker => rcases P.idle _ _ worker with e | e <;> cases e
  | answer worker => rcases P.idle _ _ worker with e | e <;> cases e
  | _ => cases follows

/-- What is no command for an open stream is dealt with at once. -/
theorem deals_arrival (S : h.Composed) (D : h.Deals (.arrival buffer) m) :
    (∃ command, (h.endpoint.receive buffer).receiving = some command ∧ h.Handles command m) ∨
    (h.endpoint.receive buffer).receiving = none ∧
      m = { h with endpoint := h.endpoint.receive buffer } := by
  refine D.preserves
    (I := fun m => (∃ command, (h.endpoint.receive buffer).receiving = some command ∧
      h.Handles command m) ∨ (h.endpoint.receive buffer).receiving = none ∧
        m = { h with endpoint := h.endpoint.receive buffer })
    (fun ha => ?_) fun {m deed m'} K follows ha => ?_
  · cases enacted ha with
    | hear buffer _ =>
      cases held : (h.endpoint.receive buffer).receiving with
      | none => exact .inr ⟨rfl, rfl⟩
      | some command => exact .inl ⟨command, rfl, handles_of_held S held⟩
  · rcases K with ⟨command, held, H⟩ | ⟨free, rfl⟩
    · exact .inl ⟨command, held, H.enact S.returned follows ha⟩
    · exact absurd ha (not_enact_of_poised (S.receive buffer).1 free S.returned follows)

/-- The invocation that is due is that of the command that is held. -/
theorem due_arrival (free : a.receiving = none) (buffer : Option Octets) :
    a.due (.arrival buffer) = ((a.receive buffer).receiving.bind fun command =>
      invocationOf command.stream command.body).toList := by
  cases buffer with
  | none => simp [due, receive, free]
  | some octets =>
    have memory := (receive_memory free octets).2
    rw [due, ← memory, Option.bind_map]
    rfl

/-- The handler is invoked for a command on an open stream, and a command on another is refused. -/
theorem turn_arrival (S : h.Composed) (T : h.Turn (.arrival buffer) h') : h'.Composed ∧
    h'.endpoint.serving = h.endpoint.serving ∧
    h'.endpoint.invocations = h.endpoint.invocations ++ h.endpoint.due (.arrival buffer) ∧
    ∀ octets stream body, buffer = some octets →
      commandIn h.endpoint.inbound octets = some (stream, body) →
      Refuses h.endpoint h'.endpoint
        (if h.endpoint.isOpen stream then [] else [.notice .invalidStream stream.toOctet]) := by
  have R := T.rests
  rcases deals_arrival S T.deals with ⟨command, held, H⟩ | ⟨free, rfl⟩
  · have U := H.underway
    have empty : ∀ s, (h'.endpoint.slots.get s).item = none := by
      intro s
      by_cases here : s = command.stream
      · rw [here]
        exact R.handled _ U.opened
      · exact U.elsewhere s here
    obtain ⟨ds, attempts, none_⟩ := H.attempts
    obtain ⟨octets, rfl, found, opened⟩ := commandIn_of_held S.received held
    refine ⟨⟨⟨U.toStaffed, empty, U.roomy, fun j w hw => R.idle w (List.mem_of_getElem? hw)⟩, ?_,
      attempts.running.trans S.running, R.received, R.returned⟩, H.serving, ?_, ?_⟩
    · rw [isOpen_congr H.serving]
      exact S.control
    · rw [due_arrival S.received, held, Option.bind_some]
      cases U.whereabouts with
      | held held => exact nomatch R.received.symm.trans held
      | stored _ stored => exact nomatch (empty _).symm.trans stored
      | taken _ _ told => exact told
    · rintro _ stream body ⟨⟩ found'
      cases found.symm.trans found'
      rw [if_pos opened]
      exact attempts.refuses S.running none_ fun _ mem => absurd mem List.not_mem_nil
  · have A := h.endpoint.aside_receive buffer
    obtain ⟨poised, control, running⟩ := S.receive buffer
    refine ⟨⟨poised, control, running, free, S.returned⟩, A.serving, ?_, ?_⟩
    · rw [due_arrival S.received, free, Option.bind_none, Option.toList_none, List.append_nil]
      exact A.invocations
    · rintro octets stream body rfl found
      have shut := isOpen_of_unheld S.received found free
      obtain ⟨seq, reaction⟩ := reaction_of_command found
      have attempts := h.endpoint.attempts_receive (some octets)
      rw [reaction, shut, if_neg Bool.false_ne_true] at attempts
      rw [shut, if_neg Bool.false_ne_true]
      refine attempts.refuses S.running ?_ fun d mem => ?_
      · rw [refusals, List.filter_cons_of_pos (by rfl)]
        exact congrArg _ (refusals_lossReport _ _ _)
      · cases List.mem_singleton.mp mem
        rfl

/-! ## Each command is dealt with -/

/-- Once the worker of the stream waits again the agent is at rest. -/
theorem Handles.rests (H : h.Handles command m) (returned : ∀ t ∈ h.threads, t.result ≠ none)
    (free : m.endpoint.receiving = none)
    (empty : (m.endpoint.slots.get command.stream).item = none) {i : Nat} {w : Worker}
    (hw : m.endpoint.workers[i]? = some w) (here : w.stream = command.stream)
    (waits : w.phase = .waiting) : m.Rests := by
  have U := H.underway
  refine ⟨H.threads.symm ▸ returned, free, fun s _ => ?_, fun v mem => ?_⟩
  · by_cases same : s = command.stream
    · rw [same]
      exact empty
    · exact U.elsewhere s same
  · obtain ⟨j, hv⟩ := List.getElem?_of_mem mem
    by_cases stopped : v.phase = .stopped
    · exact .inr stopped
    by_cases same : v.stream = command.stream
    · have mine := (U.toStaffed.serving_iff hw (by simp [waits]) _).mpr here
      have its := (U.toStaffed.serving_iff hv stopped _).mpr same
      cases mine.symm.trans its
      cases hw.symm.trans hv
      exact .inl waits
    · exact U.others j v hv same

theorem ends_answering (S : h.Composed) (D : h.Deals o m) (H : h.Handles command m) {i : Nat}
    {w : Worker} (hw : m.endpoint.workers[i]? = some w) {payload : Octets}
    (busy : w.phase = .answering payload) : ∃ h', h.Turn o h' := by
  obtain ⟨id, stream, phase⟩ := w
  cases busy
  have U := H.underway
  obtain ⟨here, free, empty, -⟩ := U.atWork hw nofun nofun
  cases U.numbered i _ hw
  have answers : m.enact (.act (.answer id)) = some { m with
      endpoint := m.endpoint.answer ⟨id, stream, .answering payload⟩ payload } := by
    simp [enact, act, hw]
  have H' := H.enact S.returned rfl answers
  obtain ⟨link, outbound, sent, eq⟩ :=
    m.endpoint.answer_eq ⟨id, stream, .answering payload⟩ payload
  rw [eq] at answers H'
  have moved := getElem?_setPhase_self U.numbered hw .waiting
  exact ⟨_, D.next rfl answers, H'.rests S.returned free empty moved here rfl⟩

theorem ends_handling (S : h.Composed) (D : h.Deals o m) (H : h.Handles command m) {i : Nat}
    {w : Worker} (hw : m.endpoint.workers[i]? = some w) {invocation : Invocation}
    (busy : w.phase = .handling invocation) : ∃ h', h.Turn o h' := by
  obtain ⟨id, stream, phase⟩ := w
  cases busy
  have U := H.underway
  cases U.numbered i _ hw
  have handles : m.enact (.act (.handle id (.ok []))) = some { m with
      endpoint := m.endpoint.handled id invocation (.ok [])
      outcomes := m.outcomes ++ [⟨invocation, .ok []⟩] } := by
    simp [enact, act, hw]
  have moved := getElem?_setPhase_self U.numbered hw
    (.answering (responsePayload invocation.id (.ok [])))
  exact ends_answering S (D.next rfl handles) (H.enact S.returned rfl handles) moved rfl

/-- The slot of the stream takes the command, and the worker takes it up. -/
theorem ends_held (S : h.Composed) (D : h.Deals o m) (H : h.Handles command m)
    (held : m.endpoint.receiving = some command) : ∃ h', h.Turn o h' := by
  have roomy := H.underway.roomy _ H.underway.opened
  obtain ⟨-, empty, -⟩ := H.underway.atHand held
  obtain ⟨b, delivers, stored⟩ := stored_of_room held roomy empty
  have passes : m.enact (.act .pass) = some { m with endpoint := b } := by
    simp [enact, act, delivers]
  have D := D.next rfl passes
  have H := H.enact S.returned rfl passes
  have U := H.underway
  obtain ⟨i, serving⟩ := isOpen_iff.mp U.opened
  obtain ⟨w, hw, here, active⟩ := U.served _ i serving
  have waits : w.phase = .waiting := by
    cases U.whereabouts with
    | held _ empty => cases empty.symm.trans stored
    | taken _ empty => cases empty.symm.trans stored
    | stored _ _ idle => exact (idle i w hw).resolve_right active
  obtain ⟨c, takes, begun⟩ := begun_of_item U.numbered hw (here.symm ▸ stored)
  have takesUp : enact { m with endpoint := b } (.act (.takeUp i)) =
      some { m with endpoint := c } := by
    have worker : b.workers[i]? = some w := hw
    simp [enact, act, worker, waits, takes]
  have D := D.next rfl takesUp
  have H := H.enact S.returned rfl takesUp
  rcases begun with ⟨invocation, worker⟩ | ⟨payload, worker⟩
  · exact ends_handling S D H worker rfl
  · exact ends_answering S D H worker rfl

theorem ends_arrival (S : h.Composed) (buffer : Option Octets) :
    ∃ h', h.Turn (.arrival buffer) h' := by
  have hears : h.enact (.hear buffer) = some { h with endpoint := h.endpoint.receive buffer } := by
    simp [enact, S.received]
  have D : h.Deals (.arrival buffer) _ := deals_first hears
  cases held : (h.endpoint.receive buffer).receiving with
  | none =>
    have P := (S.receive buffer).1
    refine ⟨_, D, S.returned, held, fun s _ => P.empty s, fun w mem => ?_⟩
    obtain ⟨j, hw⟩ := List.getElem?_of_mem mem
    exact P.idle j w hw
  | some command =>
    exact ends_held S D (handles_of_held S held) held

/-! ## Seasons -/

omit [FrameLink L] in
theorem SameApart.invocations {a b : Agent L} (A : SameApart a b) :
    b.invocations = a.invocations := by
  obtain ⟨serving, slots, workers, rfl⟩ := A
  rfl

/-- At every moment of a turn. -/
theorem deals_orderly (S : h.Composed) (D : h.Deals o m) : m.endpoint.Orderly := by
  cases o with
  | openStream =>
    obtain ⟨b, call, result, at_, rfl⟩ := deals_open S D
    exact at_.orderly S.poised S.control
  | closeStream stream =>
    obtain ⟨b, call, result, at_, rfl⟩ := deals_close S D
    exact at_.orderly S.poised S.control
  | arrival buffer =>
    rcases deals_arrival S D with ⟨command, -, H⟩ | ⟨-, rfl⟩
    · refine H.underway.orderly ?_
      rw [isOpen_congr H.serving]
      exact S.control
    · obtain ⟨poised, control, -⟩ := S.receive buffer
      exact poised.orderly control

theorem turn_composed (S : h.Composed) (T : h.Turn o h') : h'.Composed ∧
    h'.endpoint.invocations = h.endpoint.invocations ++ h.endpoint.due o := by
  cases o with
  | openStream =>
    obtain ⟨S', ⟨stream, -, -, alters⟩ | ⟨-, fails⟩⟩ := turn_open S T
    · exact ⟨S', (SameApart.invocations alters.apart).trans (List.append_nil _).symm⟩
    · exact ⟨S', by rw [fails.endpoint]; exact (List.append_nil _).symm⟩
  | closeStream stream =>
    obtain ⟨S', control, shut, closes⟩ := turn_close S T
    refine ⟨S', Eq.trans ?_ (List.append_nil _).symm⟩
    by_cases here : stream = StreamId.control
    · rw [(control here).endpoint]
    · cases opened : h.endpoint.isOpen stream with
      | false => rw [(shut here opened).endpoint]
      | true => exact SameApart.invocations (closes here opened).apart
  | arrival buffer =>
    obtain ⟨S', -, told, -⟩ := turn_arrival S T
    exact ⟨S', told⟩

theorem ends (S : h.Composed) (o : Occasion) : ∃ h', h.Turn o h' := by
  cases o with
  | openStream => exact ends_open S
  | closeStream stream => exact ends_close S stream
  | arrival buffer => exact ends_arrival S buffer

theorem composed_start (link : L) (config : AgentConfig) :
    (ofAgent (Agent.start link config).2).Composed ∧
      (Agent.start link config).2.invocations = [] := by
  have prepared : Prepared link config (Agent.start link config).2 := .start
  obtain ⟨link', outbound, sent, eq⟩ := start_eq link config
  refine ⟨⟨prepared.poised.2, ?_, ?_, ?_, fun _ mem => absurd mem List.not_mem_nil⟩, ?_⟩
  · simp only [ofAgent, eq]
    rfl
  all_goals
    simp only [ofAgent, eq]
    rfl

theorem season_composed {start : Host L} {past : List (Host L × Occasion)} (S : start.Composed)
    (season : Season start past h) : h.Composed ∧ h.endpoint.invocations =
      start.endpoint.invocations ++ past.flatMap fun turn => turn.1.endpoint.due turn.2 := by
  induction season with
  | start => exact ⟨S, (List.append_nil _).symm⟩
  | turn before turn ih =>
    obtain ⟨composed, told⟩ := ih
    obtain ⟨composed', told'⟩ := turn_composed composed turn
    refine ⟨composed', ?_⟩
    rw [told', told, List.append_assoc, List.flatMap_append, List.flatMap_singleton]

/-- An agent from its start, to which things happen one after the other. At every moment the control
stream is open, each open stream has one worker and a slot that takes commands, and the slots of the
others are empty. To open a stream opens the lowest that is free, and fails if there is none; to
close a stream closes this one alone, and fails if it is the control stream or is not open. Handlers
have been given the commands that came when their streams were open, and no others, and each other
command has been refused once. Each turn comes to its end. -/
theorem streams_in_step {link : L} {config : AgentConfig} {past : List (Host L × Occasion)}
    (season : Season (ofAgent (Agent.start link config).2) past h) :
    (h.endpoint.Orderly ∧ ∀ o m, h.Deals o m → m.endpoint.Orderly) ∧
    (∀ stream, (h.endpoint.slots.get stream).item = none) ∧
    (h.endpoint.invocations = past.flatMap fun turn => turn.1.endpoint.due turn.2) ∧
    (∀ o, ∃ h', h.Turn o h') ∧
    (∀ h', h.Turn .openStream h' →
      (∃ stream, h.endpoint.isOpen stream = false ∧
        (∀ s, s < stream → h.endpoint.isOpen s = true) ∧
        h.Alters h' (.opened stream) stream true) ∨
      (∀ stream, h.endpoint.isOpen stream = true) ∧ h.Fails h' .noFreeStream) ∧
    (∀ stream h', h.Turn (.closeStream stream) h' →
      (stream = StreamId.control →
        h.Fails h' (.invalidArg "the control stream cannot be closed")) ∧
      (stream ≠ StreamId.control → h.endpoint.isOpen stream = false →
        h.Fails h' (.streamClosed stream)) ∧
      (stream ≠ StreamId.control → h.endpoint.isOpen stream = true →
        h.Alters h' .done stream false)) ∧
    ∀ buffer h', h.Turn (.arrival buffer) h' →
      h'.endpoint.serving = h.endpoint.serving ∧
      ∀ octets stream body, buffer = some octets →
        commandIn h.endpoint.inbound octets = some (stream, body) →
        (h.endpoint.isOpen stream = true →
          h'.endpoint.invocations =
            h.endpoint.invocations ++ (invocationOf stream body).toList ∧
          Refuses h.endpoint h'.endpoint []) ∧
        (h.endpoint.isOpen stream = false →
          h'.endpoint.invocations = h.endpoint.invocations ∧
          Refuses h.endpoint h'.endpoint [.notice .invalidStream stream.toOctet]) := by
  obtain ⟨began, untold⟩ := composed_start link config
  obtain ⟨S, told⟩ := season_composed began season
  refine ⟨⟨S.poised.orderly S.control, fun o m => deals_orderly S⟩, S.poised.empty, ?_, ends S,
    fun h' T => (turn_open S T).2, fun stream h' T => (turn_close S T).2, fun buffer h' T => ?_⟩
  · rw [told, ofAgent, untold, List.nil_append]
  · obtain ⟨-, serving, told, refuses⟩ := turn_arrival S T
    refine ⟨serving, ?_⟩
    rintro octets stream body rfl found
    have refuses := refuses octets stream body rfl found
    simp only [due, found, Option.filter_some] at told
    constructor
    · intro opened
      simp only [opened, if_true, Option.bind_some] at told refuses
      exact ⟨told, refuses⟩
    · intro shut
      simp only [shut, Bool.false_eq_true, if_false, Option.bind_none, Option.toList_none,
        List.append_nil] at told refuses
      exact ⟨told, refuses⟩

omit [FrameLink L] in
theorem turn_of_run [Datalink L] {deeds : List Deed}
    (follow : deeds.all Deed.follows = true) (run : h.enactAll (o.deed :: deeds) = some h')
    (rest : h'.resting = true) : h.Turn o h' :=
  ⟨⟨deeds, List.all_eq_true.mp follow, run⟩, rests_iff.mpr rest⟩

/-- A stream is opened, a command comes on it, the stream is closed, another command comes on it,
and it is opened again. The second command is not handled. -/
theorem streams_in_step_reopened :
    ∃ (past : List (Host PacketLink × Occasion)) (h : Host PacketLink),
      Season onSerial past h ∧
      past.map Prod.snd = [.openStream, .arrival (commandFor second .first),
        .closeStream second, .arrival (commandFor second SeqNum.first.next), .openStream] ∧
      h.endpoint.isOpen second = true ∧
      h.endpoint.invocations = [⟨second, ⟨5, 1, 0⟩, []⟩] ∧
      h.endpoint.invocations = past.flatMap fun turn => turn.1.endpoint.due turn.2 := by
  obtain ⟨h₁, run₁, rest₁, h₂, run₂, rest₂, h₃, run₃, rest₃, h₄, run₄, rest₄, h₅, run₅, rest₅,
      opened, told⟩ : ∃ h₁ : Host PacketLink,
      onSerial.enactAll (Occasion.openStream.deed :: [.act (.advance 0), .act (.advance 0)]) =
        some h₁ ∧ h₁.resting = true ∧
      ∃ h₂, h₁.enactAll ((Occasion.arrival (commandFor second .first)).deed :: [.act .pass,
        .act (.takeUp 1), .act (.handle 1 (.ok [])), .act (.answer 1)]) = some h₂ ∧
        h₂.resting = true ∧
      ∃ h₃, h₂.enactAll ((Occasion.closeStream second).deed :: [.act (.advance 1),
        .act (.advance 1), .act (.takeUp 1), .act (.advance 1)]) = some h₃ ∧ h₃.resting = true ∧
      ∃ h₄, h₃.enactAll ((Occasion.arrival (commandFor second SeqNum.first.next)).deed :: []) =
        some h₄ ∧ h₄.resting = true ∧
      ∃ h₅, h₄.enactAll (Occasion.openStream.deed :: [.act (.advance 2), .act (.advance 2)]) =
        some h₅ ∧ h₅.resting = true ∧ h₅.endpoint.isOpen second = true ∧
        h₅.endpoint.invocations = [⟨second, ⟨5, 1, 0⟩, []⟩] :=
    ⟨_, rfl, rfl, _, rfl, rfl, _, rfl, rfl, _, rfl, rfl, _, rfl, rfl, rfl, rfl⟩
  have season : Season onSerial _ h₅ := ((((Season.start.turn (turn_of_run rfl run₁ rest₁)).turn
    (turn_of_run rfl run₂ rest₂)).turn (turn_of_run rfl run₃ rest₃)).turn
    (turn_of_run rfl run₄ rest₄)).turn (turn_of_run rfl run₅ rest₅)
  exact ⟨_, h₅, season, rfl, opened, told, (streams_in_step season).2.2.1⟩

end Host

end
end Agent
end CommandLink
