import CommandLink.Proofs.Agent.Succession

/-! # One thing after the other

Streams are opened and closed, and buffers arrive, each time when the agent is at rest: no call is
under way, no command waits, and no worker is at work. What the agent does until it is at rest again
is one turn (`Agent.Host.Turn`). This module follows the calls through all their steps
(`Agent.Opening`, `Agent.Shutting`). -/

namespace CommandLink
namespace Agent

/-- What may happen to an agent, one thing after the other. -/
inductive Occasion
  | openStream
  | closeStream (stream : StreamId)
  /-- The link hands over a buffer, or has lost it. -/
  | arrival (buffer : Option Octets)

def Occasion.deed : Occasion → Deed
  | .openStream => .act (.begin .openStream none)
  | .closeStream stream => .act (.begin (.closeStream stream) none)
  | .arrival buffer => .hear buffer

/-- The steps by which an agent deals with what has happened: those of calls, of the receive path
and of workers with their handlers. -/
def Deed.follows : Deed → Bool
  | .act (.advance _) | .act .pass | .act (.takeUp _) | .act (.handle ..) | .act (.answer _) => true
  | _ => false

section
variable {L : Type} {a b : Agent L} {stream : StreamId} {i : WorkerId}

/-- The table, the workers and the slots are in step. -/
structure Orderly (a : Agent L) : Prop where
  control : a.isOpen StreamId.control = true
  manned : ∀ stream, a.isOpen stream = true → ∃ i, a.Manned stream i
  cleared : ∀ stream, a.isOpen stream = false → (a.slots.get stream).item = none

/-- The worker that leaves is not one of an open stream. -/
theorem Staffed.orderly {leaving : Option WorkerId} (S : a.Staffed leaving)
    (control : a.isOpen StreamId.control = true)
    (roomy : ∀ stream, a.isOpen stream = true → (a.slots.get stream).closed = false)
    (cleared : ∀ stream, a.isOpen stream = false → (a.slots.get stream).item = none)
    (gone : ∀ i w, leaving = some i → a.workers[i]? = some w → a.isOpen w.stream = false) :
    a.Orderly := by
  refine ⟨control, fun stream opened => ?_, cleared⟩
  obtain ⟨i, serving⟩ := isOpen_iff.mp opened
  refine ⟨i, serving, roomy stream opened, fun j => ⟨?_, ?_⟩⟩
  · rintro ⟨w, hw, rfl, active⟩
    rcases S.serves j w hw active with serves | leaves
    · exact Option.some.inj (serves.symm.trans serving)
    · exact nomatch (gone j w leaves hw).symm.trans opened
  · rintro rfl
    exact S.served stream j serving

theorem Poised.orderly (P : a.Poised none) (control : a.isOpen StreamId.control = true) :
    a.Orderly :=
  P.toStaffed.orderly control P.roomy (fun stream _ => P.empty stream) nofun

/-- A worker has nothing to take up, and stays, if its slot is empty and not closed. -/
theorem takeUp_of_roomy {w : Worker} (empty : (a.slots.get w.stream).item = none)
    (roomy : (a.slots.get w.stream).closed = false) : a.takeUp w = none := by
  cases h : a.takeUp w with
  | none => rfl
  | some b =>
    rcases takeUp_ways h with ⟨body, -, item, -, -⟩ | ⟨body, item, -, -⟩ | ⟨-, shut, -⟩
    · exact nomatch empty.symm.trans item
    · exact nomatch empty.symm.trans item
    · exact nomatch roomy.symm.trans shut

/-- No worker has something to do where the slots are as those of an agent that is poised. -/
theorem Poised.takeUp_eq_none (P : a.Poised none) {w : Worker} (hw : a.workers[i]? = some w)
    (waits : w.phase = .waiting) (same : b.slots.get w.stream = a.slots.get w.stream) :
    b.takeUp w = none := by
  have serving := (P.toStaffed.serving_iff hw (by simp [waits]) w.stream).mpr rfl
  apply takeUp_of_roomy
  · rw [same]
    exact P.empty _
  · rw [same]
    exact P.roomy _ (isOpen_of_serving serving)

theorem hasStopped_setPhase (numbered : ∀ (i : Nat) w, a.workers[i]? = some w → w.id = i)
    {w : Worker} (hw : a.workers[i]? = some w) : (a.setPhase i .stopped).hasStopped i = true := by
  have stopped := getElem?_setPhase_self numbered hw .stopped
  exact (hasStopped_iff (numbered_setPhase numbered i .stopped) stopped).mpr rfl

theorem lowestFree_eq_some {stream : StreamId} (h : a.lowestFree = some stream) :
    a.isOpen stream = false ∧ ∀ s, s < stream → a.isOpen s = true := by
  obtain ⟨shut, i, hi, here, before⟩ := List.find?_eq_some_iff_getElem.mp h
  refine ⟨by simpa using shut, fun s lower => ?_⟩
  simp only [StreamId.all, List.getElem_finRange] at here before
  subst here
  simpa using before s.val lower

theorem lowestFree_eq_none (h : a.lowestFree = none) (stream : StreamId) :
    a.isOpen stream = true := by
  simpa using List.find?_eq_none.mp h stream (StreamId.mem_all stream)

/-! ## Calls -/

/-- A stream is taken out of the table, and its slot is closed. -/
def withdrawn (a : Agent L) (stream : StreamId) : Agent L :=
  { a with serving := a.serving.set stream none, slots := a.slots.modify stream Slot.close }

/-- Where a call that opens a stream stands, if it finds the agent `a` at rest. -/
inductive Opening (a : Agent L) :
    Agent L → Call → Option (Except EndpointError Answer) → Prop
  | find : Opening a a .openFind none
  | full (full : a.lowestFree = none) : Opening a a .openFind (some (.error .noFreeStream))
  | start {stream : StreamId} (free : a.lowestFree = some stream) :
      Opening a a (.openStart stream) none
  | opened {stream : StreamId} {b : Agent L} (free : a.lowestFree = some stream)
      (start : a.startWorker stream = .ok b) :
      Opening a b (.openStart stream) (some (.ok (.opened stream)))

/-- Where a call that closes a stream stands, if it finds the agent `a` at rest. -/
inductive Shutting (a : Agent L) (stream : StreamId) :
    Agent L → Call → Option (Except EndpointError Answer) → Prop
  | take : Shutting a stream a (.closeTake stream) none
  | control (control : stream = StreamId.control) : Shutting a stream a (.closeTake stream)
      (some (.error (.invalidArg "the control stream cannot be closed")))
  | shut (other : stream ≠ StreamId.control) (unserved : a.serving.get stream = none) :
      Shutting a stream a (.closeTake stream) (some (.error (.streamClosed stream)))
  | slot {i : WorkerId} (other : stream ≠ StreamId.control)
      (served : a.serving.get stream = some i) :
      Shutting a stream { a with serving := a.serving.set stream none } (.closeSlot stream i) none
  | join {i : WorkerId} (other : stream ≠ StreamId.control)
      (served : a.serving.get stream = some i) :
      Shutting a stream (a.withdrawn stream) (.join [i] .finish) none
  | stopped {i : WorkerId} (other : stream ≠ StreamId.control)
      (served : a.serving.get stream = some i) :
      Shutting a stream ((a.withdrawn stream).setPhase i .stopped) (.join [i] .finish) none
  | closed {i : WorkerId} (other : stream ≠ StreamId.control)
      (served : a.serving.get stream = some i) :
      Shutting a stream ((a.withdrawn stream).setPhase i .stopped) (.join [i] .finish)
        (some (.ok .done))

/-- The worker of a stream that is closed waits, and stops once the slot is closed. -/
theorem Poised.leaver (P : a.Poised none) (served : a.serving.get stream = some i) :
    ∃ w, a.workers[i]? = some w ∧ w.stream = stream ∧ w.phase = .waiting ∧
      (a.withdrawn stream).takeUp w = some ((a.withdrawn stream).setPhase i .stopped) := by
  obtain ⟨w, hw, rfl, active⟩ := P.served stream i served
  refine ⟨w, hw, rfl, (P.idle i w hw).resolve_right active, ?_⟩
  simp [Agent.takeUp, withdrawn, StreamTable.modify, Slot.pop, Slot.close, P.numbered i w hw]

theorem Poised.withdrawn (P : a.Poised none) (served : a.serving.get stream = some i) :
    (a.withdrawn stream).Poised (some i) :=
  (P.closeTake served).closeSlot (StreamTable.get_set_self _ _ _)

theorem Poised.withdrawn_stopped (P : a.Poised none) (served : a.serving.get stream = some i) :
    ((a.withdrawn stream).setPhase i .stopped).Poised none := by
  obtain ⟨w, hw, -, waits, take⟩ := P.leaver served
  exact ((P.withdrawn served).stop hw waits take).2.left
    (hasStopped_setPhase (P.withdrawn served).numbered hw)

theorem isOpen_set (a : Agent L) (worker : Option WorkerId) (s : StreamId) :
    isOpen { a with serving := a.serving.set stream worker } s =
      if stream = s then worker.isSome else a.isOpen s := by
  rw [isOpen, StreamTable.get_set]
  split <;> rfl

theorem Opening.orderly {call : Call} {result : Option (Except EndpointError Answer)}
    (S : Opening a b call result) (P : a.Poised none)
    (control : a.isOpen StreamId.control = true) : b.Orderly := by
  cases S with
  | opened free start =>
    refine (P.startWorker start).orderly ?_
    obtain ⟨-, rfl⟩ := startWorker_eq start
    show isOpen { a with serving := a.serving.set _ _ } _ = true
    rw [isOpen_set, control]
    split <;> rfl
  | _ => exact P.orderly control

theorem Shutting.orderly {call : Call} {result : Option (Except EndpointError Answer)}
    (S : Shutting a stream b call result) (P : a.Poised none)
    (control : a.isOpen StreamId.control = true) : b.Orderly := by
  have open_ : stream ≠ StreamId.control →
      isOpen { a with serving := a.serving.set stream none } StreamId.control = true := by
    intro other
    rw [isOpen_set, if_neg other]
    exact control
  -- the worker that leaves serves the stream that is closed
  have gone : ∀ {i}, a.serving.get stream = some i → ∀ j w, some i = some j →
      a.workers[j]? = some w →
      isOpen { a with serving := a.serving.set stream none } w.stream = false := by
    rintro i served j w ⟨⟩ hw
    obtain ⟨v, hv, here, -⟩ := P.served stream i served
    cases hw.symm.trans hv
    rw [isOpen_set, if_pos here.symm]
    rfl
  cases S with
  | slot other served =>
    have Q := P.closeTake served
    exact Q.toStaffed.orderly (open_ other) Q.roomy (fun s _ => Q.empty s) (gone served)
  | join other served =>
    have Q := P.withdrawn served
    exact Q.toStaffed.orderly (open_ other) Q.roomy (fun s _ => Q.empty s) (gone served)
  | stopped other served => exact (P.withdrawn_stopped served).orderly (open_ other)
  | closed other served => exact (P.withdrawn_stopped served).orderly (open_ other)
  | _ => exact P.orderly control

/-- What each step of a call, and each worker that has something to do meanwhile, keeps up, where
nothing is received and no worker is at work. -/
structure Conducted [Datalink L]
    (P : Agent L → Call → Option (Except EndpointError Answer) → Prop) : Prop where
  advance : ∀ {b call u}, P b call none →
    Thread.take ⟨none, call, none⟩ (call.step b none).2 = some u →
    P (call.step b none).1 u.call u.result
  takeUp : ∀ {b call result} {j : Nat} {w b'}, P b call result → b.workers[j]? = some w →
    w.phase = .waiting → b.takeUp w = some b' → P b' call result
  idle : ∀ {b call result} {j : Nat} {w}, P b call result → b.workers[j]? = some w →
    w.phase = .waiting ∨ w.phase = .stopped
  empty : ∀ {b call result}, P b call result → ∀ s, (b.slots.get s).item = none
  received : ∀ {b call result}, P b call result → b.receiving = none

theorem conducted_opening [Datalink L] (P : a.Poised none) (free : a.receiving = none) :
    Conducted (Opening a) := by
  refine ⟨fun S take => ?_, fun S hw waits taken => ?_, fun S hw => ?_, fun S => ?_, fun S => ?_⟩
  · cases S with
    | find =>
      simp only [Call.step] at take ⊢
      cases lowest : a.lowestFree with
      | none =>
        rw [lowest] at take
        cases take
        exact .full lowest
      | some stream =>
        rw [lowest] at take
        cases take
        exact .start lowest
    | @start stream lowest =>
      simp only [Call.step] at take ⊢
      cases start : a.startWorker stream with
      | error e =>
        -- a stream that is found to be free can be opened
        simp [startWorker, (lowestFree_eq_some lowest).1] at start
      | ok b =>
        rw [start] at take
        cases take
        exact .opened lowest start
  · cases S with
    | opened lowest start =>
      cases taken.symm.trans ((P.startWorker start).takeUp_eq_none hw waits rfl)
    | _ => cases taken.symm.trans (P.takeUp_eq_none hw waits rfl)
  · cases S with
    | opened lowest start => exact (P.startWorker start).idle _ _ hw
    | _ => exact P.idle _ _ hw
  · cases S with
    | opened lowest start => exact (P.startWorker start).empty
    | _ => exact P.empty
  · cases S with
    | opened lowest start => rw [(startWorker_eq start).2, free]
    | _ => exact free

theorem conducted_shutting [Datalink L] (P : a.Poised none) (free : a.receiving = none) :
    Conducted (Shutting a stream) := by
  refine ⟨fun S take => ?_, fun {b call result j w b'} S hw waits taken => ?_, fun S hw => ?_,
    fun S => ?_, fun S => ?_⟩
  · cases S with
    | take =>
      simp only [Call.step] at take ⊢
      split
      · next control =>
        rw [if_pos control] at take
        cases take
        exact .control control
      · next other =>
        rw [if_neg other] at take
        cases served : a.serving.get stream with
        | none =>
          rw [served] at take
          cases take
          exact .shut other served
        | some i =>
          rw [served] at take
          cases take
          exact .slot other served
    | slot other served =>
      cases take
      exact .join other served
    | @join i other served =>
      obtain ⟨w, hw, -, waits, -⟩ := P.leaver served
      have stays : (a.withdrawn stream).hasStopped i = false := by
        rw [Bool.eq_false_iff]
        intro stopped
        have phase := (hasStopped_iff (P.withdrawn served).numbered hw).mp stopped
        cases waits.symm.trans phase
      simp [Call.step, stays, Thread.take] at take
    | stopped other served =>
      simp only [Call.step] at take ⊢
      split at take
      · cases take
        simp only [*, if_true]
        exact .closed other served
      · cases take
  · cases S with
    | @join i other served =>
      have hw : a.workers[j]? = some w := hw
      by_cases here : w.stream = stream
      · subst here
        have serving := (P.toStaffed.serving_iff hw (by simp [waits]) w.stream).mpr rfl
        cases served.symm.trans serving
        obtain ⟨v, hv, -, -, leaves⟩ := P.leaver served
        cases hw.symm.trans hv
        cases taken.symm.trans leaves
        exact .stopped other served
      · have same := a.slots.get_modify_of_ne (Ne.symm here) Slot.close
        cases taken.symm.trans (P.takeUp_eq_none hw waits same)
    | stopped other served | closed other served =>
      cases taken.symm.trans ((P.withdrawn_stopped served).takeUp_eq_none hw waits rfl)
    | _ => cases taken.symm.trans (P.takeUp_eq_none hw waits rfl)
  · cases S with
    | stopped other served | closed other served => exact (P.withdrawn_stopped served).idle _ _ hw
    | _ => exact P.idle _ _ hw
  · cases S with
    | join other served | stopped other served | closed other served =>
      exact (P.withdrawn served).empty
    | _ => exact P.empty
  · cases S <;> exact free

end

namespace Host

section
variable {L : Type}

/-- Everything that has begun has come to its end. -/
structure Rests (h : Host L) : Prop where
  returned : ∀ t ∈ h.threads, t.result ≠ none
  received : h.endpoint.receiving = none
  handled : ∀ stream, h.endpoint.isOpen stream = true → (h.endpoint.slots.get stream).item = none
  idle : ∀ w ∈ h.endpoint.workers, w.phase = .waiting ∨ w.phase = .stopped

/-- Whether everything that has begun has come to its end. -/
def resting (h : Host L) : Bool :=
  h.threads.all (·.result.isSome) && h.endpoint.receiving.isNone &&
    StreamId.all.all (fun s => !h.endpoint.isOpen s || (h.endpoint.slots.get s).item.isNone) &&
    h.endpoint.workers.all fun w => w.phase = .waiting ∨ w.phase = .stopped

theorem rests_iff {h : Host L} : h.Rests ↔ h.resting = true := by
  simp only [resting, Bool.and_eq_true, List.all_eq_true, decide_eq_true_eq, Bool.or_eq_true,
    Bool.not_eq_true', Option.isNone_iff_eq_none]
  constructor
  · rintro ⟨returned, received, handled, idle⟩
    refine ⟨⟨⟨fun t mem => ?_, received⟩, fun s _ => ?_⟩, idle⟩
    · exact Option.isSome_iff_ne_none.mpr (returned t mem)
    · cases opened : h.endpoint.isOpen s with
      | false => exact .inl rfl
      | true => exact .inr (handled s opened)
  · rintro ⟨⟨⟨returned, received⟩, handled⟩, idle⟩
    refine ⟨fun t mem => ?_, received, fun s opened => ?_, idle⟩
    · exact Option.isSome_iff_ne_none.mp (returned t mem)
    · exact (handled s (StreamId.mem_all s)).resolve_left (by simp [opened])

/-- Something has happened to an agent, and the agent has dealt with it up to some point. -/
def Deals [Datalink L] (h : Host L) (o : Occasion) (m : Host L) : Prop :=
  ∃ deeds, (∀ deed ∈ deeds, deed.follows = true) ∧ h.enactAll (o.deed :: deeds) = some m

/-- Something happens to an agent, and the agent deals with it until it is at rest again. -/
structure Turn [Datalink L] (h : Host L) (o : Occasion) (h' : Host L) : Prop where
  deals : h.Deals o h'
  rests : h'.Rests

/-- Turns one after the other, each with the agent that it comes to. -/
inductive Season [Datalink L] (start : Host L) : List (Host L × Occasion) → Host L → Prop
  | start : Season start [] start
  | turn {past : List (Host L × Occasion)} {h h' : Host L} {o : Occasion}
      (before : Season start past h) (turn : h.Turn o h') : Season start (past ++ [(h, o)]) h'

/-- How a running agent stands between two turns. -/
structure Composed (h : Host L) : Prop where
  poised : h.endpoint.Poised none
  control : h.endpoint.isOpen StreamId.control = true
  running : h.endpoint.running = true
  received : h.endpoint.receiving = none
  returned : ∀ t ∈ h.threads, t.result ≠ none

/-- What the calls so far have returned. -/
def results (h : Host L) : List (Option (Except EndpointError Answer)) :=
  h.threads.map Thread.result

/-- A call has returned an error and changed nothing. -/
structure Fails (h h' : Host L) (e : EndpointError) : Prop where
  results : h'.results = h.results ++ [some (.error e)]
  endpoint : h'.endpoint = h.endpoint

/-- A call has opened or closed a stream, and changed no other. -/
structure Alters (h h' : Host L) (answer : Answer) (stream : StreamId) (opened : Bool) :
    Prop where
  results : h'.results = h.results ++ [some (.ok answer)]
  now : h'.endpoint.isOpen stream = opened
  elsewhere : ∀ s, s ≠ stream → h'.endpoint.serving.get s = h.endpoint.serving.get s ∧
    h'.endpoint.slots.get s = h.endpoint.slots.get s
  apart : SameApart h.endpoint h'.endpoint

variable {h m m' h' : Host L} {o : Occasion} {deed : Deed}

section
variable [Datalink L]

theorem deals_first (ha : h.enact o.deed = some m) : h.Deals o m :=
  ⟨[], fun _ mem => absurd mem List.not_mem_nil, by
    rw [enactAll, List.foldlM_cons, ha]
    rfl⟩

theorem Deals.next (D : h.Deals o m) (follows : deed.follows = true)
    (ha : m.enact deed = some m') : h.Deals o m' := by
  obtain ⟨deeds, all, run⟩ := D
  refine ⟨deeds ++ [deed], fun d mem => ?_, ?_⟩
  · rcases mem_or_eq_of_mem_concat mem with mem | rfl
    · exact all d mem
    · exact follows
  · rw [← List.cons_append, enactAll, List.foldlM_append]
    exact Option.bind_eq_some_iff.mpr ⟨m, run, by rw [List.foldlM_cons, ha]; rfl⟩

/-- What holds once something has happened and what every step keeps up holds all the while. -/
theorem Deals.preserves {I : Host L → Prop} (D : h.Deals o m)
    (first : ∀ {m}, h.enact o.deed = some m → I m)
    (step : ∀ {m deed m'}, I m → deed.follows = true → m.enact deed = some m' → I m') : I m := by
  obtain ⟨deeds, all, run⟩ := D
  rw [enactAll, List.foldlM_cons] at run
  obtain ⟨n, begun, rest⟩ := Option.bind_eq_some_iff.mp run
  have first := first begun
  clear run begun
  induction deeds generalizing n with
  | nil =>
    cases rest
    exact first
  | cons deed deeds ih =>
    rw [List.foldlM_cons] at rest
    obtain ⟨n', here, rest⟩ := Option.bind_eq_some_iff.mp rest
    exact ih (fun d mem => all d (List.mem_cons_of_mem _ mem)) n' rest
      (step first (all deed List.mem_cons_self) here)

end

/-- A call is under way that `P` describes, and nothing else. -/
def Calls (h : Host L) (P : Agent L → Call → Option (Except EndpointError Answer) → Prop)
    (m : Host L) : Prop :=
  ∃ b call result, P b call result ∧
    m = { h with endpoint := b, threads := h.threads ++ [⟨none, call, result⟩] }

end

variable {L : Type} [FrameLink L] {h m m' h' : Host L} {o : Occasion} {deed : Deed}
  {P : Agent L → Call → Option (Except EndpointError Answer) → Prop}

/-- While a call is under way on an agent at rest, it goes on, or a worker stops. -/
theorem calls_enact (C : Conducted P) (returned : ∀ t ∈ h.threads, t.result ≠ none)
    (K : h.Calls P m) (follows : deed.follows = true) (ha : m.enact deed = some m') :
    h.Calls P m' := by
  obtain ⟨b, call, result, here, rfl⟩ := K
  cases enacted ha with
  | @advance k t u thread free take =>
    rcases getElem?_concat_cases thread with thread | ⟨rfl, rfl⟩
    · exact absurd free (returned t (List.mem_of_getElem? thread))
    · cases free
      refine ⟨_, u.call, u.result, C.advance here take, ?_⟩
      have caller : u = ⟨none, u.call, u.result⟩ := by
        rcases Thread.take_cases take with ⟨_, -, rfl⟩ | ⟨_, -, rfl⟩ <;> rfl
      rw [List.set_append_right _ _ (Nat.le_refl _), Nat.sub_self, List.set_cons_zero, ← caller]
  | pass deliver =>
    obtain ⟨command, held, -⟩ := deliver_cases deliver
    exact nomatch (C.received here).symm.trans held
  | takeUp worker waits take => exact ⟨_, call, result, C.takeUp here worker waits take, rfl⟩
  | handle result worker => rcases C.idle here worker with e | e <;> cases e
  | answer worker => rcases C.idle here worker with e | e <;> cases e
  | _ => cases follows

theorem deals_calls (C : Conducted P) (S : h.Composed) (D : h.Deals o m)
    (first : ∀ {m}, h.enact o.deed = some m → h.Calls P m) : h.Calls P m :=
  D.preserves first fun K follows ha => calls_enact C S.returned K follows ha

theorem deals_open (S : h.Composed) (D : h.Deals .openStream m) :
    h.Calls (Opening h.endpoint) m :=
  deals_calls (conducted_opening S.poised S.received) S D fun ha => by
    cases ha
    exact ⟨_, _, _, .find, rfl⟩

theorem deals_close {stream : StreamId} (S : h.Composed) (D : h.Deals (.closeStream stream) m) :
    h.Calls (Shutting h.endpoint stream) m :=
  deals_calls (conducted_shutting S.poised S.received) S D fun ha => by
    cases ha
    exact ⟨_, _, _, .take, rfl⟩

/-- A stream is opened, the lowest that is free, unless all are open. -/
theorem turn_open (S : h.Composed) (T : h.Turn .openStream h') : h'.Composed ∧
    ((∃ stream, h.endpoint.isOpen stream = false ∧
      (∀ s, s < stream → h.endpoint.isOpen s = true) ∧
      h.Alters h' (.opened stream) stream true) ∨
    (∀ stream, h.endpoint.isOpen stream = true) ∧ h.Fails h' .noFreeStream) := by
  obtain ⟨b, call, result, at_, rfl⟩ := deals_open S T.deals
  have orderly := at_.orderly S.poised S.control
  have returned := T.rests.returned
  have done : result ≠ none := returned ⟨none, call, result⟩ (by simp)
  cases at_ with
  | find => exact absurd rfl done
  | start => exact absurd rfl done
  | full full =>
    exact ⟨⟨S.poised, S.control, S.running, S.received, returned⟩,
      .inr ⟨lowestFree_eq_none full, by simp [results], rfl⟩⟩
  | @opened stream b lowest start =>
    obtain ⟨free, below⟩ := lowestFree_eq_some lowest
    have poised := S.poised.startWorker start
    obtain ⟨-, rfl⟩ := startWorker_eq start
    refine ⟨⟨poised, orderly.control, S.running, S.received, returned⟩,
      .inl ⟨stream, free, below, by simp [results], ?_, fun s other => ?_, ⟨_, _, _, rfl⟩⟩⟩
    · exact isOpen_of_serving (StreamTable.get_set_self _ _ _)
    · exact ⟨StreamTable.get_set_of_ne _ other.symm _, StreamTable.get_modify_of_ne _ other.symm _⟩

/-- A stream is closed if it is open and not the control stream. -/
theorem turn_close {stream : StreamId} (S : h.Composed) (T : h.Turn (.closeStream stream) h') :
    h'.Composed ∧
    (stream = StreamId.control →
      h.Fails h' (.invalidArg "the control stream cannot be closed")) ∧
    (stream ≠ StreamId.control → h.endpoint.isOpen stream = false →
      h.Fails h' (.streamClosed stream)) ∧
    (stream ≠ StreamId.control → h.endpoint.isOpen stream = true →
      h.Alters h' .done stream false) := by
  obtain ⟨b, call, result, at_, rfl⟩ := deals_close S T.deals
  have orderly := at_.orderly S.poised S.control
  have returned := T.rests.returned
  have done : result ≠ none := returned ⟨none, call, result⟩ (by simp)
  cases at_ with
  | control control =>
    exact ⟨⟨S.poised, S.control, S.running, S.received, returned⟩,
      fun _ => ⟨by simp [results], rfl⟩, fun other => absurd control other,
      fun other => absurd control other⟩
  | shut other unserved =>
    refine ⟨⟨S.poised, S.control, S.running, S.received, returned⟩,
      fun control => absurd control other, fun _ _ => ⟨by simp [results], rfl⟩, fun _ opened => ?_⟩
    simp [isOpen, unserved] at opened
  | @closed i other served =>
    refine ⟨⟨S.poised.withdrawn_stopped served, orderly.control, S.running, S.received, returned⟩,
      fun control => absurd control other, fun _ shut => ?_, fun _ _ => ⟨by simp [results], ?_,
      fun s elsewhere => ?_, ⟨_, _, _, rfl⟩⟩⟩
    · simp [isOpen, served] at shut
    · show isOpen { h.endpoint with serving := h.endpoint.serving.set stream none } stream = false
      rw [isOpen_set, if_pos rfl]
      rfl
    · exact ⟨StreamTable.get_set_of_ne _ elsewhere.symm _,
        StreamTable.get_modify_of_ne _ elsewhere.symm _⟩
  | _ => exact absurd rfl done

/-! ## Each turn comes to its end -/

omit [FrameLink L] in
theorem rests_of_conducted [Datalink L] (C : Conducted P) {b : Agent L} {call : Call}
    {result : Except EndpointError Answer} (at_ : P b call (some result))
    (returned : ∀ t ∈ h.threads, t.result ≠ none) :
    Rests { h with endpoint := b, threads := h.threads ++ [⟨none, call, some result⟩] } := by
  refine ⟨fun t mem => ?_, C.received at_, fun s _ => C.empty at_ s, fun w mem => ?_⟩
  · rcases mem_or_eq_of_mem_concat mem with mem | rfl
    · exact returned t mem
    · exact Option.some_ne_none _
  · obtain ⟨j, hw⟩ := List.getElem?_of_mem mem
    exact C.idle at_ hw

/-- The call of a turn goes one step further. -/
theorem Deals.advance {b b' : Agent L} {call : Call} {progress : Call.Result} {u : Thread}
    (D : h.Deals o { h with endpoint := b, threads := h.threads ++ [⟨none, call, none⟩] })
    (step : call.step b none = (b', progress))
    (take : Thread.take ⟨none, call, none⟩ progress = some u) :
    h.Deals o { h with endpoint := b', threads := h.threads ++ [u] } := by
  have advances : enact { h with endpoint := b, threads := h.threads ++ [⟨none, call, none⟩] }
      (.act (.advance h.threads.length)) =
      some { h with endpoint := b', threads := h.threads ++ [u] } := by
    simp [enact, act, Host.advance, step, take]
  exact D.next rfl advances

theorem ends_open (S : h.Composed) : ∃ h', h.Turn .openStream h' := by
  have C := conducted_opening S.poised S.received
  have D : h.Deals .openStream { h with
    endpoint := h.endpoint, threads := h.threads ++ [⟨none, .openFind, none⟩] } := deals_first rfl
  cases lowest : h.endpoint.lowestFree with
  | none =>
    have step : Call.openFind.step h.endpoint none =
        (h.endpoint, .done (.error .noFreeStream)) := by rw [Call.step, lowest]
    exact ⟨_, D.advance step rfl, rests_of_conducted C (.full lowest) S.returned⟩
  | some stream =>
    have find : Call.openFind.step h.endpoint none =
        (h.endpoint, .next (.openStart stream)) := by rw [Call.step, lowest]
    obtain ⟨b, start⟩ : ∃ b, h.endpoint.startWorker stream = .ok b := by
      simp [startWorker, (lowestFree_eq_some lowest).1]
    have step : (Call.openStart stream).step h.endpoint none =
        (b, .done (.ok (.opened stream))) := by rw [Call.step, start]
    exact ⟨_, (D.advance find rfl).advance step rfl,
      rests_of_conducted C (.opened lowest start) S.returned⟩

/-- The worker is taken out of the table, and stops once its slot is closed. -/
theorem ends_close_served (S : h.Composed) {i : WorkerId} (control : stream ≠ StreamId.control)
    (served : h.endpoint.serving.get stream = some i) :
    ∃ h', h.Turn (.closeStream stream) h' := by
  have C : Conducted (Shutting h.endpoint stream) := conducted_shutting S.poised S.received
  have D : h.Deals (.closeStream stream) { h with
    endpoint := h.endpoint, threads := h.threads ++ [⟨none, .closeTake stream, none⟩] } :=
    deals_first rfl
  have take : (Call.closeTake stream).step h.endpoint none =
      ({ h.endpoint with serving := h.endpoint.serving.set stream none },
        .next (.closeSlot stream i)) := by rw [Call.step, if_neg control, served]
  have waits : h.Deals (.closeStream stream) { h with
      endpoint := h.endpoint.withdrawn stream
      threads := h.threads ++ [⟨none, .join [i] .finish, none⟩] } :=
    (D.advance take rfl).advance rfl rfl
  obtain ⟨w, hw, -, idle, leaves⟩ := S.poised.leaver served
  have stops : h.Deals (.closeStream stream) { h with
      endpoint := (h.endpoint.withdrawn stream).setPhase i .stopped
      threads := h.threads ++ [⟨none, .join [i] .finish, none⟩] } := by
    have worker : (h.endpoint.withdrawn stream).workers[i]? = some w := hw
    have takesUp : enact { h with
        endpoint := h.endpoint.withdrawn stream
        threads := h.threads ++ [⟨none, .join [i] .finish, none⟩] } (.act (.takeUp i)) =
        some { h with
          endpoint := (h.endpoint.withdrawn stream).setPhase i .stopped
          threads := h.threads ++ [⟨none, .join [i] .finish, none⟩] } := by
      simp [enact, act, worker, idle, leaves]
    exact waits.next rfl takesUp
  have stopped : ((h.endpoint.withdrawn stream).setPhase i .stopped).hasStopped i = true :=
    hasStopped_setPhase (S.poised.withdrawn served).numbered hw
  have join : (Call.join [i] .finish).step
      ((h.endpoint.withdrawn stream).setPhase i .stopped) none =
      ((h.endpoint.withdrawn stream).setPhase i .stopped, .done (.ok .done)) := by
    simp [Call.step, stopped]
  exact ⟨_, stops.advance join rfl, rests_of_conducted C (.closed control served) S.returned⟩

theorem ends_close (S : h.Composed) (stream : StreamId) :
    ∃ h', h.Turn (.closeStream stream) h' := by
  have C : Conducted (Shutting h.endpoint stream) := conducted_shutting S.poised S.received
  have D : h.Deals (.closeStream stream) { h with
    endpoint := h.endpoint, threads := h.threads ++ [⟨none, .closeTake stream, none⟩] } :=
    deals_first rfl
  by_cases control : stream = StreamId.control
  · have step : (Call.closeTake stream).step h.endpoint none = (h.endpoint,
        .done (.error (.invalidArg "the control stream cannot be closed"))) := by
      rw [Call.step, if_pos control]
    exact ⟨_, D.advance step rfl, rests_of_conducted C (.control control) S.returned⟩
  · cases served : h.endpoint.serving.get stream with
    | none =>
      have step : (Call.closeTake stream).step h.endpoint none =
          (h.endpoint, .done (.error (.streamClosed stream))) := by
        rw [Call.step, if_neg control, served]
      exact ⟨_, D.advance step rfl, rests_of_conducted C (.shut control served) S.returned⟩
    | some i => exact ends_close_served S control served

end Host
end Agent
end CommandLink
