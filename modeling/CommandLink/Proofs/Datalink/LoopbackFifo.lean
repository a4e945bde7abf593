import CommandLink.Datalink.Loopback

/-! # The loopback pair is a queue of packets in each direction

A run is calls on the two ends, in any order that the types of the ends allow. After each call the
receive threads take turns, in any order, until both wait; the turns of the two threads do not
disturb each other, so that the order does not matter (`Settles.eq_settle`).

What carries the proof is one account for each end, of the packets it has received and those still
in its channel (`End.Account`). Calls and turns keep it, and where the threads wait the channel of
an end that is started is empty (`End.Account.settled`). -/

namespace CommandLink
namespace Loopback

@[simp] theorem Side.other_other (side : Side) : side.other.other = side := by cases side <;> rfl

@[simp] theorem Side.other_ne (side : Side) : side.other ≠ side := by cases side <;> simp [other]

@[simp] theorem Side.ne_other (side : Side) : side ≠ side.other := by cases side <;> simp [other]

theorem Side.eq_or_other (s t : Side) : t = s ∨ t = s.other := by
  cases s <;> cases t <;> simp [other]

/-! ## Turns of the receive threads -/

/-- Both receive threads wait, or have ended. -/
def Pair.Idle (p : Pair) : Prop := ∀ side, p.turn side = none

/-- The receive threads take turns, in any order, until both wait. -/
inductive Settles : Pair → Pair → Prop
  | idle {p : Pair} (h : p.Idle) : Settles p p
  | turn {p q r : Pair} {side : Side} (h : p.turn side = some q) (rest : Settles q r) : Settles p r

variable {p q r : Pair} {e e' : End} {side : Side} {more : Bool}

theorem Pair.turn_eq_some_iff :
    p.turn side = some q ↔
      ∃ e, (p.get side).turn (p.get side.other).holdsSender = some e ∧ p.set side e = q :=
  Option.map_eq_some_iff

/-- The receive threads always come to wait. -/
theorem Pair.settles_settle (p : Pair) : Settles p p.settle := by
  fun_induction settle p with
  | case1 p q h ih => exact .turn h ih
  | case2 p _ q h ih => exact .turn h ih
  | case3 p ha hb => exact .idle fun | .a => ha | .b => hb

/-- A receive thread neither starts nor stops an end. -/
theorem End.phase_turn (h : e.turn more = some e') : e'.phase = e.phase := by
  unfold turn at h
  split at h
  · split at h
    · cases h
      split <;> rfl
    · split at h <;> cases h
      rfl
  · cases h

theorem Pair.set_comm (p : Pair) (side : Side) (e e' : End) :
    (p.set side.other e').set side e = (p.set side e).set side.other e' := by
  cases side <;> rfl

@[simp] theorem Pair.get_set_other' (p : Pair) (side : Side) (e : End) :
    (p.set side.other e).get side = p.get side := by
  cases side <;> rfl

/-- The turns of the two receive threads do not disturb each other. -/
theorem Pair.turn_comm (h : p.turn side = some q) (h' : p.turn side.other = some r) :
    ∃ s, q.turn side.other = some s ∧ r.turn side = some s := by
  obtain ⟨e, he, rfl⟩ := turn_eq_some_iff.mp h
  obtain ⟨e', he', rfl⟩ := turn_eq_some_iff.mp h'
  refine ⟨(p.set side e).set side.other e', turn_eq_some_iff.mpr ⟨e', ?_, rfl⟩,
    turn_eq_some_iff.mpr ⟨e, ?_, p.set_comm ..⟩⟩
  · simpa [End.holdsSender, End.phase_turn he] using he'
  · simpa [End.holdsSender, End.phase_turn he'] using he

/-- Where the receive threads come to wait does not depend on whose turn is the first. -/
theorem Settles.after_turn (hr : Settles p r) (h : p.turn side = some q) : Settles q r := by
  induction hr generalizing q with
  | idle hp => cases (hp side).symm.trans h
  | @turn _ p' _ other h' rest ih =>
    rcases side.eq_or_other other with rfl | rfl
    · cases h'.symm.trans h
      exact rest
    · obtain ⟨s, hq, hs⟩ := Pair.turn_comm h h'
      exact .turn hq (ih hs)

/-- However the receive threads take turns, they end in the same state. -/
theorem Settles.unique (hq : Settles p q) (hr : Settles p r) : q = r := by
  induction hq with
  | idle hp =>
    cases hr with
    | idle => rfl
    | turn h => cases (hp _).symm.trans h
  | turn h _ ih => exact ih (hr.after_turn h)

theorem Settles.eq_settle (h : Settles p q) : q = p.settle := h.unique p.settles_settle

theorem Settles.isIdle (h : Settles p q) : q.Idle := by
  induction h with
  | idle h => exact h
  | turn _ _ ih => exact ih

/-! ## The account of an end -/

namespace End

/-- How an end stands: `incoming` are the packets that were accepted for it, `started` says whether
it was ever started, and `more` whether packets can still come. -/
structure Account (started : Bool) (incoming : List Octets) (more : Bool) (e : End) : Prop where
  /-- Until the end is started there is no receive thread. -/
  idle : e.phase = .idle → e.listening = false
  begun : e.phase = .running → started = true
  /-- The receive thread of a running end has ended only if nothing is left to receive. -/
  running : e.phase = .running → e.listening = false → e.inbound = [] ∧ more = false
  /-- The channel of an end that was stopped or dropped is empty. -/
  ended : e.phase ≠ .idle → e.phase ≠ .running → e.inbound = []
  /-- The accepted packets are those received and those in the channel, in that order. -/
  packets : e.phase = .idle ∨ started = true → e.received ++ e.inbound = incoming
  /-- An end that was not started has received nothing. -/
  unstarted : started = false → e.received = []

/-- Where the receive thread waits it waits for an end that runs, and the channel is empty. -/
theorem waiting (h : e.turn more = none) (listening : e.listening = true) :
    e.phase = .running ∧ more = true ∧ e.inbound = [] := by
  unfold End.turn at h
  rw [if_pos listening] at h
  split at h
  · cases h
  · next hi =>
    split at h
    · next hr => exact ⟨hr.1, hr.2, hi⟩
    · cases h

namespace Account

theorem fresh : End.fresh.Account false [] true where
  idle _ := rfl
  begun h := by cases h
  running h := by cases h
  ended h := absurd rfl h
  packets _ := rfl
  unstarted _ := rfl

variable {started : Bool} {incoming : List Octets}

theorem turn (A : e.Account started incoming more) (h : e.turn more = some e') :
    e'.Account started incoming more := by
  unfold End.turn at h
  split at h
  · next listening =>
    have begun : e.phase ≠ .idle := fun hi => by simp [A.idle hi] at listening
    split at h
    · next packet rest hi =>
      have running : e.phase = .running :=
        Decidable.byContradiction fun hr => by simp [A.ended begun hr] at hi
      have started := A.begun running
      simp only [if_pos running, Option.some.injEq] at h
      subst h
      exact {
        idle := fun h => absurd h begun
        begun := A.begun
        running := fun _ h => by simp [listening] at h
        ended := fun _ h => absurd running h
        packets := fun hs => by simpa [hi] using A.packets hs
        unstarted := fun h => by simp [started] at h }
    · next hi =>
      split at h
      · cases h
      · next hmore =>
        cases h
        exact {
          idle := fun _ => rfl
          begun := A.begun
          running := fun hr _ => ⟨rfl, by simpa [show e.phase = .running from hr] using hmore⟩
          ended := fun _ _ => rfl
          packets := fun hs => by simpa [hi, hangUp] using A.packets hs
          unstarted := A.unstarted }
  · cases h

/-- Once the receive thread waits or has ended, the channel of a started end is empty. -/
theorem settled (A : e.Account started incoming more) (h : e.turn more = none)
    (begun : e.phase ≠ .idle) : e.inbound = [] := by
  by_cases running : e.phase = .running
  · cases listening : e.listening with
    | true => exact (waiting h listening).2.2
    | false => exact (A.running running listening).1
  · exact A.ended begun running

theorem mono {more' : Bool} (A : e.Account started incoming more) (h : more' = true → more = true) :
    e.Account started incoming more' :=
  { A with
    running := fun hr hl => by
      refine ⟨(A.running hr hl).1, Bool.eq_false_iff.mpr fun hm => ?_⟩
      simpa [(A.running hr hl).2] using h hm }

theorem start (A : e.Account started incoming more) (idle : e.phase = .idle) :
    ({ e with phase := .running, listening := true } : End).Account true incoming more where
  idle h := by cases h
  begun _ := rfl
  running _ h := by cases h
  ended _ h := absurd rfl h
  packets _ := A.packets (.inl idle)
  unstarted h := by cases h

/-- A packet is accepted. -/
theorem take (A : e.Account started incoming more) (h : e.turn more = none)
    (holds : e.holdsReceiver = true) (packet : Octets) :
    ({ e with inbound := e.inbound ++ [packet] } : End).Account started (incoming ++ [packet])
      more := by
  have there : e.phase = .idle ∨ e.listening = true := by simpa [holdsReceiver] using holds
  exact {
    idle := A.idle
    begun := A.begun
    running := fun hr hl => by
      rcases there with hi | listening
      · cases hi.symm.trans hr
      · cases listening.symm.trans hl
    ended := fun hi hr => by
      rcases there with hi' | listening
      · exact absurd hi' hi
      · exact absurd (waiting h listening).1 hr
    packets := fun hs => by simp [← A.packets hs]
    unstarted := A.unstarted }

/-- A started end is stopped, or dropped. -/
theorem finish (A : e.Account started incoming more) (h : e.turn more = none) (phase : Phase)
    (begun : e.phase ≠ .idle) (ended : phase ≠ .idle ∧ phase ≠ .running) :
    ({ e with phase := phase } : End).Account started incoming more where
  idle h := absurd h ended.1
  begun h := absurd h ended.2
  running h := absurd h ended.2
  ended _ _ := A.settled h begun
  packets hs := A.packets (.inr (hs.resolve_left ended.1))
  unstarted := A.unstarted

/-- An end that was never started is dropped. -/
theorem abandon (A : e.Account false incoming more) :
    ({ e with phase := .dropped } : End).hangUp.Account false incoming more where
  idle _ := rfl
  begun h := by cases h
  running h := by cases h
  ended _ _ := rfl
  packets hs := by rcases hs with hs | hs <;> cases hs
  unstarted := A.unstarted

end Account
end End

/-! ## Runs -/

/-- The end on which a call is made. -/
def Action.caller : Action → Side
  | .start side | .transmit side _ | .stop side | .drop side => side

/-- The calls after which an end is over. -/
def Action.ends (side : Side) (action : Action) : Bool :=
  decide (action = .stop side) || decide (action = .drop side)

/-- The calls on the two ends up to now, with their answers. -/
abbrev Log := List (Action × Option (Except LinkError Nat))

namespace Log

/-- Whether a call was made. -/
def made (log : Log) (action : Action) : Bool := log.any (decide <| ·.1 = action)

/-- Whether an end was stopped or dropped. -/
def ended (log : Log) (side : Side) : Bool := log.any (·.1.ends side)

/-- The calls up to the moment when an end was stopped or dropped. -/
def upToEnd (log : Log) (side : Side) : Log :=
  log.takeWhile (! ·.1.ends side)

/-- The packets that were transmitted from an end successfully. -/
def sent (log : Log) (side : Side) : List Octets :=
  log.filterMap fun
    | (.transmit s packet, some (.ok _)) => if s = side then some packet else none
    | _ => none

/-- The packets that were accepted for an end. -/
def incoming (log : Log) (side : Side) : List Octets := (log.upToEnd side).sent side.other

def phase (log : Log) (side : Side) : Phase :=
  if log.made (.drop side) then .dropped
  else if log.made (.stop side) then .stopped
  else if log.made (.start side) then .running
  else .idle

variable {log : Log} {action : Action} {answer : Option (Except LinkError Nat)}

@[simp] theorem made_append (a : Action) :
    made (log ++ [(action, answer)]) a = (log.made a || decide (action = a)) := by
  simp [made]

@[simp] theorem ended_append :
    ended (log ++ [(action, answer)]) side = (log.ended side || action.ends side) := by
  simp [ended]

theorem ended_eq_made (log : Log) (side : Side) :
    log.ended side = (log.made (.stop side) || log.made (.drop side)) := by
  induction log with
  | nil => rfl
  | cons entry log ih =>
    simp only [ended, made, List.any_cons, Action.ends] at ih ⊢
    rw [ih]
    ac_rfl

theorem upToEnd_of_ended (h : log.ended side = true) (rest : Log) :
    upToEnd (log ++ rest) side = log.upToEnd side := by
  induction log with
  | nil => cases h
  | cons entry log ih =>
    simp only [upToEnd, ended, List.cons_append, List.takeWhile_cons, List.any_cons] at h ih ⊢
    cases goes : entry.1.ends side with
    | true => rfl
    | false => simpa [goes] using ih (by simpa [goes] using h)

theorem upToEnd_of_not_ended (h : log.ended side = false) (rest : Log) :
    upToEnd (log ++ rest) side = log ++ upToEnd rest side := by
  refine List.takeWhile_append_of_pos fun entry he => ?_
  simp only [ended, List.any_eq_false] at h
  simp [h entry he]

theorem sent_of_ends (h : action.ends side = true) (s : Side) : sent [(action, answer)] s = [] := by
  cases action with
  | start | transmit => simp [Action.ends] at h
  | stop | drop => rfl

/-- A call adds to the packets accepted for an end if it is a successful transmission of the other
end, and this end is not over. -/
theorem incoming_append :
    incoming (log ++ [(action, answer)]) side =
      log.incoming side ++ if log.ended side then [] else sent [(action, answer)] side.other := by
  cases h : log.ended side with
  | true => simp [incoming, upToEnd_of_ended h]
  | false =>
    have all := upToEnd_of_not_ended h []
    rw [List.append_nil] at all
    have last : (upToEnd [(action, answer)] side).sent side.other =
        sent [(action, answer)] side.other := by
      cases goes : action.ends side with
      | true =>
        rw [sent_of_ends goes]
        simp [upToEnd, goes, sent]
      | false => simp [upToEnd, goes]
    simp only [incoming, all, upToEnd_of_not_ended h, Bool.false_eq_true, if_false, ← last]
    simp [sent, upToEnd]

theorem phase_eq_idle :
    log.phase side = .idle ↔
      log.made (.start side) = false ∧ log.ended side = false := by
  rw [ended_eq_made]
  unfold phase
  cases log.made (.drop side) <;> cases log.made (.stop side) <;>
    cases log.made (.start side) <;> simp

theorem phase_eq_running :
    log.phase side = .running ↔
      log.made (.start side) = true ∧ log.ended side = false := by
  rw [ended_eq_made]
  unfold phase
  cases log.made (.drop side) <;> cases log.made (.stop side) <;>
    cases log.made (.start side) <;> simp

theorem phase_eq_stopped :
    log.phase side = .stopped ↔
      log.made (.stop side) = true ∧ log.made (.drop side) = false := by
  unfold phase
  cases log.made (.drop side) <;> cases log.made (.stop side) <;>
    cases log.made (.start side) <;> simp

theorem made_append_other {a : Action} (h : a.caller ≠ action.caller) :
    made (log ++ [(action, answer)]) a = log.made a := by
  have differ : action ≠ a := fun same => h (same ▸ rfl)
  simp [differ]

/-- A call on one end says nothing about how far the other end is. -/
theorem phase_append_other (h : side ≠ action.caller) :
    phase (log ++ [(action, answer)]) side = log.phase side := by
  have dropped : made (log ++ [(action, answer)]) (.drop side) = _ := made_append_other h
  have stopped : made (log ++ [(action, answer)]) (.stop side) = _ := made_append_other h
  have started : made (log ++ [(action, answer)]) (.start side) = _ := made_append_other h
  simp only [phase, dropped, stopped, started]

theorem incoming_append_none :
    incoming (log ++ [(action, none)]) side = log.incoming side := by
  rw [incoming_append]
  cases action <;> simp [sent]

theorem incoming_append_refused {s : Side} {packet : Octets} {why : LinkError} :
    incoming (log ++ [(.transmit s packet, some (.error why))]) side = log.incoming side := by
  rw [incoming_append]
  simp [sent]

theorem incoming_append_accepted {s : Side} {packet : Octets} {n : Nat} :
    incoming (log ++ [(.transmit s packet, some (.ok n))]) side =
      log.incoming side ++ if log.ended side = false ∧ s = side.other then [packet] else [] := by
  rw [incoming_append]
  by_cases from_other : s = side.other <;> cases log.ended side <;> simp [sent, from_other]

end Log

/-- Calls that are allowed, one after the other. After each of them the receive threads take turns
until both wait. -/
inductive Run : Log → Pair → Prop
  | fresh : Run [] .fresh
  | call {log : Log} {p q : Pair} {action : Action} (before : Run log p)
      (allowed : action.allowed p = true) (after : Settles (p.act action).2 q) :
      Run (log ++ [(action, (p.act action).1)]) q

/-- Both ends stand as the calls up to now leave them. -/
structure Tally (log : Log) (p : Pair) : Prop where
  phase (side : Side) : (p.get side).phase = log.phase side
  account (side : Side) : (p.get side).Account (log.made (.start side)) (log.incoming side)
    (p.get side.other).holdsSender

namespace Tally

variable {log : Log} {action : Action}

theorem fresh : Tally [] .fresh where
  phase side := by cases side <;> rfl
  account side := by cases side <;> exact End.Account.fresh

theorem turn (T : Tally log p) (h : p.turn side = some q) : Tally log q := by
  obtain ⟨e, he, rfl⟩ := Pair.turn_eq_some_iff.mp h
  have same := End.phase_turn he
  refine ⟨fun s => ?_, fun s => ?_⟩ <;> rcases side.eq_or_other s with rfl | rfl
  · simpa [same] using T.phase s
  · simpa using T.phase _
  · simpa using (T.account s).turn he
  · simpa [End.holdsSender, same] using T.account side.other

theorem settles (T : Tally log p) (h : Settles p q) : Tally log q := by
  induction h with
  | idle => exact T
  | turn h _ ih => exact ih (T.turn h)

/-- A call that changes its own end only. -/
theorem set (T : Tally log p)
    (phase : e.phase = Log.phase (log ++ [(action, none)]) action.caller)
    (account : e.Account (Log.made (log ++ [(action, none)]) (.start action.caller))
      (log.incoming action.caller) (p.get action.caller.other).holdsSender)
    (holds : e.holdsSender = true → (p.get action.caller).holdsSender = true) :
    Tally (log ++ [(action, none)]) (p.set action.caller e) := by
  have apart : action.caller.other ≠ action.caller := Side.other_ne _
  refine ⟨fun s => ?_, fun s => ?_⟩ <;> rcases action.caller.eq_or_other s with rfl | rfl
  · simpa using phase
  · simpa [Log.phase_append_other apart] using T.phase action.caller.other
  · simpa [Log.incoming_append_none] using account
  · have before : End.Account _ _ e.holdsSender _ :=
      (T.account action.caller.other).mono (by simpa using holds)
    have started : Log.made (log ++ [(action, none)]) (.start action.caller.other) = _ :=
      Log.made_append_other apart
    simpa only [Log.incoming_append_none, started, Pair.get_set_self, Pair.get_set_other,
      Side.other_other] using before

theorem idle_turn (idle : p.Idle) (side : Side) :
    (p.get side).turn (p.get side.other).holdsSender = none := by
  have waits := idle side
  cases h : (p.get side).turn (p.get side.other).holdsSender with
  | none => rfl
  | some e => simp [Pair.turn, h] at waits

/-- An end whose receiving half is there is not over. -/
theorem not_ended (T : Tally log p) (idle : p.Idle) (holds : (p.get side).holdsReceiver = true) :
    log.ended side = false := by
  have there : (p.get side).phase = .idle ∨ (p.get side).listening = true := by
    simpa [End.holdsReceiver] using holds
  rcases there with fresh | listening
  · exact (Log.phase_eq_idle.mp ((T.phase side).symm.trans fresh)).2
  · have running := (End.waiting (idle_turn idle side) listening).1
    exact (Log.phase_eq_running.mp ((T.phase side).symm.trans running)).2

/-- A transmission that is refused changes nothing. -/
theorem refuse (T : Tally log p) (side : Side) (packet : Octets) (why : LinkError) :
    Tally (log ++ [(.transmit side packet, some (.error why))]) p where
  phase s := by simpa [Log.phase] using T.phase s
  account s := by simpa [Log.incoming_append_refused] using T.account s

theorem transmit (T : Tally log p) (idle : p.Idle) (side : Side) (packet : Octets) :
    Tally (log ++ [(.transmit side packet, some (p.offer side packet).1)])
      (p.offer side packet).2 := by
  simp only [Pair.offer]
  split
  · exact T.refuse side packet _
  · split
    · exact T.refuse side packet _
    · next holds =>
      have holds : (p.get side.other).holdsReceiver = true := by simpa using holds
      refine ⟨fun s => ?_, fun s => ?_⟩ <;> rcases side.eq_or_other s with rfl | rfl
      · simpa [Log.phase] using T.phase s
      · simpa [Log.phase] using T.phase side.other
      · simpa [Log.incoming_append_accepted, End.holdsSender] using T.account s
      · have taken := (T.account side.other).take (idle_turn idle side.other) holds packet
        simpa [Log.incoming_append_accepted, T.not_ended idle holds] using taken

/-- A call keeps the account of both ends. -/
theorem act (T : Tally log p) (idle : p.Idle) (allowed : action.allowed p = true) :
    Tally (log ++ [(action, (p.act action).1)]) (p.act action).2 := by
  cases action with
  | transmit side packet => exact T.transmit idle side packet
  | start side =>
    have fresh : (p.get side).phase = .idle := by simpa [Action.allowed] using allowed
    have unmade := Log.phase_eq_idle.mp ((T.phase side).symm.trans fresh)
    refine T.set ?_ ?_ ?_
    · refine (Log.phase_eq_running.mpr ?_).symm
      simp [Action.caller, unmade.2, Action.ends]
    · simpa [Action.caller] using (T.account side).start fresh
    · simp [Action.caller, End.holdsSender, fresh]
  | stop side =>
    have begun : (p.get side).phase = .running ∨ (p.get side).phase = .stopped := by
      simpa [Action.allowed] using allowed
    have undropped : log.made (.drop side) = false := by
      rcases begun with running | stopped
      · have := (Log.phase_eq_running.mp ((T.phase side).symm.trans running)).2
        rw [Log.ended_eq_made, Bool.or_eq_false_iff] at this
        exact this.2
      · exact (Log.phase_eq_stopped.mp ((T.phase side).symm.trans stopped)).2
    refine T.set ?_ ?_ ?_
    · refine (Log.phase_eq_stopped.mpr ?_).symm
      simp [Action.caller, undropped]
    · have finished := (T.account side).finish (idle_turn idle side) .stopped
        (by rcases begun with h | h <;> simp [h]) ⟨by simp, by simp⟩
      simpa [Action.caller] using finished
    · simp [End.holdsSender]
  | drop side =>
    refine T.set ?_ ?_ ?_
    · simp [Log.phase, Action.caller, End.hangUp, apply_ite]
    · by_cases fresh : (p.get side).phase = .idle
      · have unmade := (Log.phase_eq_idle.mp ((T.phase side).symm.trans fresh)).1
        have account := T.account side
        rw [unmade] at account
        simpa [Action.caller, fresh, unmade] using account.abandon
      · have finished := (T.account side).finish (idle_turn idle side) .dropped fresh
          ⟨by simp, by simp⟩
        simpa [Action.caller, fresh] using finished
    · simp [End.holdsSender, End.hangUp, apply_ite]

/-- While the other end can transmit, the receiving half is there as long as the end is not over. -/
theorem holdsReceiver_of_not_ended (T : Tally log p) (lasts : log.ended side = false)
    (sender : (p.get side.other).holdsSender = true) : (p.get side).holdsReceiver = true := by
  have life : (p.get side).phase = .idle ∨ (p.get side).phase = .running := by
    rw [T.phase side, Log.phase_eq_idle, Log.phase_eq_running]
    cases log.made (.start side) <;> simp [lasts]
  rcases life with fresh | running
  · simp [End.holdsReceiver, fresh]
  · cases listening : (p.get side).listening with
    | true => simp [End.holdsReceiver, listening]
    | false => simp [((T.account side).running running listening).2] at sender

/-- A transmission of a started end is answered by how far both ends are. -/
theorem answer (T : Tally log p) (idle : p.Idle) {packet : Octets}
    (allowed : (Action.transmit side packet).allowed p = true) :
    (p.offer side packet).1 =
      if log.ended side = false ∧ log.ended side.other = false then .ok packet.length
      else if log.made (.stop side) = true then .error .shutdown
      else .error .disconnected := by
  have begun : (p.get side).phase = .running ∨ (p.get side).phase = .stopped := by
    simpa [Action.allowed] using allowed
  rcases begun with running | stopped
  · have sender : (p.get side).holdsSender = true := by simp [End.holdsSender, running]
    have here := (Log.phase_eq_running.mp ((T.phase side).symm.trans running)).2
    have unstopped : log.made (.stop side) = false := by
      rw [Log.ended_eq_made, Bool.or_eq_false_iff] at here
      exact here.1
    cases there : log.ended side.other with
    | false =>
      have receiver := T.holdsReceiver_of_not_ended there (by simpa using sender)
      simp [Pair.offer, sender, receiver, here]
    | true =>
      have gone : (p.get side.other).holdsReceiver = false :=
        Bool.eq_false_iff.mpr fun holds => by simp [T.not_ended idle holds] at there
      simp [Pair.offer, sender, gone, unstopped]
  · have made := (Log.phase_eq_stopped.mp ((T.phase side).symm.trans stopped)).1
    simp [Pair.offer, End.holdsSender, stopped, Log.ended_eq_made, made]

end Tally

namespace Run

variable {log : Log}

theorem isIdle (run : Run log p) : p.Idle := by
  cases run with
  | fresh => exact fun side => by cases side <;> rfl
  | call _ _ after => exact after.isIdle

theorem tally (run : Run log p) : Tally log p := by
  induction run with
  | fresh => exact .fresh
  | call before allowed after ih => exact (ih.act before.isIdle allowed).settles after

/-- Each call of a run was made in a state that the calls before it lead to. -/
theorem split {before after : Log} {action : Action} {answer : Option (Except LinkError Nat)}
    (run : Run log p) (h : log = before ++ (action, answer) :: after) :
    ∃ q, Run before q ∧ action.allowed q = true ∧ answer = (q.act action).1 := by
  induction run generalizing after with
  | fresh => simp at h
  | @call log p q last earlier allowed _ ih =>
    rcases List.eq_nil_or_concat after with rfl | ⟨rest, entry, rfl⟩
    · obtain ⟨rfl, same⟩ := List.append_inj' h rfl
      cases same
      exact ⟨p, earlier, allowed, rfl⟩
    · have h : log ++ [(last, (p.act last).1)] =
          (before ++ (action, answer) :: rest) ++ [entry] := by
        simpa using h
      exact ih (List.append_inj' h rfl).1

/-- **The loopback pair is a queue in each direction.** In every run, each end that was started has
received the packets that the other end transmitted successfully until this end was stopped or
dropped, in order and nothing else; an end that was not started has received nothing. A
transmission succeeds exactly if neither end is over; else it says whether the end itself was
stopped or there is nobody to send to. And whatever call is made next, the receive threads come to
wait again. -/
theorem fifo (run : Run log p) :
    (∀ side, (p.get side).received =
      if log.made (.start side) then (log.upToEnd side).sent side.other else []) ∧
    (∀ (before : Log) side packet answer after,
      log = before ++ (.transmit side packet, answer) :: after →
      answer = some (
        if before.ended side = false ∧ before.ended side.other = false then .ok packet.length
        else if before.made (.stop side) = true then .error .shutdown
        else .error .disconnected)) ∧
    ∀ action, action.allowed p = true →
      ∃ q, Settles (p.act action).2 q ∧ Run (log ++ [(action, (p.act action).1)]) q := by
  refine ⟨fun side => ?_, fun before side packet answer after h => ?_, fun action allowed => ?_⟩
  · have account := run.tally.account side
    cases started : log.made (.start side) with
    | false => exact account.unstarted started
    | true =>
      have begun : (p.get side).phase ≠ .idle := by
        rw [run.tally.phase side, ne_eq, Log.phase_eq_idle]
        simp [started]
      have all := account.packets (.inr started)
      rwa [account.settled (Tally.idle_turn run.isIdle side) begun, List.append_nil] at all
  · obtain ⟨q, earlier, allowed, rfl⟩ := run.split h
    exact congrArg some (earlier.tally.answer earlier.isIdle allowed)
  · exact ⟨_, Pair.settles_settle _, .call run allowed (Pair.settles_settle _)⟩

/-- A packet waits for its end while the sender goes away; then nobody is left to answer to. -/
theorem fifo_of_late_start :
    ∃ p, Run [(.start .a, none), (.transmit .a [0x01], some (.ok 1)), (.drop .a, none),
        (.start .b, none), (.transmit .b [0x02], some (.error .disconnected))] p ∧
      p.b.received = [[0x01]] ∧ p.a.received = [] := by
  have waits {p : Pair} (h : p.turn .a = none ∧ p.turn .b = none) : Settles p p :=
    .idle fun | .a => h.1 | .b => h.2
  have turn (side : Side) {p q r : Pair} (h : p.turn side = some q) (rest : Settles q r) :
    Settles p r := .turn h rest
  have call {log : Log} {p : Pair} (before : Run log p) (action : Action) {q : Pair}
    (allowed : action.allowed p = true) (after : Settles (p.act action).2 q) :
    Run (log ++ [(action, (p.act action).1)]) q := .call before allowed after
  have started := call .fresh (.start .a) rfl (waits ⟨rfl, rfl⟩)
  have transmitted := call started (.transmit .a [0x01]) rfl (waits ⟨rfl, rfl⟩)
  have dropped := call transmitted (.drop .a) rfl (turn .a rfl (waits ⟨rfl, rfl⟩))
  have late := call dropped (.start .b) rfl (turn .b rfl (turn .b rfl (waits ⟨rfl, rfl⟩)))
  have answered := call late (.transmit .b [0x02]) rfl (waits ⟨rfl, rfl⟩)
  exact ⟨_, answered, (fifo answered).1 .b, (fifo answered).1 .a⟩

end Run

end Loopback
end CommandLink
