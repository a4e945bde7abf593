import Mathlib.Logic.Function.Basic
import CommandLink.Duration
import CommandLink.Endpoint.Slot
import CommandLink.Proofs.Endpoint.Lists

/-! # Many threads at one slot

Any number of threads call on a slot. A call gets the slot's lock again and again until it returns:
a thread that waits looks again whenever it wakes up. `Crowd.act` is one step of one thread, and a
run is any sequence of such steps. What a turn under the lock can do is said once (`Effect`).

No step says who is woken, since a thread may wake up for no reason at all. Nothing is lost by
that: who is not woken would only wait again (`Crowd.waits_unless_notified`). Nor is anything
gained: a push that waits while the slot is closed gets its item back if it looks before the slot is
opened again (`Crowd.handedBack_while_closed`), and does not learn of the closing otherwise
(`Crowd.closing_unnoticed`). -/

namespace CommandLink
namespace Slot

/-! ## Calls on a slot -/

/-- What a thread asks of a slot. -/
inductive Request (α : Type)
  | push (item : α)
  | offer (item : α)
  /-- Waits for an item, for `limit` at most or without end. -/
  | pop (limit : Option Duration)
  | cancel
  | clear
  | close
  | reopen
  deriving DecidableEq

/-- What a call on a slot returns. -/
inductive Reply (α : Type)
  /-- The item is inside. -/
  | accepted
  | handedBack (item : α)
  | taken (item : α)
  | timedOut (limit : Duration)
  | released (reason : Release)
  /-- What was inside is not any more. -/
  | removed (item : Option α)
  | done
  deriving DecidableEq

/-- A call under way. -/
structure Visit (α : Type) where
  request : Request α
  /-- The time of the call. -/
  since : Nat
  /-- The cancellations when a pop began to wait, once it has begun. -/
  seen : Option Nat
  deriving DecidableEq

/-- What a turn under the lock comes to for the call. -/
inductive Turn (α : Type)
  | waits (visit : Visit α)
  | leaves (reply : Reply α)

/-- The limit of a wait since `since`, if it is over by now. -/
def overdue (since clock : Nat) (limit : Option Duration) : Option Duration :=
  limit.filter fun d => since + d.nanos ≤ clock

namespace Visit

/-- A turn of the call under the slot's lock. A pop looks at the clock last of all. -/
def turn (v : Visit α) (s : Slot α) (clock : Nat) : Slot α × Turn α :=
  match v.request with
  | .push a =>
    match s.push a with
    | .stored s' => (s', .leaves .accepted)
    | .refused => (s, .leaves (.handedBack a))
    | .full => (s, .waits v)
  | .offer a =>
    match s.offer a with
    | some s' => (s', .leaves .accepted)
    | none => (s, .leaves (.handedBack a))
  | .pop limit =>
    let seen := v.seen.getD s.cancels
    match s.pop seen with
    | .taken a s' => (s', .leaves (.taken a))
    | .released reason => (s, .leaves (.released reason))
    | .waiting =>
      match overdue v.since clock limit with
      | some d => (s, .leaves (.timedOut d))
      | none => (s, .waits { v with seen := some seen })
  | .cancel => (s.cancel, .leaves .done)
  | .clear => (s.clear, .leaves (.removed s.item))
  | .close => (s.close, .leaves (.removed s.item))
  | .reopen => (s.reopen, .leaves .done)

end Visit

/-- What a turn can come to: the slot after it, and the outcome. -/
inductive Effect (v : Visit α) (s : Slot α) (clock : Nat) : Slot α → Turn α → Prop
  | store {a : α} (brings : v.request = .push a ∨ v.request = .offer a)
      (roomy : s.closed = false) (empty : s.item = none) :
      Effect v s clock { s with item := some a } (.leaves .accepted)
  | refuse {a : α} (brings : v.request = .push a ∨ v.request = .offer a)
      (busy : s.closed = true ∨ v.request = .offer a ∧ s.item.isSome = true) :
      Effect v s clock s (.leaves (.handedBack a))
  | full {a : α} (pushes : v.request = .push a) (roomy : s.closed = false)
      (full : s.item.isSome = true) : Effect v s clock s (.waits v)
  | take {limit : Option Duration} {a : α} (pops : v.request = .pop limit)
      (inside : s.item = some a) : Effect v s clock { s with item := none } (.leaves (.taken a))
  | release {limit : Option Duration} {reason : Release} (pops : v.request = .pop limit)
      (due : s.closed = true ∧ reason = .closed ∨
        s.cancels ≠ v.seen.getD s.cancels ∧ reason = .cancelled) :
      Effect v s clock s (.leaves (.released reason))
  | expire {limit : Duration} (pops : v.request = .pop (some limit))
      (late : v.since + limit.nanos ≤ clock) : Effect v s clock s (.leaves (.timedOut limit))
  | wait {limit : Option Duration} (pops : v.request = .pop limit) (roomy : s.closed = false)
      (empty : s.item = none) (current : s.cancels = v.seen.getD s.cancels) :
      Effect v s clock s (.waits { v with seen := some s.cancels })
  | cancel (asks : v.request = .cancel) : Effect v s clock s.cancel (.leaves .done)
  | clear (asks : v.request = .clear) : Effect v s clock s.clear (.leaves (.removed s.item))
  | close (asks : v.request = .close) : Effect v s clock s.close (.leaves (.removed s.item))
  | reopen (asks : v.request = .reopen) : Effect v s clock s.reopen (.leaves .done)

theorem Visit.effect (v : Visit α) (s : Slot α) (clock : Nat) :
    Effect v s clock (v.turn s clock).1 (v.turn s clock).2 := by
  unfold turn
  split
  · next a asks =>
    split
    · next s' stored =>
      obtain ⟨roomy, empty, rfl⟩ := stored_of_push stored
      exact .store (.inl asks) roomy empty
    · next refused => exact .refuse (.inl asks) (.inl (closed_of_push refused))
    · next full =>
      obtain ⟨roomy, full⟩ := full_of_push full
      exact .full asks roomy full
  · next a asks =>
    split
    · next s' stored =>
      obtain ⟨roomy, empty, rfl⟩ := stored_of_offer stored
      exact .store (.inr asks) roomy empty
    · next none =>
      exact .refuse (.inr asks) ((busy_of_offer none).imp_right fun full => ⟨asks, full⟩)
  · next limit asks =>
    simp only
    split
    · next a s' taken =>
      obtain ⟨inside, rfl⟩ := taken_of_pop taken
      exact .take asks inside
    · next reason released => exact .release asks (released_of_pop released)
    · next waiting =>
      obtain ⟨empty, roomy, current⟩ := waiting_of_pop waiting
      split
      · next d expired =>
        obtain ⟨rfl, late⟩ := Option.filter_eq_some_iff.mp expired
        exact .expire asks (by simpa using late)
      · rw [← current]
        exact .wait asks roomy empty current
  · next asks => exact .cancel asks
  · next asks => exact .clear asks
  · next asks => exact .close asks
  · next asks => exact .reopen asks

/-! ## What happens at a slot -/

inductive Event (ι α : Type)
  | entered (thread : ι) (request : Request α)
  | waited (thread : ι)
  | left (thread : ι) (request : Request α) (reply : Reply α)
  deriving DecidableEq

namespace Event

/-- The item that a call has brought into the slot. -/
def accepted : Event ι α → Option α
  | .left _ (.push a) .accepted | .left _ (.offer a) .accepted => some a
  | _ => none

/-- The item that a call has got out of the slot. -/
def handedOut : Event ι α → Option α
  | .left _ (.pop _) (.taken a) => some a
  | .left _ .clear (.removed item) | .left _ .close (.removed item) => item
  | _ => none

/-- Whether this is a cancellation. -/
def cancels : Event ι α → Bool
  | .left _ .cancel .done => true
  | _ => false

/-- Whether the slot takes items again. -/
def reopens : Event ι α → Bool
  | .left _ .reopen .done => true
  | _ => false

/-- Whether the threads that wait are woken. -/
def notifies : Event ι α → Bool
  | .left _ _ .accepted | .left _ _ (.taken _) | .left _ _ (.removed _)
  | .left _ .cancel .done => true
  | _ => false

end Event

namespace Turn

/-- What the log says of a turn. -/
def event (t : ι) (request : Request α) : Turn α → Event ι α
  | .waits _ => .waited t
  | .leaves reply => .left t request reply

theorem event_ne_entered (o : Turn α) (t u : ι) (request r : Request α) :
    o.event t request ≠ .entered u r := by
  cases o <;> nofun

/-- What is left of the call. -/
def visit : Turn α → Option (Visit α)
  | .waits v => some v
  | .leaves _ => none

end Turn

/-! ## Waiting -/

/-- The call can only wait, until its time runs out. -/
structure Visit.Stuck (v : Visit α) (s : Slot α) : Prop where
  roomy : s.closed = false
  lacks : (∃ a, v.request = .push a) ∧ s.item.isSome = true ∨
    (∃ limit, v.request = .pop limit) ∧ s.item = none ∧ v.seen = some s.cancels

section
variable {ι α : Type} {v v' : Visit α} {s s' : Slot α} {clock : Nat} {o : Turn α}

theorem Effect.stuck (E : Effect v s clock s' (.waits v')) :
    s' = s ∧ v'.request = v.request ∧ v'.Stuck s := by
  cases E with
  | full pushes roomy full => exact ⟨rfl, rfl, roomy, .inl ⟨⟨_, pushes⟩, full⟩⟩
  | wait pops roomy empty _ => exact ⟨rfl, rfl, roomy, .inr ⟨⟨_, pops⟩, empty, rfl⟩⟩

theorem Visit.Stuck.turn (S : v.Stuck s) (E : Effect v s clock s' o) :
    (∃ v', o = .waits v') ∨
      ∃ limit, v.request = .pop (some limit) ∧ s' = s ∧ o = .leaves (.timedOut limit) := by
  cases E with
  | store brings _ empty =>
    rcases S.lacks with ⟨-, full⟩ | ⟨⟨limit, pops⟩, -⟩
    · simp [empty] at full
    · rcases brings with asks | asks <;> exact nomatch asks.symm.trans pops
  | refuse brings busy =>
    rcases S.lacks with ⟨⟨a, pushes⟩, -⟩ | ⟨⟨limit, pops⟩, -⟩
    · rcases busy with shut | ⟨offers, -⟩
      · exact nomatch shut.symm.trans S.roomy
      · exact nomatch offers.symm.trans pushes
    · rcases brings with asks | asks <;> exact nomatch asks.symm.trans pops
  | take pops inside =>
    rcases S.lacks with ⟨⟨a, pushes⟩, -⟩ | ⟨-, empty, -⟩
    · exact nomatch pushes.symm.trans pops
    · exact nomatch inside.symm.trans empty
  | release pops due =>
    rcases S.lacks with ⟨⟨a, pushes⟩, -⟩ | ⟨-, -, current⟩
    · exact nomatch pushes.symm.trans pops
    · rcases due with ⟨shut, -⟩ | ⟨late, -⟩
      · exact nomatch shut.symm.trans S.roomy
      · simp [current] at late
  | full | wait => exact .inl ⟨_, rfl⟩
  | expire pops late => exact .inr ⟨_, pops, rfl, rfl⟩
  | cancel asks | clear asks | close asks | reopen asks =>
    rcases S.lacks with ⟨⟨_, other⟩, -⟩ | ⟨⟨_, other⟩, -⟩ <;> exact nomatch asks.symm.trans other

/-- Whatever can end a wait wakes those who wait. To open a slot that is open already cannot. -/
theorem Effect.quiet (E : Effect v s clock s' o) (roomy : s.closed = false) (t : ι)
    (silent : (o.event t v.request).notifies = false) : s' = s := by
  cases E with
  | store | take | clear | close => simp [Turn.event, Event.notifies] at silent
  | cancel asks => simp [Turn.event, Event.notifies, asks] at silent
  | refuse | full | release | expire | wait => rfl
  | reopen => rw [Slot.reopen, ← roomy]

/-- Nobody but who asks for it opens a slot. -/
theorem Effect.closed (E : Effect v s clock s' o) (shut : s.closed = true) (t : ι)
    (stays : (o.event t v.request).reopens = false) : s'.closed = true := by
  cases E with
  | store _ roomy => exact nomatch shut.symm.trans roomy
  | reopen asks => simp [Turn.event, Event.reopens, asks] at stays
  | close => rfl
  | _ => exact shut

theorem Effect.closes (E : Effect v s clock s' o) (asks : v.request = .close) :
    s'.closed = true := by
  cases E with
  | close => rfl
  | store brings | refuse brings => rcases brings with h | h <;> exact nomatch h.symm.trans asks
  | full h | take h | release h | expire h | wait h | cancel h | clear h | reopen h =>
    exact nomatch h.symm.trans asks

theorem Effect.handedBack {a : α} (E : Effect v s clock s' o) (shut : s.closed = true)
    (pushes : v.request = .push a) : s' = s ∧ o = .leaves (.handedBack a) := by
  cases E with
  | refuse brings busy =>
    rcases brings with asks | asks <;> cases asks.symm.trans pushes
    exact ⟨rfl, rfl⟩
  | store _ roomy | full _ roomy => exact nomatch shut.symm.trans roomy
  | take asks | release asks | expire asks | wait asks | cancel asks | clear asks | close asks
  | reopen asks => exact nomatch asks.symm.trans pushes

end

/-! ## Threads -/

/-- A slot with the threads at it. -/
structure Crowd (ι α : Type) where
  slot : Slot α
  clock : Nat
  /-- The call that each thread has under way. -/
  visits : ι → Option (Visit α)
  log : List (Event ι α)

inductive Action (ι α : Type)
  /-- A thread makes a call. -/
  | enter (thread : ι) (request : Request α)
  /-- The call of a thread has a turn. -/
  | turn (thread : ι)
  | pass (time : Nat)

namespace Crowd

section
variable {ι α : Type} [DecidableEq ι]

/-- A new slot. -/
def fresh (clock : Nat) : Crowd ι α := ⟨.empty, clock, fun _ => none, []⟩

def enter (c : Crowd ι α) (t : ι) (request : Request α) : Crowd ι α :=
  { c with
    visits := Function.update c.visits t (some ⟨request, c.clock, none⟩)
    log := c.log ++ [.entered t request] }

def turn (c : Crowd ι α) (t : ι) (v : Visit α) : Crowd ι α :=
  let (slot, turn) := v.turn c.slot c.clock
  { c with
    slot := slot
    visits := Function.update c.visits t turn.visit
    log := c.log ++ [turn.event t v.request] }

/-- One step of one thread, or of time. -/
def act (c : Crowd ι α) : Action ι α → Option (Crowd ι α)
  | .enter t request => if (c.visits t).isNone then some (c.enter t request) else none
  | .turn t => (c.visits t).map (c.turn t)
  | .pass time => some { c with clock := c.clock + time }

variable {c c' d : Crowd ι α} {t u : ι} {v : Visit α} {action : Action ι α}
  {actions : List (Action ι α)}

theorem act_cases (h : c.act action = some c') :
    (∃ t request, c.visits t = none ∧ c' = c.enter t request) ∨
    (∃ t v, action = .turn t ∧ c.visits t = some v ∧ c' = c.turn t v) ∨
    ∃ time, c' = { c with clock := c.clock + time } := by
  cases action with
  | enter t request =>
    obtain ⟨free, eq⟩ := Option.ite_none_right_eq_some.mp h
    exact .inl ⟨t, request, by simpa using free, (Option.some.inj eq).symm⟩
  | turn t =>
    obtain ⟨v, visits, rfl⟩ := Option.map_eq_some_iff.mp h
    exact .inr (.inl ⟨t, v, rfl, visits, rfl⟩)
  | pass time => exact .inr (.inr ⟨time, (Option.some.inj h).symm⟩)

theorem enter_visits_of_ne (h : u ≠ t) (c : Crowd ι α) (request : Request α) :
    (c.enter t request).visits u = c.visits u := Function.update_of_ne h ..

theorem enter_visits_self (c : Crowd ι α) (t : ι) (request : Request α) :
    (c.enter t request).visits t = some ⟨request, c.clock, none⟩ := Function.update_self ..

@[simp] theorem turn_slot (c : Crowd ι α) (t : ι) (v : Visit α) :
    (c.turn t v).slot = (v.turn c.slot c.clock).1 := rfl

@[simp] theorem turn_log (c : Crowd ι α) (t : ι) (v : Visit α) :
    (c.turn t v).log = c.log ++ [(v.turn c.slot c.clock).2.event t v.request] := rfl

theorem turn_visits_of_ne (h : u ≠ t) (c : Crowd ι α) (v : Visit α) :
    (c.turn t v).visits u = c.visits u := Function.update_of_ne h ..

theorem turn_visits_self (c : Crowd ι α) (t : ι) (v : Visit α) :
    (c.turn t v).visits t = (v.turn c.slot c.clock).2.visit := Function.update_self ..

theorem act_log (h : c.act action = some c') : ∃ events, c'.log = c.log ++ events := by
  rcases act_cases h with ⟨t, request, -, rfl⟩ | ⟨t, v, -, -, rfl⟩ | ⟨time, rfl⟩
  · exact ⟨_, rfl⟩
  · exact ⟨_, rfl⟩
  · exact ⟨[], (List.append_nil _).symm⟩

/-- What the log says of a turn tells the call and what became of it. -/
theorem of_left {request : Request α} {reply : Reply α} (h : c.act (.turn t) = some c')
    (log : c'.log = c.log ++ [.left t request reply]) :
    ∃ v, c.visits t = some v ∧ v.request = request ∧
      Effect v c.slot c.clock c'.slot (.leaves reply) := by
  obtain ⟨v, visit, rfl⟩ := Option.map_eq_some_iff.mp h
  have E := v.effect c.slot c.clock
  rw [turn_log] at log
  have event := List.singleton_inj.mp (List.append_cancel_left log)
  cases turned : (v.turn c.slot c.clock).2 with
  | waits v' => exact nomatch (turned ▸ event)
  | leaves reply' =>
    rw [turned] at event E
    injection event with _ asks same
    subst same
    exact ⟨v, visit, asks, E⟩

theorem of_waited (h : c.act (.turn t) = some c') (log : c'.log = c.log ++ [.waited t]) :
    ∃ v v', c.visits t = some v ∧ c'.visits t = some v' ∧
      Effect v c.slot c.clock c'.slot (.waits v') := by
  obtain ⟨v, visit, rfl⟩ := Option.map_eq_some_iff.mp h
  have E := v.effect c.slot c.clock
  rw [turn_log] at log
  have event := List.singleton_inj.mp (List.append_cancel_left log)
  cases turned : (v.turn c.slot c.clock).2 with
  | leaves reply => exact nomatch (turned ▸ event)
  | waits v' =>
    refine ⟨v, v', visit, ?_, turned ▸ E⟩
    rw [turn_visits_self, turned]
    rfl

/-- What one step preserves unless something of a certain sort happens holds after any number of
steps during which nothing of that sort happens. -/
theorem unless_happened {p : Event ι α → Prop} {I : Crowd ι α → Prop}
    (step : ∀ {x x' action}, I x → x.act action = some x' →
      I x' ∨ ∃ e, p e ∧ x'.log = x.log ++ [e])
    (run : actions.foldlM act c = some d) (start : I c) {events : List (Event ι α)}
    (since : d.log = c.log ++ events) (none : ∀ e ∈ events, ¬ p e) : I d := by
  obtain ⟨events', since', held | ⟨e, mem, happened⟩⟩ :
      ∃ events, d.log = c.log ++ events ∧ (I d ∨ ∃ e ∈ events, p e) := by
    refine foldlM_preserves (I := fun x : Crowd ι α =>
      ∃ events, x.log = c.log ++ events ∧ (I x ∨ ∃ e ∈ events, p e)) ?_ run
      ⟨[], (List.append_nil _).symm, .inl start⟩
    rintro x action x' ⟨events, log, held | ⟨e, mem, happened⟩⟩ h
    · rcases step held h with held | ⟨e, happened, log'⟩
      · obtain ⟨more, log'⟩ := act_log h
        exact ⟨events ++ more, by rw [log', log, List.append_assoc], .inl held⟩
      · exact ⟨events ++ [e], by rw [log', log, List.append_assoc],
          .inr ⟨e, List.mem_append_right _ List.mem_cons_self, happened⟩⟩
    · obtain ⟨more, log'⟩ := act_log h
      exact ⟨events ++ more, by rw [log', log, List.append_assoc],
        .inr ⟨e, List.mem_append_left _ mem, happened⟩⟩
  · exact held
  · exact absurd happened (none e (List.append_cancel_left (since.symm.trans since') ▸ mem))

/-- Thread `t` waits, and its call can only wait. -/
def Stuck (c : Crowd ι α) (t : ι) : Prop := ∃ v, c.visits t = some v ∧ v.Stuck c.slot

theorem stuck_act (S : c.Stuck t) (h : c.act action = some c') :
    c'.Stuck t ∨ ∃ e, (e.notifies = true ∨ ∃ request reply, e = .left t request reply) ∧
      c'.log = c.log ++ [e] := by
  obtain ⟨v, visit, S⟩ := S
  rcases act_cases h with ⟨u, request, free, rfl⟩ | ⟨u, w, -, other, rfl⟩ | ⟨time, rfl⟩
  · have ne : t ≠ u := by
      rintro rfl
      exact nomatch visit.symm.trans free
    exact .inl ⟨v, (enter_visits_of_ne ne c request).trans visit, S⟩
  · have E := w.effect c.slot c.clock
    cases notified : ((w.turn c.slot c.clock).2.event u w.request).notifies with
    | true => exact .inr ⟨_, .inl notified, rfl⟩
    | false =>
      by_cases same : t = u
      · subst same
        cases visit.symm.trans other
        rcases S.turn E with ⟨w', waits⟩ | ⟨limit, pops, -, late⟩
        · rw [waits] at E
          obtain ⟨still, -, S'⟩ := E.stuck
          refine .inl ⟨w', ?_, ?_⟩
          · rw [turn_visits_self, waits]
            rfl
          · rw [turn_slot, still]
            exact S'
        · refine .inr ⟨.left t v.request (.timedOut limit), .inr ⟨_, _, rfl⟩, ?_⟩
          rw [turn_log, late]
          rfl
      · refine .inl ⟨v, (turn_visits_of_ne same c w).trans visit, ?_⟩
        rw [turn_slot, E.quiet S.roomy u notified]
        exact S
  · exact .inl ⟨v, visit, S⟩

/-- **No wake-up is missed.** A thread that had to wait, and that nobody has woken since, would find
nothing new: all it can do is wait again, or give up because its time has run out. -/
theorem waits_unless_notified (waited : c.act (.turn t) = some c')
    (log : c'.log = c.log ++ [.waited t]) (run : actions.foldlM act c' = some d)
    {events : List (Event ι α)} (since : d.log = c'.log ++ events)
    (quiet : ∀ e ∈ events, e.notifies = false)
    (stays : ∀ request reply, .left t request reply ∉ events) {d' : Crowd ι α}
    (again : d.act (.turn t) = some d') :
    d'.slot = d.slot ∧ (d'.log = d.log ++ [.waited t] ∨
      ∃ limit, d'.log = d.log ++ [.left t (.pop (some limit)) (.timedOut limit)]) := by
  have began : c'.Stuck t := by
    obtain ⟨v, v', -, waits, E⟩ := of_waited waited log
    obtain ⟨still, -, S⟩ := E.stuck
    exact ⟨v', waits, by rwa [still]⟩
  obtain ⟨v, visit, S⟩ := unless_happened stuck_act run began since (by
    rintro e mem (notified | ⟨request, reply, rfl⟩)
    · exact nomatch (quiet e mem).symm.trans notified
    · exact stays _ _ mem)
  obtain ⟨w, other, rfl⟩ := Option.map_eq_some_iff.mp again
  cases visit.symm.trans other
  have E := v.effect d.slot d.clock
  rw [turn_slot, turn_log]
  rcases S.turn E with ⟨v', waits⟩ | ⟨limit, pops, still, late⟩
  · rw [waits] at E ⊢
    exact ⟨E.stuck.1, .inl rfl⟩
  · rw [late, pops]
    exact ⟨still, .inr ⟨limit, rfl⟩⟩

/-! ### Closing -/

theorem closed_act (shut : c.slot.closed = true) (h : c.act action = some c') :
    c'.slot.closed = true ∨ ∃ e, e.reopens = true ∧ c'.log = c.log ++ [e] := by
  rcases act_cases h with ⟨t, request, -, rfl⟩ | ⟨t, v, -, -, rfl⟩ | ⟨time, rfl⟩
  · exact .inl shut
  · cases opened : ((v.turn c.slot c.clock).2.event t v.request).reopens with
    | true => exact .inr ⟨_, opened, rfl⟩
    | false => exact .inl ((v.effect c.slot c.clock).closed shut t opened)
  · exact .inl shut

/-- A push that looks at the slot after it was closed, and before it is opened again, gets its item
back. -/
theorem handedBack_while_closed {item : Option α} (closing : c.act (.turn u) = some c')
    (log : c'.log = c.log ++ [.left u .close (.removed item)])
    (run : actions.foldlM act c' = some d) {events : List (Event ι α)}
    (since : d.log = c'.log ++ events) (stays : ∀ e ∈ events, e.reopens = false) {a : α}
    (visit : d.visits t = some v) (pushes : v.request = .push a) :
    ∃ d', d.act (.turn t) = some d' ∧ d'.slot = d.slot ∧
      d'.log = d.log ++ [.left t (.push a) (.handedBack a)] := by
  have shut : c'.slot.closed = true := by
    obtain ⟨w, -, asks, E⟩ := of_left closing log
    exact E.closes asks
  have shut : d.slot.closed = true :=
    unless_happened closed_act run shut since fun e mem opened =>
      nomatch (stays e mem).symm.trans opened
  obtain ⟨still, back⟩ := (v.effect d.slot d.clock).handedBack shut pushes
  refine ⟨d.turn t v, by rw [act, visit]; rfl, still, ?_⟩
  rw [turn_log, back, pushes]
  rfl

end

/-- A push waits while the slot is closed and opened again, and then stores its item. -/
theorem closing_unnoticed :
    ∃ c : Crowd (Fin 3) Nat,
      ([.enter 0 (.push 1), .turn 0, .enter 1 (.push 2), .turn 1, .enter 2 .close, .turn 2,
        .enter 2 .reopen, .turn 2, .turn 1, .enter 0 (.pop none), .turn 0] :
          List (Action (Fin 3) Nat)).foldlM act (fresh 0) = some c ∧
      c.log = [.entered 0 (.push 1), .left 0 (.push 1) .accepted, .entered 1 (.push 2), .waited 1,
        .entered 2 .close, .left 2 .close (.removed (some 1)), .entered 2 .reopen,
        .left 2 .reopen .done, .left 1 (.push 2) .accepted, .entered 0 (.pop none),
        .left 0 (.pop none) (.taken 2)] :=
  ⟨_, rfl, rfl⟩

end Crowd

end Slot
end CommandLink
