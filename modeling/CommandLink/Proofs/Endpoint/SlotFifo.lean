import CommandLink.Proofs.Endpoint.SlotThreads

/-! # A slot is a queue for one item

Whatever the order in which threads come to a slot, the items that it has accepted are those that it
has handed out and the one inside, in that order (`Crowd.one_item_queue`). One equation for a turn
carries this (`Effect.conserves`).

A pop that waits remembers the number of cancellations when its wait began, and the log tells when
that was (`Visit.Traced`). So nothing but a cancellation since then ends the wait as cancelled. A
cancellation moves all counts by one, which no turn can tell (`Visit.turn_recounted`); so where no
pop waits, it changes nothing (`Crowd.log_recounted`). -/

namespace CommandLink
namespace Slot

section
variable {ι α : Type} {v v' : Visit α} {s s' : Slot α} {clock : Nat} {o : Turn α}

/-! ## What comes in and what goes out -/

/-- What was inside and what comes in is what goes out and what is inside then. -/
theorem Effect.conserves (E : Effect v s clock s' o) (t : ι) :
    s.item.toList ++ (o.event t v.request).accepted.toList =
      (o.event t v.request).handedOut.toList ++ s'.item.toList := by
  cases E with
  | store brings roomy empty =>
    rcases brings with asks | asks <;>
      simp [Turn.event, Event.accepted, Event.handedOut, asks, empty]
  | take pops inside => simp [Turn.event, Event.accepted, Event.handedOut, pops, inside]
  | clear asks => simp [Turn.event, Event.accepted, Event.handedOut, asks, Slot.clear]
  | close asks => simp [Turn.event, Event.accepted, Event.handedOut, asks, Slot.close]
  | _ => simp [Turn.event, Event.accepted, Event.handedOut, Slot.cancel, Slot.reopen]

/-- No item is overwritten. -/
theorem Effect.keeps {a : α} (E : Effect v s clock s' o) (inside : s.item = some a) (t : ι) :
    s'.item = some a ∨ s'.item = none ∧ (o.event t v.request).handedOut = some a := by
  cases E with
  | store _ _ empty => exact nomatch inside.symm.trans empty
  | take pops inside' =>
    cases inside.symm.trans inside'
    exact .inr ⟨rfl, by rw [pops]; rfl⟩
  | clear asks => exact .inr ⟨rfl, by rw [asks]; exact inside⟩
  | close asks => exact .inr ⟨rfl, by rw [asks]; exact inside⟩
  | _ => exact .inl inside

/-- A pop that gets nothing takes nothing. -/
theorem Effect.pop_still {limit : Option Duration} (E : Effect v s clock s' o)
    (pops : v.request = .pop limit) : (∃ a, o = .leaves (.taken a)) ∨ s' = s := by
  cases E with
  | take => exact .inl ⟨_, rfl⟩
  | refuse | full | release | expire | wait => exact .inr rfl
  | store brings => rcases brings with h | h <;> exact nomatch h.symm.trans pops
  | cancel h | clear h | close h | reopen h => exact nomatch h.symm.trans pops

/-! ## Cancellations -/

theorem Effect.cancels (E : Effect v s clock s' o) (t : ι) :
    s'.cancels = s.cancels + [o.event t v.request].countP Event.cancels := by
  cases E with
  | cancel asks => simp [Turn.event, Event.cancels, asks, Slot.cancel]
  | reopen asks => simp [Turn.event, Event.cancels, asks, Slot.reopen]
  | _ => simp [Turn.event, Event.cancels, Slot.clear, Slot.close]

theorem Effect.late (E : Effect v s clock s' (.leaves (.released .cancelled))) :
    s.cancels ≠ v.seen.getD s.cancels := by
  cases E with
  | release _ due =>
    rcases due with ⟨-, closed⟩ | ⟨late, -⟩
    · cases closed
    · exact late

theorem Effect.seen (E : Effect v s clock s' (.waits v')) (k : Nat) (h : v'.seen = some k) :
    v.seen = some k ∨ k = s.cancels := by
  cases E with
  | full => exact .inl h
  | wait => exact .inr (Option.some.inj h).symm

theorem exists_cancel {log : List (Event ι α)} (h : log.countP Event.cancels ≠ 0) :
    ∃ u, Event.left u .cancel .done ∈ log := by
  obtain ⟨e, mem, cancels⟩ := List.countP_pos_iff.mp (Nat.pos_of_ne_zero h)
  unfold Event.cancels at cancels
  split at cancels
  · exact ⟨_, mem⟩
  · cases cancels

/-- `later` is what has happened since thread `t` made its call. -/
structure Since (t : ι) (request : Request α) (log later : List (Event ι α)) : Prop where
  isSuffix : .entered t request :: later <:+ log
  last : ∀ r, .entered t r ∉ later

theorem Since.concat {t : ι} {request : Request α} {log later : List (Event ι α)} {e : Event ι α}
    (S : Since t request log later) (other : ∀ r, e ≠ .entered t r) :
    Since t request (log ++ [e]) (later ++ [e]) where
  isSuffix := by
    obtain ⟨earlier, rfl⟩ := S.isSuffix
    exact ⟨earlier, by simp⟩
  last r mem := by
    rcases mem_or_eq_of_mem_concat mem with mem | rfl
    · exact S.last r mem
    · exact other r rfl

/-- The log tells when the call was made and, of a pop that waits, when it found what it has seen:
the cancellations since then are those that the log tells. -/
def Visit.Traced (v : Visit α) (t : ι) (log : List (Event ι α)) (cancels : Nat) : Prop :=
  ∃ later, Since t v.request log later ∧ ∀ n, v.seen = some n → ∃ before after,
    later = before ++ .waited t :: after ∧ n + after.countP Event.cancels = cancels

namespace Visit.Traced

variable {t : ι} {log : List (Event ι α)} {n m : Nat}

theorem concat {e : Event ι α} (T : v.Traced t log n) (other : ∀ r, e ≠ .entered t r)
    (count : m = n + [e].countP Event.cancels) : v.Traced t (log ++ [e]) m := by
  obtain ⟨later, since, seen⟩ := T
  refine ⟨later ++ [e], since.concat other, fun k hk => ?_⟩
  obtain ⟨before, after, rfl, total⟩ := seen k hk
  refine ⟨before, after ++ [e], by simp, ?_⟩
  rw [List.countP_append, count, ← total, Nat.add_assoc]

theorem wait (T : v.Traced t log n) (same : v'.request = v.request)
    (seen : ∀ k, v'.seen = some k → v.seen = some k ∨ k = n) :
    v'.Traced t (log ++ [.waited t]) n := by
  obtain ⟨later, since, found⟩ := T
  refine ⟨later ++ [.waited t], same ▸ since.concat nofun, fun k hk => ?_⟩
  rcases seen k hk with old | rfl
  · obtain ⟨before, after, rfl, total⟩ := found k old
    exact ⟨before, after ++ [.waited t], by simp, by simpa [Event.cancels] using total⟩
  · exact ⟨later, [], rfl, rfl⟩

/-- A wait that is late was cancelled while it went on. -/
theorem cancelled (T : v.Traced t log n) (late : n ≠ v.seen.getD n) :
    ∃ before after u, Since t v.request log (before ++ .waited t :: after) ∧
      .left u .cancel .done ∈ after := by
  obtain ⟨later, since, seen⟩ := T
  cases hs : v.seen with
  | none => simp [hs] at late
  | some k =>
    obtain ⟨before, after, rfl, total⟩ := seen k hs
    have differ : n ≠ k := by simpa [hs] using late
    obtain ⟨u, mem⟩ := exists_cancel (show after.countP Event.cancels ≠ 0 by omega)
    exact ⟨before, after, u, since, mem⟩

end Visit.Traced

/-! ### One cancellation more -/

/-- The call, had the slot been cancelled once more before. -/
def Visit.recounted (v : Visit α) : Visit α := { v with seen := v.seen.map (· + 1) }

def Turn.recounted : Turn α → Turn α
  | .waits v => .waits v.recounted
  | .leaves reply => .leaves reply

theorem push_cancel (s : Slot α) (a : α) :
    s.cancel.push a = match s.push a with
      | .stored s' => .stored s'.cancel
      | .refused => .refused
      | .full => .full := by
  unfold push
  cases hc : s.closed <;> cases hi : s.item <;> simp [cancel, hc, hi]

theorem pop_cancel (s : Slot α) (seen : Nat) :
    s.cancel.pop (seen + 1) = match s.pop seen with
      | .taken a s' => .taken a s'.cancel
      | .released reason => .released reason
      | .waiting => .waiting := by
  unfold pop
  cases hi : s.item with
  | some a => simp [cancel, hi]
  | none =>
    cases hc : s.closed <;> by_cases late : s.cancels = seen <;> simp [cancel, hi, hc, late]

/-- No turn can tell how often the slot was cancelled before. -/
theorem Visit.turn_recounted (v : Visit α) (s : Slot α) (clock : Nat) :
    v.recounted.turn s.cancel clock =
      ((v.turn s clock).1.cancel, (v.turn s clock).2.recounted) := by
  rcases v with ⟨request, since, seen⟩
  cases request with
  | push a =>
    simp only [turn, recounted, push_cancel]
    cases s.push a <;> rfl
  | offer a =>
    simp only [turn, recounted, Slot.offer, push_cancel]
    cases s.push a <;> rfl
  | pop limit =>
    have count : (seen.map (· + 1)).getD s.cancel.cancels = seen.getD s.cancels + 1 := by
      cases seen <;> rfl
    cases popped : s.pop (seen.getD s.cancels) with
    | taken a s' => simp only [turn, recounted, count, pop_cancel, popped, Turn.recounted]
    | released reason => simp only [turn, recounted, count, pop_cancel, popped, Turn.recounted]
    | waiting =>
      simp only [turn, recounted, count, pop_cancel, popped]
      cases overdue since clock limit <;> rfl
  | _ => rfl

end

namespace Crowd

section
variable {ι α : Type} {c c' : Crowd ι α}

/-- The items that were accepted, in order. -/
def accepted (c : Crowd ι α) : List α := c.log.filterMap Event.accepted

/-- The items that have left the slot, in order. -/
def handedOut (c : Crowd ι α) : List α := c.log.filterMap Event.handedOut

theorem accepted_concat {e : Event ι α} (h : c'.log = c.log ++ [e]) :
    c'.accepted = c.accepted ++ e.accepted.toList := by
  rw [accepted, h, List.filterMap_append, filterMap_cons_toList, List.filterMap_nil,
    List.append_nil, accepted]

theorem handedOut_concat {e : Event ι α} (h : c'.log = c.log ++ [e]) :
    c'.handedOut = c.handedOut ++ e.handedOut.toList := by
  rw [handedOut, h, List.filterMap_append, filterMap_cons_toList, List.filterMap_nil,
    List.append_nil, handedOut]

/-- No pop waits. -/
def Unattended (c : Crowd ι α) : Prop := ∀ t v, c.visits t = some v → v.seen = none

/-- The same, had the slot been cancelled once more before. -/
def recounted (c : Crowd ι α) : Crowd ι α :=
  { c with slot := c.slot.cancel, visits := Option.map Visit.recounted ∘ c.visits }

theorem recounted_of_unattended (U : c.Unattended) :
    c.recounted = { c with slot := c.slot.cancel } := by
  have same : Option.map Visit.recounted ∘ c.visits = c.visits := by
    funext t
    cases hv : c.visits t with
    | none => simp [hv]
    | some v =>
      have unseen := U t v hv
      obtain ⟨request, since, seen⟩ := v
      cases unseen
      simp [hv, Visit.recounted]
  rw [recounted, same]

end

section
variable {ι α : Type} [DecidableEq ι] {c c' : Crowd ι α} {t : ι} {v : Visit α}
  {action : Action ι α} {actions : List (Action ι α)}

theorem turn_recounted (c : Crowd ι α) (t : ι) (v : Visit α) :
    c.recounted.turn t v.recounted = (c.turn t v).recounted := by
  simp only [turn, recounted, v.turn_recounted, Function.comp_update]
  cases (v.turn c.slot c.clock).2 <;> rfl

theorem act_recounted (c : Crowd ι α) (action : Action ι α) :
    c.recounted.act action = (c.act action).map recounted := by
  cases action with
  | enter t request =>
    cases hv : c.visits t with
    | some v => simp [act, recounted, hv]
    | none =>
      simp [act, recounted, hv, enter, Function.comp_update, Visit.recounted]
  | turn t =>
    cases hv : c.visits t with
    | none => simp [act, recounted, hv]
    | some v =>
      have visit : c.recounted.visits t = some v.recounted := by simp [recounted, hv]
      simp [act, hv, visit, turn_recounted]
  | pass time => rfl

theorem run_recounted (c : Crowd ι α) (actions : List (Action ι α)) :
    actions.foldlM act c.recounted = (actions.foldlM act c).map recounted := by
  induction actions generalizing c with
  | nil => rfl
  | cons action actions ih =>
    rw [List.foldlM_cons, List.foldlM_cons, act_recounted]
    cases c.act action with
    | none => rfl
    | some c' => exact ih c'

/-- A cancellation where no pop waits changes nothing of what happens from then on. -/
theorem log_recounted (U : c.Unattended) (later : List (Action ι α)) :
    (later.foldlM act { c with slot := c.slot.cancel }).map log = (later.foldlM act c).map log := by
  rw [← recounted_of_unattended U, run_recounted, Option.map_map]
  rfl

/-! ## Runs -/

/-- The log tells of every call under way. -/
def Traced (c : Crowd ι α) : Prop :=
  ∀ t v, c.visits t = some v → v.Traced t c.log c.slot.cancels

theorem traced_act (T : c.Traced) (h : c.act action = some c') : c'.Traced := by
  rcases act_cases h with ⟨t, request, free, rfl⟩ | ⟨t, v, -, visit, rfl⟩ | ⟨time, rfl⟩
  · intro u w visit'
    by_cases same : u = t
    · subst same
      rw [enter_visits_self] at visit'
      cases visit'
      exact ⟨[], ⟨⟨c.log, rfl⟩, nofun⟩, nofun⟩
    · rw [enter_visits_of_ne same] at visit'
      refine (T u w visit').concat (fun r e => ?_) rfl
      injection e with e
      exact same e.symm
  · have E := v.effect c.slot c.clock
    intro u w visit'
    by_cases same : u = t
    · subst same
      rw [turn_visits_self] at visit'
      cases turned : (v.turn c.slot c.clock).2 with
      | leaves reply =>
        rw [turned] at visit'
        cases visit'
      | waits v' =>
        rw [turned] at visit' E
        cases visit'
        obtain ⟨still, same, -⟩ := E.stuck
        rw [turn_log, turned, turn_slot, still]
        exact (T u v visit).wait same E.seen
    · rw [turn_visits_of_ne same] at visit'
      rw [turn_log]
      exact (T u w visit').concat (fun r => Turn.event_ne_entered _ t u v.request r) (E.cancels t)
  · exact T

theorem queue_act (Q : c.accepted = c.handedOut ++ c.slot.item.toList)
    (h : c.act action = some c') : c'.accepted = c'.handedOut ++ c'.slot.item.toList := by
  rcases act_cases h with ⟨t, request, -, rfl⟩ | ⟨t, v, -, -, rfl⟩ | ⟨time, rfl⟩
  · rw [accepted_concat rfl, handedOut_concat rfl]
    simpa [Event.accepted, Event.handedOut, enter] using Q
  · have E := v.effect c.slot c.clock
    rw [accepted_concat (turn_log c t v), handedOut_concat (turn_log c t v), Q, List.append_assoc,
      E.conserves t, List.append_assoc, turn_slot]
  · exact Q

theorem keeps_act {a : α} (inside : c.slot.item = some a) (h : c.act action = some c') :
    c'.slot.item = some a ∨ c'.slot.item = none ∧ c'.handedOut = c.handedOut ++ [a] := by
  rcases act_cases h with ⟨t, request, -, rfl⟩ | ⟨t, v, -, -, rfl⟩ | ⟨time, rfl⟩
  · exact .inl inside
  · refine ((v.effect c.slot c.clock).keeps inside t).imp_right fun ⟨empty, out⟩ => ⟨empty, ?_⟩
    rw [handedOut_concat (turn_log c t v), out, Option.toList_some]
  · exact .inl inside

theorem of_cancelled (h : c.act (.turn t) = some c')
    (log : c'.log = c.log ++ [.left t .cancel .done]) :
    c' = { c with
      slot := c.slot.cancel, visits := Function.update c.visits t none, log := c'.log } := by
  obtain ⟨v, visit, asks, -⟩ := of_left h log
  rw [act, visit, Option.map_some] at h
  cases Option.some.inj h
  obtain ⟨request, since, seen⟩ := v
  cases asks
  rfl

/-- **A slot is a queue for one item.** Any number of threads call on a new slot, and their turns
come in any order. The items that it has accepted are those that it has handed out and the one
inside, in that order, and an item inside stays there until it is handed out. A pop that waits, or
returns without an item, leaves the slot alone. If it returns as cancelled, then the slot was
cancelled while the pop waited. A cancellation that finds no pop waiting might as well have left the
slot alone: the same happens from then on. -/
theorem one_item_queue {clock : Nat} (run : actions.foldlM act (fresh clock) = some c) :
    c.accepted = c.handedOut ++ c.slot.item.toList ∧
    (∀ action c' a, c.act action = some c' → c.slot.item = some a →
      c'.slot.item = some a ∨ c'.slot.item = none ∧ c'.handedOut = c.handedOut ++ [a]) ∧
    ∀ t c', c.act (.turn t) = some c' →
      (c'.log = c.log ++ [.waited t] → c'.slot = c.slot) ∧
      (∀ limit reply, c'.log = c.log ++ [.left t (.pop limit) reply] →
        (∃ a, reply = .taken a) ∨ c'.slot = c.slot) ∧
      (∀ limit, c'.log = c.log ++ [.left t (.pop limit) (.released .cancelled)] →
        ∃ before after u, Since t (.pop limit) c.log (before ++ .waited t :: after) ∧
          .left u .cancel .done ∈ after) ∧
      (c'.log = c.log ++ [.left t .cancel .done] → c.Unattended → ∀ later : List (Action ι α),
        (later.foldlM act c').map log = (later.foldlM act { c' with slot := c.slot }).map log) := by
  have queue : c.accepted = c.handedOut ++ c.slot.item.toList :=
    foldlM_preserves queue_act run rfl
  have traced : c.Traced := foldlM_preserves traced_act run nofun
  refine ⟨queue, fun action c' a h inside => keeps_act inside h, fun t c' h =>
    ⟨fun log => ?_, fun limit reply log => ?_, fun limit log => ?_, fun log idle later => ?_⟩⟩
  · obtain ⟨v, v', -, -, E⟩ := of_waited h log
    exact E.stuck.1
  · obtain ⟨v, -, asks, E⟩ := of_left h log
    exact (E.pop_still asks).imp_left fun ⟨a, out⟩ => ⟨a, by injection out⟩
  · obtain ⟨v, visit, asks, E⟩ := of_left h log
    rw [← asks]
    exact (traced t v visit).cancelled E.late
  · have others : Unattended { c' with slot := c.slot } := by
      intro u v visit
      rw [of_cancelled h log] at visit
      by_cases same : u = t
      · subst same
        exact nomatch visit.symm.trans (Function.update_self ..)
      · exact idle u v ((Function.update_of_ne same ..).symm.trans visit)
    rw [← log_recounted others]
    rw [of_cancelled h log]

/-- Items come in by push and by offer, and go out by pop, close and clear. A cancellation finds
nobody, the next finds two pops. -/
def rush : List (Action (Fin 3) Nat) :=
  [.enter 0 (.push 1), .turn 0, .enter 1 (.push 2), .turn 1, .enter 2 .cancel, .turn 2,
    .enter 0 (.pop none), .turn 0, .turn 1, .enter 2 .close, .turn 2, .enter 1 (.push 4), .turn 1,
    .enter 2 .reopen, .turn 2, .enter 1 (.offer 3), .turn 1, .enter 2 .clear, .turn 2,
    .enter 0 (.pop none), .turn 0, .enter 1 (.pop (some (.ofMillis 1))), .turn 1,
    .enter 2 .cancel, .turn 2, .pass 1000000]

theorem one_item_queue_rush :
    ∃ c c' : Crowd (Fin 3) Nat, rush.foldlM act (fresh 0) = some c ∧
      c.accepted = [1, 2, 3] ∧ c.handedOut ++ c.slot.item.toList = [1, 2, 3] ∧
      c.act (.turn 1) = some c' ∧ c'.slot = c.slot ∧
      ∃ before after u, Since 1 (.pop (some (.ofMillis 1))) c.log (before ++ .waited 1 :: after) ∧
        .left u .cancel .done ∈ after := by
  obtain ⟨c, run, c', turn, log, accepted⟩ : ∃ c : Crowd (Fin 3) Nat,
      rush.foldlM act (fresh 0) = some c ∧ ∃ c', c.act (.turn 1) = some c' ∧
      c'.log = c.log ++ [.left 1 (.pop (some (.ofMillis 1))) (.released .cancelled)] ∧
      c.accepted = [1, 2, 3] := ⟨_, rfl, _, rfl, rfl, rfl⟩
  obtain ⟨queue, -, turns⟩ := one_item_queue run
  obtain ⟨-, still, cancelled, -⟩ := turns 1 c' turn
  refine ⟨c, c', run, accepted, queue.symm.trans accepted, turn, ?_, cancelled _ log⟩
  rcases still _ _ log with ⟨a, taken⟩ | still
  · cases taken
  · exact still

end

end Crowd

end Slot
end CommandLink
