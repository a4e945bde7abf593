import CommandLink.Proofs.Controller.Handle

/-! # Answers that come late

A request drops what its slot holds, sends its command and takes the next response that gets into
the slot. `Exchange` puts a controller, with requests made one after the other on a stream, opposite
a peer that answers the commands of the stream once each and in order, each after any time. Only the
name of a command ties a response to it. So what a request returns is the answer to a command of the
same name: its own, or an earlier one whose answer had not got to the slot when the request dropped
what was there (`Exchange.request_returns_awaited`). It is the request's own where there is no such
earlier command (`Exchange.request_returns_own`), but not in general
(`Exchange.late_answer_returned`). -/

namespace CommandLink
namespace Controller

variable {L : Type}

/-- The payload of a response answers that of a command: it carries the command's name. -/
def answersTo (command response : Octets) : Bool :=
  match CommandHeader.decode command, ResponseHeader.decode response with
  | .ok c, .ok r => c.id = r.id
  | _, _ => false

theorem name_of_answersTo {command : Octets} {header : ResponseHeader} {rest : Octets}
    (h : answersTo command (header.encode ++ rest) = true) :
    CommandHeader.decode command = .ok ⟨header.id⟩ := by
  unfold answersTo at h
  rw [ResponseHeader.decode_encode_append] at h
  split at h
  · next c r hc hr =>
    cases hr
    have same : c.id = header.id := of_decide_eq_true h
    rw [hc, ← same]
  · cases h

/-- A controller opposite its peer: `arrived` is what has come from the peer so far. -/
structure Exchange (L : Type) where
  host : Host L
  arrived : List Octets

namespace Exchange

inductive Move
  | host (action : Action)
  /-- The next frame comes from the peer. -/
  | arrive (octets : Octets)

def ofController (c : Controller L) : Exchange L := ⟨.ofController c, []⟩

/-- The responses on a stream that have arrived. -/
def answers (stream : StreamId) (e : Exchange L) : List Octets :=
  e.arrived.filterMap (payloadIn .response stream)

/-- How many answers on a stream the receive path is done with. -/
def settled (stream : StreamId) (e : Exchange L) : Nat :=
  (e.host.repliesOn e.arrived stream).length - (e.host.endpoint.heldOn stream).length

variable [FrameLink L]

/-- The commands on a stream that have left, by their payloads. -/
def commands (stream : StreamId) (e : Exchange L) : List Octets :=
  e.host.endpoint.commandsOn stream

/-- The peer answers the commands of a stream in order; for the rest it sends what it likes. -/
def admits (stream : StreamId) (e : Exchange L) (octets : Octets) : Bool :=
  (payloadIn .response stream octets).all fun response =>
    (e.commands stream)[(e.answers stream).length]?.any (answersTo · response)

/-- One move, when the requests on a stream are made one after the other. -/
def act (stream : StreamId) (e : Exchange L) : Move → Option (Exchange L)
  | .host action =>
    if e.host.handles stream action then
      (e.host.act e.arrived action).map fun host => { e with host := host }
    else none
  | .arrive octets =>
    if e.admits stream octets then some { e with arrived := e.arrived ++ [octets] } else none

def perform (stream : StreamId) (e : Exchange L) (moves : List Move) : Option (Exchange L) :=
  moves.foldlM (act stream) e

/-- A command of this name has been sent on a stream, and its answer may still get into the slot. -/
def Awaits (stream : StreamId) (name : CommandId) (e : Exchange L) : Prop :=
  ∃ j command, e.settled stream ≤ j ∧ (e.commands stream)[j]? = some command ∧
    CommandHeader.decode command = .ok ⟨name⟩

end Exchange

/-- Nobody has used a stream yet, and the callback that runs when the agent starts does not. -/
structure Unused [FrameLink L] (c : Controller L) (stream : StreamId) : Prop where
  commands : c.commandsOn stream = []
  receiving : c.receiving = none
  hook : ∀ command, c.hookCommand = some command → command.stream ≠ stream

namespace Exchange

variable [FrameLink L] {e e' : Exchange L} {stream : StreamId} {move : Move} {action : Action}

theorem act_host (h : e.act stream (.host action) = some e') :
    e.host.handles stream action = true ∧
      ∃ host, e.host.act e.arrived action = some host ∧ e' = { e with host := host } := by
  simp only [act, Option.ite_none_right_eq_some] at h
  obtain ⟨ok, h⟩ := h
  obtain ⟨host, ha, rfl⟩ := Option.map_eq_some_iff.mp h
  exact ⟨ok, host, ha, rfl⟩

theorem act_arrive {octets : Octets} (h : e.act stream (.arrive octets) = some e') :
    e.admits stream octets = true ∧ e' = { e with arrived := e.arrived ++ [octets] } := by
  simp only [act, Option.ite_none_right_eq_some, Option.some.injEq] at h
  exact ⟨h.1, h.2.symm⟩

omit [FrameLink L] in
theorem answers_arrive (e : Exchange L) (octets : Octets) :
    answers stream { e with arrived := e.arrived ++ [octets] } =
      e.answers stream ++ (payloadIn .response stream octets).toList := by
  rw [answers, List.filterMap_append]
  cases h : payloadIn .response stream octets <;> simp [answers, h]

theorem commands_act (h : e.act stream move = some e') :
    e.commands stream <+: e'.commands stream := by
  cases move with
  | host action =>
    obtain ⟨-, host, ha, rfl⟩ := act_host h
    exact Host.commandsOn_prefix ha stream
  | arrive octets =>
    obtain ⟨-, rfl⟩ := act_arrive h
    exact List.prefix_refl _

theorem answers_act (h : e.act stream move = some e') :
    e.answers stream <+: e'.answers stream := by
  cases move with
  | host action =>
    obtain ⟨-, host, -, rfl⟩ := act_host h
    exact List.prefix_refl _
  | arrive octets =>
    obtain ⟨-, rfl⟩ := act_arrive h
    exact ⟨_, (answers_arrive e octets).symm⟩

/-! ## What always holds -/

/-- The peer has answered commands that were sent, each with its name; the receive path is at most
one answer behind what it has taken; at most one call is busy on the stream. -/
structure Sound (stream : StreamId) (e : Exchange L) : Prop where
  hook : ∀ command, e.host.endpoint.hookCommand = some command → command.stream ≠ stream
  heard : e.host.heard ≤ e.arrived.length
  held : e.host.endpoint.heldOn stream <:+ e.host.repliesOn e.arrived stream
  single : ∀ a b, e.host.BusyAt stream a → e.host.BusyAt stream b → a = b
  answered : ∀ (j : Nat) (response : Octets), (e.answers stream)[j]? = some response →
    ∃ command, (e.commands stream)[j]? = some command ∧ answersTo command response = true

theorem Sound.ofController {c : Controller L} (unused : c.Unused stream) :
    (ofController c).Sound stream where
  hook := unused.hook
  heard := Nat.le_refl _
  held := by
    show c.heldOn stream <:+ _
    rw [heldOn, unused.receiving]
    exact List.nil_suffix
  single a b busy := by
    obtain ⟨t, ht, -⟩ := busy
    cases ht
  answered j response h := by cases h

/-- What has been heard does not change with what arrives. -/
theorem Sound.repliesOn_arrive (S : e.Sound stream) (octets : Octets) :
    e.host.repliesOn (e.arrived ++ [octets]) stream = e.host.repliesOn e.arrived stream := by
  rw [Host.repliesOn, List.take_append_of_le_length S.heard, Host.repliesOn]

theorem heard_act {h h' : Host L} {incoming : List Octets} (le : h.heard ≤ incoming.length)
    (ha : h.act incoming action = some h') : h'.heard ≤ incoming.length := by
  cases Host.act_effect ha with
  | spoke attempts posts speech kept tried heard => exact heard ▸ le
  | heard octets next free eq => exact eq ▸ lt_length_of_getElem? next
  | passed c deliver eq => exact eq ▸ le

theorem Sound.act (S : e.Sound stream) (h : e.act stream move = some e') : e'.Sound stream := by
  cases move with
  | host action =>
    have commands := commands_act h
    obtain ⟨ok, host, ha, rfl⟩ := act_host h
    obtain ⟨new, replies, held, -⟩ := Host.waiting_act ha stream
    refine ⟨?_, heard_act S.heard ha, ?_, fun a b busy busy' => ?_, fun j response hj => ?_⟩
    · rw [Host.hookCommand_act ha]
      exact S.hook
    · rw [replies]
      obtain ⟨front, eq⟩ := S.held
      rw [← eq, List.append_assoc]
      exact held.trans (List.suffix_append _ _)
    · rcases Host.busyAt_act ha ok busy with before | ⟨rfl, none⟩ <;>
        rcases Host.busyAt_act ha ok busy' with before' | ⟨rfl, none'⟩
      · exact S.single a b before before'
      · exact absurd before (none' a)
      · exact absurd before' (none b)
      · rfl
    · obtain ⟨command, hc, answers⟩ := S.answered j response hj
      exact ⟨command, getElem?_of_isPrefix commands hc, answers⟩
  | arrive octets =>
    obtain ⟨ok, rfl⟩ := act_arrive h
    refine ⟨S.hook, ?_, ?_, S.single, fun j response hj => ?_⟩
    · rw [List.length_append]
      exact Nat.le_add_right_of_le S.heard
    · rw [S.repliesOn_arrive octets]
      exact S.held
    · rw [answers_arrive] at hj
      cases found : payloadIn .response stream octets with
      | none =>
        rw [found, Option.toList_none, List.append_nil] at hj
        exact S.answered j response hj
      | some body =>
        rw [found] at hj
        rcases getElem?_concat_cases hj with hj | ⟨rfl, rfl⟩
        · exact S.answered j response hj
        · simp only [admits, found, Option.all_some, Option.any_eq_true] at ok
          exact ok

theorem Sound.perform (S : e.Sound stream) {moves : List Move}
    (run : e.perform stream moves = some e') : e'.Sound stream :=
  foldlM_preserves (fun S h => S.act h) run S

theorem commands_perform {moves : List Move} (run : e.perform stream moves = some e') :
    e.commands stream <+: e'.commands stream :=
  foldlM_preserves (I := fun e₁ => e.commands stream <+: e₁.commands stream)
    (fun before h => before.trans (commands_act h)) run (List.prefix_refl _)

/-- There are no more answers than commands. -/
theorem Sound.lt_of_answer (S : e.Sound stream) {j : Nat} {response : Octets}
    (h : (e.answers stream)[j]? = some response) : j < (e.commands stream).length := by
  obtain ⟨command, hc, -⟩ := S.answered j response h
  exact lt_length_of_getElem? hc

/-! ## What waits on the stream after a request has begun -/

/-- What waits on the stream for a call are answers that came after the first `past`. -/
structure Recent (stream : StreamId) (past : Nat) (e : Exchange L) : Prop where
  past_le : past ≤ (e.host.repliesOn e.arrived stream).length
  waiting : ∀ response ∈ e.host.endpoint.waitingOn stream,
    ∃ j, past ≤ j ∧ (e.answers stream)[j]? = some response

omit [FrameLink L] in
theorem repliesOn_among (e : Exchange L) (stream : StreamId) :
    e.host.repliesOn e.arrived stream <+: e.answers stream :=
  (List.take_prefix _ _).filterMap _

theorem Recent.act {past : Nat} (S : e.Sound stream) (R : e.Recent stream past)
    (h : e.act stream move = some e') : e'.Recent stream past := by
  have later := answers_act h
  cases move with
  | host action =>
    obtain ⟨-, host, ha, rfl⟩ := act_host h
    obtain ⟨new, replies, -, waiting⟩ := Host.waiting_act ha stream
    refine ⟨?_, fun response hr => ?_⟩
    · rw [replies, List.length_append]
      exact Nat.le_add_right_of_le R.past_le
    · rcases waiting response hr with hr | hr
      · exact R.waiting response hr
      · have taken : new <:+ host.repliesOn e.arrived stream :=
          replies ▸ List.suffix_append _ _
        obtain ⟨j, hj, found⟩ := getElem?_of_mem_suffix taken hr
        rw [replies, List.length_append] at hj
        exact ⟨j, by have := R.past_le; omega,
          getElem?_of_isPrefix (repliesOn_among ⟨host, e.arrived⟩ stream) found⟩
  | arrive octets =>
    obtain ⟨-, rfl⟩ := act_arrive h
    refine ⟨?_, fun response hr => ?_⟩
    · rw [S.repliesOn_arrive octets]
      exact R.past_le
    · obtain ⟨j, hj, found⟩ := R.waiting response hr
      exact ⟨j, hj, getElem?_of_isPrefix later found⟩

/-! ## A request -/

/-- How far a request has come since it dropped what its slot held: `sent` are the commands that had
left by then, and the answers from number `past` on were still to get into the slot. -/
inductive Pursuit (command : Command) (sent : List Octets) (past : Nat) (e : Exchange L) :
    Thread → Prop
  | transmit {errand : Errand} {timeout : Option Duration}
      (commands : e.commands command.stream = sent) (recent : e.Recent command.stream past) :
      Pursuit command sent past e ⟨errand, .transmit command timeout, none⟩
  | listen {errand : Errand} {timeout : Option Duration} {seen : Option Nat}
      (commands : e.commands command.stream = sent ++ [command.body])
      (recent : e.Recent command.stream past) :
      Pursuit command sent past e
        ⟨errand, .listen ⟨command.stream, command.id, none, timeout, seen⟩, none⟩
  | failed {errand : Errand} {call : Call} {error : EndpointError} :
      Pursuit command sent past e ⟨errand, call, some (.error error)⟩
  | returned {errand : Errand} {call : Call} {p : Octets}
      (own : (e.commands command.stream)[sent.length]? = some command.body) {j : Nat}
      (recent : past ≤ j) (least : j ≤ sent.length)
      (answer : (e.answers command.stream)[j]? =
        some (ResponseHeader.encode ⟨command.id, 0⟩ ++ p)) :
      Pursuit command sent past e ⟨errand, call, some (.ok (.payload p))⟩

variable {command : Command} {sent : List Octets} {past : Nat} {i : Nat} {t : Thread}

/-- A request that does not go on stays where it is, as long as no other command is sent. -/
theorem Pursuit.stay (P : Pursuit command sent past e t) (S : e.Sound command.stream)
    (h : e.act command.stream move = some e')
    (still : t.result = none → e'.commands command.stream = e.commands command.stream) :
    Pursuit command sent past e' t := by
  cases P with
  | transmit commands recent => exact .transmit ((still rfl).trans commands) (recent.act S h)
  | listen commands recent => exact .listen ((still rfl).trans commands) (recent.act S h)
  | failed => exact .failed
  | returned own recent least answer =>
    exact .returned (getElem?_of_isPrefix (commands_act h) own) recent least
      (getElem?_of_isPrefix (answers_act h) answer)

omit [FrameLink L] in
/-- What a wait reads as a payload heads it with the name it expects and success. -/
theorem read_ok {wait : Listening} (any : wait.capacity = none) {body p : Octets}
    (h : wait.read body = .ok p) : body = ResponseHeader.encode ⟨wait.expected, 0⟩ ++ p := by
  unfold Listening.read at h
  split at h
  · cases h
  · next header hd =>
    rw [any] at h
    simp only at h
    split at h
    · cases h
    · next result =>
      split at h
      · cases h
      · next id =>
        cases h
        unfold ResponseHeader.decode at hd
        split at hd
        · cases hd
          simp only [ne_eq, not_not] at result id
          rw [← id, ← result]
          rfl
        · cases hd

/-- What a request reads from its slot is one of the answers that it may get. -/
theorem answer_of_read (S : e.Sound command.stream)
    (commands : e.commands command.stream = sent ++ [command.body])
    (recent : e.Recent command.stream past) {response : Octets}
    (hi : (e.host.endpoint.slots.get command.stream).item = some response)
    {timeout : Option Duration} {seen : Option Nat} {p : Octets}
    (hr : Listening.read ⟨command.stream, command.id, none, timeout, seen⟩ response = .ok p) :
    ∃ j, past ≤ j ∧ j ≤ sent.length ∧
      (e.answers command.stream)[j]? = some (ResponseHeader.encode ⟨command.id, 0⟩ ++ p) := by
  obtain ⟨j, hj, found⟩ := recent.waiting response
    (List.mem_append_left _ (Option.mem_toList.mpr hi))
  have below := S.lt_of_answer found
  rw [commands, List.length_append, List.length_singleton] at below
  rw [read_ok rfl hr] at found
  exact ⟨j, hj, Nat.le_of_lt_succ below, found⟩

theorem act_advance (ht : e.host.threads[i]? = some t)
    (h : e.act stream (.host (.advance i)) = some e') :
    t.result = none ∧ e'.host.endpoint = (t.call.step e.host.endpoint).1 ∧
      ∃ u, t.take (t.call.step e.host.endpoint).2 = some u ∧ e'.host.threads[i]? = some u := by
  obtain ⟨-, host, ha, rfl⟩ := act_host h
  obtain ⟨t', u, ht', free, htake, rfl⟩ := Host.act_advance ha
  rw [ht] at ht'
  cases ht'
  exact ⟨free, rfl, u, htake, List.getElem?_set_self (lt_length_of_getElem? ht)⟩

/-- The request goes on. -/
theorem Pursuit.advance (P : Pursuit command sent past e t) (S : e.Sound command.stream)
    (ht : e.host.threads[i]? = some t)
    (h : e.act command.stream (.host (.advance i)) = some e') :
    ∃ u, e'.host.threads[i]? = some u ∧ Pursuit command sent past e' u := by
  obtain ⟨free, endpoint, u, htake, hu⟩ := act_advance ht h
  refine ⟨u, hu, ?_⟩
  cases P with
  | @transmit errand timeout commands recent =>
    rcases Call.transmit_cases e.host.endpoint command timeout with
      ⟨error, hstep⟩ | ⟨hstep, left⟩ <;> rw [hstep] at htake <;> cases htake
    · exact .failed
    · refine .listen ?_ (recent.act S h)
      rw [Exchange.commands, endpoint, left, ← commands, Exchange.commands]
  | @listen errand timeout seen commands recent =>
    have same : e'.commands command.stream = sent ++ [command.body] := by
      rw [Exchange.commands, endpoint, Call.commandsOn_step, ← commands, Exchange.commands]
      exact List.append_nil _
    rcases Call.listen_cases e.host.endpoint
        ⟨command.stream, command.id, none, timeout, seen⟩ with
      ⟨response, hi, hstep⟩ | ⟨error, hstep⟩ | hstep | ⟨seen', hstep⟩ <;>
      rw [hstep] at htake <;> cases htake
    · cases hr : Listening.read ⟨command.stream, command.id, none, timeout, seen⟩ response with
      | error error => exact .failed
      | ok p =>
        obtain ⟨j, hj, least, found⟩ := answer_of_read S commands recent hi hr
        refine .returned ?_ hj least (getElem?_of_isPrefix (answers_act h) found)
        rw [same, List.getElem?_concat_length]
    · exact .failed
    · exact .listen same (recent.act S h)
  | failed => cases free
  | returned => cases free

theorem Pursuit.busyAt (P : Pursuit command sent past e t) (ht : e.host.threads[i]? = some t)
    (free : t.result = none) : e.host.BusyAt command.stream i := by
  refine ⟨t, ht, free, ?_⟩
  cases P with
  | transmit => rfl
  | listen => rfl
  | failed => cases free
  | returned => cases free

/-- The time of the request runs out. -/
theorem Pursuit.expire (P : Pursuit command sent past e t) (ht : e.host.threads[i]? = some t)
    (h : e.act command.stream (.host (.expire i)) = some e') :
    ∃ u, e'.host.threads[i]? = some u ∧ Pursuit command sent past e' u := by
  obtain ⟨-, host, ha, rfl⟩ := act_host h
  obtain ⟨t', limit, u, ht', free, hl, htake, rfl⟩ := Host.act_expire ha
  rw [ht] at ht'
  cases ht'
  refine ⟨u, List.getElem?_set_self (lt_length_of_getElem? ht), ?_⟩
  cases P with
  | transmit => cases hl
  | listen =>
    cases htake
    exact .failed
  | failed => cases free
  | returned => cases free

/-- Whatever happens, the request comes to what `Pursuit` says. -/
theorem Pursuit.act (P : Pursuit command sent past e t) (S : e.Sound command.stream)
    (ht : e.host.threads[i]? = some t) (h : e.act command.stream move = some e') :
    ∃ u, e'.host.threads[i]? = some u ∧ Pursuit command sent past e' u := by
  cases move with
  | arrive octets =>
    refine ⟨t, ?_, P.stay S h fun _ => ?_⟩ <;> obtain ⟨-, rfl⟩ := act_arrive h
    · exact ht
    · rfl
  | host action =>
    by_cases goes : action = .advance i
    · exact P.advance S ht (goes ▸ h)
    by_cases ends : action = .expire i
    · exact P.expire ht (ends ▸ h)
    -- the step is another caller's, who is not busy on the stream while the request is
    refine ⟨t, ?_, P.stay S h fun free => ?_⟩ <;> obtain ⟨ok, host, ha, rfl⟩ := act_host h
    · exact Host.thread_act ha ht (.inr ⟨goes, ends⟩)
    · refine Host.commandsOn_act ha ok S.hook fun j e busy => goes ?_
      rw [e, S.single j i busy (P.busyAt ht free)]

theorem Pursuit.perform (S : e.Sound command.stream) (ht : e.host.threads[i]? = some t)
    (P : Pursuit command sent past e t) {moves : List Move}
    (run : e.perform command.stream moves = some e') :
    ∃ u, e'.host.threads[i]? = some u ∧ Pursuit command sent past e' u := by
  have kept := foldlM_preserves
    (I := fun e => e.Sound command.stream ∧ ∃ t, e.host.threads[i]? = some t ∧
      Pursuit command sent past e t)
    (fun ⟨S, t, ht, P⟩ h => ⟨S.act h, P.act S ht h⟩) run ⟨S, t, ht, P⟩
  exact kept.2

/-- The first step of a request drops what its slot holds. -/
theorem Pursuit.start {timeout : Option Duration} (S : e.Sound command.stream)
    (ht : e.host.threads[i]? = some (.ofErrand (.request command timeout)))
    (h : e.act command.stream (.host (.advance i)) = some e') :
    ∃ u, e'.host.threads[i]? = some u ∧
      Pursuit command (e.commands command.stream) (e.settled command.stream) e' u := by
  obtain ⟨-, host, ha, rfl⟩ := act_host h
  obtain ⟨t, u, ht', free, htake, rfl⟩ := Host.act_advance ha
  rw [ht] at ht'
  cases ht'
  cases htake
  refine ⟨_, List.getElem?_set_self (lt_length_of_getElem? ht), .transmit rfl ⟨?_, ?_⟩⟩
  · exact Nat.sub_le _ _
  · intro response hr
    have empty : ((e.host.endpoint.discard command.stream).slots.get command.stream).item =
        none := by
      simp [Controller.discard, StreamTable.modify, Slot.clear]
    -- only what the receive path holds can wait now
    have held : response ∈ e.host.endpoint.heldOn command.stream := by
      have hr : response ∈ (e.host.endpoint.discard command.stream).waitingOn command.stream := hr
      rw [waitingOn_eq, empty] at hr
      exact hr
    obtain ⟨j, hj, found⟩ := getElem?_of_mem_suffix S.held held
    exact ⟨j, hj, getElem?_of_isPrefix (repliesOn_among e command.stream) found⟩

/-! ## What a request returns -/

/-- A request that has got anywhere has made its first step in some move of the run. -/
theorem request_began {c : Controller L} {moves : List Move} {timeout : Option Duration}
    (run : (ofController c).perform stream moves = some e') (ht : e'.host.threads[i]? = some t)
    (errand : t.errand = .request command timeout)
    (begun : t ≠ .ofErrand (.request command timeout)) :
    ∃ before after e, moves = before ++ .host (.advance i) :: after ∧
      (ofController c).perform stream before = some e ∧
      e.host.threads[i]? = some (.ofErrand (.request command timeout)) ∧
      e.perform stream (.host (.advance i) :: after) = some e' := by
  induction moves using List.reverseRecOn generalizing e' t with
  | nil =>
    cases run
    cases ht
  | append_singleton moves move ih =>
    rw [perform, List.foldlM_append] at run
    obtain ⟨e, before, last⟩ := Option.bind_eq_some_iff.mp run
    have h : e.act stream move = some e' := by simpa using last
    have earlier : ∀ {s : Thread}, e.host.threads[i]? = some s →
        s.errand = .request command timeout → s ≠ .ofErrand (.request command timeout) →
        ∃ before after e₀, moves ++ [move] = before ++ .host (.advance i) :: after ∧
          (ofController c).perform stream before = some e₀ ∧
          e₀.host.threads[i]? = some (.ofErrand (.request command timeout)) ∧
          e₀.perform stream (.host (.advance i) :: after) = some e' := by
      intro s hs errand begun
      obtain ⟨first, after, e₀, rfl, run, asked, rest⟩ := ih before hs errand begun
      refine ⟨first, after ++ [move], e₀, by simp, run, asked, ?_⟩
      rw [perform] at rest
      rw [perform, ← List.cons_append, List.foldlM_append, rest]
      exact last
    cases move with
    | arrive octets =>
      obtain ⟨-, rfl⟩ := act_arrive h
      exact earlier ht errand begun
    | host action =>
      obtain ⟨-, host, ha, rfl⟩ := act_host h
      rcases Host.thread_before ha ht with
        ht | ⟨errand', -, -, rfl⟩ | ⟨s, progress, moved, hs, -, take, -⟩
      · exact earlier ht errand begun
      · exact absurd (congrArg Thread.ofErrand errand) begun
      · by_cases asked : s = .ofErrand (.request command timeout)
        · subst asked
          rcases moved with rfl | ⟨-, limited⟩
          · exact ⟨moves, [], e, rfl, before, hs, last⟩
          · cases limited
        · exact earlier hs ((Thread.errand_of_take take).symm.trans errand) asked

/-- A request that dropped what its slot held at `e` has sent its command since, and `p` is the
payload of answer number `j` on the stream: the command that it answers has the name of the
request's own, was sent no later, and the answer had not got into the slot at `e`. -/
structure Fetched (command : Command) (e e' : Exchange L) (p : Octets) (j : Nat) : Prop where
  sent : (e'.commands command.stream)[(e.commands command.stream).length]? = some command.body
  answer : (e'.answers command.stream)[j]? = some (ResponseHeader.encode ⟨command.id, 0⟩ ++ p)
  name : ∃ body, (e'.commands command.stream)[j]? = some body ∧
    CommandHeader.decode body = .ok ⟨command.id⟩
  least : j ≤ (e.commands command.stream).length
  recent : e.settled command.stream ≤ j

section
variable {c : Controller L} {timeout : Option Duration} {before after : List Move} {p : Octets}

theorem fetched_of_began (unused : c.Unused command.stream)
    (run : (ofController c).perform command.stream before = some e)
    (asked : e.host.threads[i]? = some (.ofErrand (.request command timeout)))
    (run' : e.perform command.stream (.host (.advance i) :: after) = some e')
    (ht : e'.host.threads[i]? = some t) (result : t.result = some (.ok (.payload p))) :
    ∃ j, Fetched command e e' p j := by
  have S := (Sound.ofController unused).perform run
  rw [perform, List.foldlM_cons] at run'
  obtain ⟨e₁, first, rest⟩ := Option.bind_eq_some_iff.mp run'
  obtain ⟨u, hu, P⟩ := Pursuit.start S asked first
  obtain ⟨v, hv, P⟩ := P.perform (S.act first) hu rest
  have S' := (S.act first).perform rest
  rw [ht] at hv
  cases hv
  cases P with
  | transmit => cases result
  | listen => cases result
  | failed => cases result
  | returned own recent least answer =>
    cases result
    obtain ⟨body, hb, fits⟩ := S'.answered _ _ answer
    exact ⟨_, own, answer, ⟨body, hb, name_of_answersTo fits⟩, least, recent⟩

/-- Whatever a request returns is the payload of an answer to a command of the same name: its own,
or an earlier one whose answer had not got into the slot when the request dropped what was there. -/
theorem request_returns_awaited {moves : List Move} (unused : c.Unused command.stream)
    (run : (ofController c).perform command.stream moves = some e')
    (ht : e'.host.threads[i]? = some t) (errand : t.errand = .request command timeout)
    (result : t.result = some (.ok (.payload p))) :
    ∃ before after e, moves = before ++ .host (.advance i) :: after ∧
      (ofController c).perform command.stream before = some e ∧
      e.host.threads[i]? = some (.ofErrand (.request command timeout)) ∧
      ∃ j, Fetched command e e' p j := by
  obtain ⟨before, after, e, split, run, asked, rest⟩ := request_began run ht errand (by
    rintro rfl
    cases result)
  exact ⟨before, after, e, split, run, asked, fetched_of_began unused run asked rest ht result⟩

/-- A request that returns a payload returns the one that answers its own command, provided that no
other command of this name was awaiting its answer when the request dropped what its slot held. -/
theorem request_returns_own (unused : c.Unused command.stream)
    (run : (ofController c).perform command.stream before = some e)
    (asked : e.host.threads[i]? = some (.ofErrand (.request command timeout)))
    (alone : ¬ e.Awaits command.stream command.id)
    (run' : e.perform command.stream (.host (.advance i) :: after) = some e')
    (ht : e'.host.threads[i]? = some t) (result : t.result = some (.ok (.payload p))) :
    (e'.commands command.stream)[(e.commands command.stream).length]? = some command.body ∧
      (e'.answers command.stream)[(e.commands command.stream).length]? =
        some (ResponseHeader.encode ⟨command.id, 0⟩ ++ p) := by
  obtain ⟨j, F⟩ := fetched_of_began unused run asked run' ht result
  have last : j = (e.commands command.stream).length := by
    by_contra earlier
    have hj : j < (e.commands command.stream).length := Nat.lt_of_le_of_ne F.least earlier
    obtain ⟨body, hb, name⟩ := F.name
    obtain ⟨later, eq⟩ := commands_perform run'
    rw [← eq, List.getElem?_append_left hj] at hb
    exact alone ⟨j, body, F.recent, hb, name⟩
  exact ⟨F.sent, last ▸ F.answer⟩

end

/-! ## Two requests of one name -/

/-- A controller on a link that takes everything, with nothing behind it. -/
def novice : Controller ScriptedLink := .start ⟨[], []⟩ ⟨none, .ofMillis 20⟩ 0

theorem novice_unused (stream : StreamId) : novice.Unused stream := ⟨rfl, rfl, nofun⟩

def ask (payload : Octets) : Command := ⟨StreamId.control, ⟨5, 2, 0⟩, payload⟩

/-- The answer to a command of that name. -/
def tell (seq : SeqNum) (b : UInt8) : Move :=
  .arrive (Post.octets ⟨.response, seq, StreamId.control, [5, 2, 0, 0, b],
    Nat.le_of_ble_eq_true rfl⟩)

/-- The first of two requests gives up. -/
def giveUp : List Move :=
  [.host (.begin (.request (ask [1]) (some (.ofMillis 10)))), .host (.advance 0),
    .host (.advance 0), .host (.advance 0), .host (.expire 0),
    .host (.begin (.request (ask [2]) none))]

/-- The answer to the first request is in the slot when the second begins. -/
theorem request_returns_own_settled :
    ∃ (e e' : Exchange ScriptedLink) (t : Thread),
      (ofController novice).perform (ask [2]).stream
        (giveUp ++ [tell 0 0xa1, .host .hear, .host .pass]) = some e ∧
      e.host.threads[1]? = some (.ofErrand (.request (ask [2]) none)) ∧
      ¬ e.Awaits (ask [2]).stream (ask [2]).id ∧
      e.perform (ask [2]).stream [.host (.advance 1), .host (.advance 1), tell 1 0xa2,
        .host .hear, .host .pass, .host (.advance 1)] = some e' ∧
      e'.host.threads[1]? = some t ∧ t.result = some (.ok (.payload [0xa2])) ∧
      (e'.commands (ask [2]).stream)[(e.commands (ask [2]).stream).length]? =
        some (ask [2]).body ∧
      (e'.answers (ask [2]).stream)[(e.commands (ask [2]).stream).length]? =
        some (ResponseHeader.encode ⟨(ask [2]).id, 0⟩ ++ [0xa2]) := by
  obtain ⟨e, e', t, run, asked, settled, sent, run', ht, result⟩ :
      ∃ (e e' : Exchange ScriptedLink) (t : Thread),
        (ofController novice).perform (ask [2]).stream
          (giveUp ++ [tell 0 0xa1, .host .hear, .host .pass]) = some e ∧
        e.host.threads[1]? = some (.ofErrand (.request (ask [2]) none)) ∧
        e.settled (ask [2]).stream = 1 ∧ (e.commands (ask [2]).stream).length = 1 ∧
        e.perform (ask [2]).stream [.host (.advance 1), .host (.advance 1), tell 1 0xa2,
          .host .hear, .host .pass, .host (.advance 1)] = some e' ∧
        e'.host.threads[1]? = some t ∧ t.result = some (.ok (.payload [0xa2])) :=
    ⟨_, _, _, rfl, rfl, rfl, rfl, rfl, rfl, rfl⟩
  have alone : ¬ e.Awaits (ask [2]).stream (ask [2]).id := by
    rintro ⟨j, command, recent, hj, -⟩
    have := lt_length_of_getElem? hj
    omega
  exact ⟨e, e', t, run, asked, alone, run', ht, result,
    request_returns_own (novice_unused (ask [2]).stream) run asked alone run' ht result⟩

/-- The answer to the first request comes after the second has dropped what its slot held. -/
theorem late_answer_returned :
    ∃ (e e' : Exchange ScriptedLink) (t : Thread),
      (ofController novice).perform (ask [2]).stream giveUp = some e ∧
      e.host.threads[1]? = some (.ofErrand (.request (ask [2]) none)) ∧
      e.perform (ask [2]).stream [.host (.advance 1), .host (.advance 1), tell 0 0xa1,
        tell 1 0xa2, .host .hear, .host .pass, .host (.advance 1)] = some e' ∧
      e'.host.threads[1]? = some t ∧ t.result = some (.ok (.payload [0xa1])) ∧
      (e'.commands (ask [2]).stream)[(e.commands (ask [2]).stream).length]? =
        some (ask [2]).body ∧
      (e'.answers (ask [2]).stream)[(e.commands (ask [2]).stream).length]? =
        some (ResponseHeader.encode ⟨(ask [2]).id, 0⟩ ++ [0xa2]) :=
  ⟨_, _, _, rfl, rfl, rfl, rfl, rfl, rfl, rfl⟩

end Exchange
end Controller
end CommandLink
