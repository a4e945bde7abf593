import CommandLink.Proofs.Datalink.FrameLink
import CommandLink.Session.Start

/-! # Two endpoints on a serial link

What a session of a controller and an agent does when both speak through serial links. The frames
that one of them has sent are in the other's inlet before the next step (`exchange_pair`), so that
between turns the state is a `pair`: two endpoints whose links hold nothing, and the frames that
each has yet to look at.

`Leads` speaks of every order in which the threads may take turns, and the schedule of a session is
one of them (`Leads.run`). As long as a call and one other thread at most can go on, the orders are
easily followed: `Quiet` says that no other thread can, `Onward` what comes of the one that can. -/

namespace CommandLink

/-! ## Endpoints on another link -/

section
variable {L : Type}

/-- The controller on a link as it is now. -/
def Controller.withLink (c : Controller L) (link : L) : Controller L := { c with link := link }

theorem Controller.withLink_self (c : Controller L) {link : L} (h : c.link = link) :
    c.withLink link = c := h ▸ rfl

theorem Controller.link_withLink (c : Controller L) (link : L) : (c.withLink link).link = link :=
  rfl

theorem Controller.withLink_withLink (c : Controller L) (link link' : L) :
    (c.withLink link).withLink link' = c.withLink link' := rfl

/-- The agent on a link as it is now. -/
def Agent.withLink (a : Agent L) (link : L) : Agent L := { a with link := link }

theorem Agent.withLink_self (a : Agent L) {link : L} (h : a.link = link) : a.withLink link = a :=
  h ▸ rfl

theorem Agent.link_withLink (a : Agent L) (link : L) : (a.withLink link).link = link := rfl

theorem Agent.withLink_withLink (a : Agent L) (link link' : L) :
    (a.withLink link).withLink link' = a.withLink link' := rfl

end

namespace Session

/-! ## Turns in any order -/

/-- A thread that can go on takes a turn, and what has left the links is carried over. Of the calls
on an endpoint the first that can go on does. -/
inductive Turn (s : Session) : Session → Prop
  | deliver {t : Session} (goes : s.onController (·.stepReceiving) = some t) : Turn s t.exchange
  | hear {t : Session} (goes : s.onController (·.stepInlet) = some t) : Turn s t.exchange
  | call {t : Session} (goes : s.onController (·.stepTasks s.clock) = some t) : Turn s t.exchange
  | agentDeliver {t : Session} (goes : s.onAgent (·.stepReceiving) = some t) : Turn s t.exchange
  | agentHear {t : Session} (goes : s.onAgent (·.stepInlet) = some t) : Turn s t.exchange
  | agentCall {t : Session} (goes : s.onAgent (·.stepTasks s.clock) = some t) : Turn s t.exchange
  | work {side side' : AgentSide} {w : Worker} (agent : s.agent = some side)
      (mem : w ∈ side.endpoint.workers) (goes : side.stepWorker w = some side') :
      Turn s ({ s with agent := some side' } : Session).exchange

/-- However the threads take turns, the session comes to rest within `n` turns, and `Q` then. -/
inductive Leads (Q : Session → Prop) : Nat → Session → Prop
  | rest {s : Session} {n : Nat} (still : ∀ t, ¬ s.Turn t) (q : Q s) : Leads Q n s
  | turn {s : Session} {n : Nat} (goes : ∃ t, s.Turn t) (all : ∀ t, s.Turn t → Leads Q n t) :
      Leads Q (n + 1) s

section
variable {s t : Session} {m n fuel : Nat} {Q R : Session → Prop}

/-- The schedule of a session is one of the orders. -/
theorem turn_of_step (h : s.step = some t) : s.Turn t := by
  obtain ⟨u, stepped, rfl⟩ := Option.map_eq_some_iff.mp h
  simp only [Option.orElse_eq_orElse, Option.orElse_eq_or, Option.or_eq_some_iff] at stepped
  rcases stepped with goes | ⟨-, goes | ⟨-, goes | ⟨-, goes | ⟨-, goes | ⟨-, goes | ⟨-, goes⟩⟩⟩⟩⟩⟩
  · exact .deliver goes
  · exact .agentDeliver goes
  · exact .call goes
  · exact .agentCall goes
  · obtain ⟨side, agent, worked⟩ := Option.bind_eq_some_iff.mp goes
    obtain ⟨side', found, rfl⟩ := Option.map_eq_some_iff.mp worked
    obtain ⟨w, mem, goes⟩ := List.exists_of_findSome?_eq_some found
    exact .work agent mem goes
  · exact .hear goes
  · exact .agentHear goes

/-- It rests only when no thread can go on. -/
theorem not_turn_of_step (h : s.step = none) : ¬ s.Turn t := by
  simp only [step, Option.map_eq_none_iff, Option.orElse_eq_orElse, Option.orElse_eq_or,
    Option.or_eq_none_iff] at h
  obtain ⟨deliver, agentDeliver, call, agentCall, work, hear, agentHear⟩ := h
  intro T
  cases T with
  | deliver goes => exact nomatch deliver.symm.trans goes
  | hear goes => exact nomatch hear.symm.trans goes
  | call goes => exact nomatch call.symm.trans goes
  | agentDeliver goes => exact nomatch agentDeliver.symm.trans goes
  | agentHear goes => exact nomatch agentHear.symm.trans goes
  | agentCall goes => exact nomatch agentCall.symm.trans goes
  | work agent mem goes =>
    simp only [onAgent, agent, Option.bind_some, Option.map_eq_none_iff] at work
    exact nomatch (List.findSome?_eq_none_iff.mp work _ mem).symm.trans goes

theorem Leads.mono (H : Leads Q m s) (le : m ≤ n) : Leads Q n s := by
  induction H generalizing n with
  | rest still q => exact .rest still q
  | turn goes all ih =>
    obtain ⟨n, rfl⟩ := Nat.exists_eq_add_of_le' (Nat.le_trans (Nat.le_add_left ..) le)
    exact .turn goes fun t T => ih t T (Nat.le_of_succ_le_succ le)

/-- A run is one of the orders too. -/
theorem Leads.run (H : Leads Q n s) (le : n ≤ fuel) : Q (s.run fuel) := by
  induction H generalizing fuel with
  | @rest s n still q =>
    cases h : s.step with
    | some t => exact absurd (turn_of_step h) (still t)
    | none =>
      have stays : s.run fuel = s := by
        cases fuel with
        | zero => rfl
        | succ fuel => simp only [Session.run, h]
      rwa [stays]
  | @turn s n goes all ih =>
    obtain ⟨fuel, rfl⟩ := Nat.exists_eq_add_of_le' (Nat.le_trans (Nat.le_add_left ..) le)
    cases h : s.step with
    | none =>
      obtain ⟨t, T⟩ := goes
      exact absurd T (not_turn_of_step h)
    | some t =>
      simp only [Session.run, h]
      exact ih t (turn_of_step h) (Nat.le_of_succ_le_succ le)

end

/-! ## Serial links between steps -/

/-- The settings of a serial link without checksums. -/
def serialConfig (role : LinkRole) : SerialLink.Config :=
  { SerialLink.Config.default with role := role }

/-- A serial link with frames that have left and are not yet carried over. -/
def bearing (role : LinkRole) (frames : List Octets) : Link :=
  .serial ⟨serialConfig role, true, none, frames.flatMap (SerialLink.wire (serialConfig role))⟩

/-- An inlet in which frames wait. -/
def inletOf (role : LinkRole) (frames : List Octets) : Inlet :=
  ⟨SerialLink.decoder (serialConfig role), role, frames.map some⟩

/-- A serial link takes every frame that is not too long. -/
theorem transmit_bearing (role : LinkRole) (frames : List Octets) {b : Buffer}
    (short : b.data.length ≤ Frame.maxSize) (room : Packet.maxOverhead ≤ b.start) :
    ∃ n, Datalink.transmit (bearing role frames) b =
      (.ok n, bearing role (frames ++ [b.data])) := by
  let link : SerialLink :=
    ⟨serialConfig role, true, none, frames.flatMap (SerialLink.wire (serialConfig role))⟩
  have ok : link.transmit b = _ := SerialLink.transmit_ok rfl rfl short room
  refine ⟨(SerialLink.wire (serialConfig role) b.data).length, ?_⟩
  show Link.transmit (.serial link) b = _
  simp only [Link.transmit, ok, bearing, List.flatMap_append, List.flatMap_singleton]
  rfl

theorem collect_bearing (role : LinkRole) (frames : List Octets) :
    (bearing role frames).collect =
      (.stream (frames.flatMap (SerialLink.wire (serialConfig role))), bearing role []) := rfl

/-- What the peer has sent is added to what waits. -/
theorem take_bearing (role : LinkRole) (waiting : List Octets) {frames : List Octets}
    (short : ∀ f ∈ frames, f.length ≤ Frame.maxSize) :
    (inletOf role waiting).take (bearing role.peer frames).collect.1 =
      inletOf role (waiting ++ frames) := by
  have received : SerialLink.receive role (SerialLink.decoder (serialConfig role))
      (frames.flatMap (SerialLink.wire (serialConfig role.peer))) =
      (SerialLink.decoder (serialConfig role), frames) := by
    have peer : (serialConfig role).role = (serialConfig role.peer).role.peer :=
      (LinkRole.peer_peer role).symm
    exact SerialLink.receive_wires peer frames short
  simp only [collect_bearing, inletOf, Inlet.take, Inlet.push, received, List.map_append]

/-! ## Pairs -/

abbrev CallTask := Task Controller.Call (Except EndpointError Controller.Answer)

/-- A controller with its calls, and an agent. The frames in `down` wait for the controller, those
in `up` for the agent. -/
def pair (conduct : Conduct) (clock : Nat) (c : Controller Link) (calls : List CallTask)
    (down : List Octets) (a : Agent Link) (up : List Octets) : Session where
  controller := some ⟨c, inletOf .controller down, .fill false, calls, [], 0⟩
  agent := some ⟨a, inletOf .agent up, conduct, false, []⟩
  clock := clock

variable {conduct : Conduct} {clock : Nat} {c c' : Controller Link} {calls calls' : List CallTask}
  {a a' : Agent Link} {up down : List Octets} {f : Octets}

/-- Both endpoints have links that hold nothing. -/
structure Idle (c : Controller Link) (a : Agent Link) : Prop where
  controller : c.link = bearing .controller []
  agent : a.link = bearing .agent []

theorem exchange_pair {down' up' : List Octets} (hc : c.link = bearing .controller up')
    (ha : a.link = bearing .agent down') (shortUp : ∀ f ∈ up', f.length ≤ Frame.maxSize)
    (shortDown : ∀ f ∈ down', f.length ≤ Frame.maxSize) :
    (pair conduct clock c calls down a up).exchange =
      pair conduct clock (c.withLink (bearing .controller [])) calls (down ++ down')
        (a.withLink (bearing .agent [])) (up ++ up') := by
  have heard := take_bearing .controller down shortDown
  have taken := take_bearing .agent up shortUp
  simp only [LinkRole.peer] at heard taken
  simp only [pair, exchange, hc, ha, collect_bearing] at heard taken ⊢
  rw [heard, taken]
  rfl

theorem forall_mem_nil {p : Octets → Prop} : ∀ f ∈ ([] : List Octets), p f :=
  fun _ hf => absurd hf List.not_mem_nil

/-- Links that hold nothing carry nothing over. -/
theorem exchange_idle (I : Idle c a) :
    (pair conduct clock c calls down a up).exchange = pair conduct clock c calls down a up := by
  rw [exchange_pair I.controller I.agent forall_mem_nil forall_mem_nil, List.append_nil,
    List.append_nil, c.withLink_self I.controller, a.withLink_self I.agent]

/-- A frame from the controller reaches the agent. -/
theorem exchange_up (I : Idle c a) (short : f.length ≤ Frame.maxSize) :
    (pair conduct clock (c.withLink (bearing .controller [f])) calls down a up).exchange =
      pair conduct clock c calls down a (up ++ [f]) := by
  rw [exchange_pair (c.link_withLink (bearing .controller [f])) I.agent (by simpa using short)
      forall_mem_nil, List.append_nil, c.withLink_withLink, c.withLink_self I.controller,
    a.withLink_self I.agent]

/-- A frame from the agent reaches the controller. -/
theorem exchange_down (I : Idle c a) (short : f.length ≤ Frame.maxSize) :
    (pair conduct clock c calls down (a.withLink (bearing .agent [f])) up).exchange =
      pair conduct clock c calls (down ++ [f]) a up := by
  rw [exchange_pair I.controller (a.link_withLink (bearing .agent [f])) forall_mem_nil
      (by simpa using short), List.append_nil, a.withLink_withLink, a.withLink_self I.agent,
    c.withLink_self I.controller]

/-! ## Turns of a pair -/

/-- A turn of a thread that makes no call, with whatever calls are under way. -/
inductive Aside (conduct : Conduct) (clock : Nat) (c : Controller Link) :
    List Octets → Agent Link → List Octets → (List CallTask → Session) → Prop
  | deliver {down up : List Octets} {a : Agent Link} {c' : Controller Link}
      (goes : c.deliver = some c') :
      Aside conduct clock c down a up fun calls => (pair conduct clock c' calls down a up).exchange
  | hear {f : Octets} {down up : List Octets} {a : Agent Link} (free : c.receiving = none) :
      Aside conduct clock c (f :: down) a up fun calls =>
        (pair conduct clock (c.receive (some f)) calls down a up).exchange
  | agentDeliver {down up : List Octets} {a a' : Agent Link} (goes : a.deliver = some a') :
      Aside conduct clock c down a up fun calls => (pair conduct clock c calls down a' up).exchange
  | agentHear {f : Octets} {down up : List Octets} {a : Agent Link} (free : a.receiving = none) :
      Aside conduct clock c down a (f :: up) fun calls =>
        (pair conduct clock c calls down (a.receive (some f)) up).exchange
  | work {down up : List Octets} {a a' : Agent Link} {w : Worker} (mem : w ∈ a.workers)
      (goes : AgentSide.stepWorker ⟨a, inletOf .agent up, conduct, false, []⟩ w =
        some ⟨a', inletOf .agent up, conduct, false, []⟩) :
      Aside conduct clock c down a up fun calls => (pair conduct clock c calls down a' up).exchange

/-- A worker leaves everything but the endpoint alone. -/
theorem endpoint_of_stepWorker {side side' : AgentSide} {w : Worker}
    (h : side.stepWorker w = some side') : side' = { side with endpoint := side'.endpoint } := by
  unfold AgentSide.stepWorker at h
  split at h
  · obtain ⟨endpoint, -, rfl⟩ := Option.map_eq_some_iff.mp h
    rfl
  · simp only at h
    split at h <;> cases h
    rfl
  · cases h
    rfl
  · cases h

/-- What a pair can do: its first call that can goes on, or another thread does. -/
theorem turn_pair_iff {t : Session} :
    (pair conduct clock c calls down a up).Turn t ↔
      (∃ c' calls', Task.advance Controller.Call.step clock c calls = some (c', calls') ∧
        t = (pair conduct clock c' calls' down a up).exchange) ∨
      ∃ S, Aside conduct clock c down a up S ∧ t = S calls := by
  constructor
  · intro T
    cases T with
    | deliver goes =>
      simp only [onController, pair, ControllerSide.stepReceiving, Option.bind_some,
        Option.map_map, Option.map_eq_some_iff] at goes
      obtain ⟨c', goes, rfl⟩ := goes
      exact .inr ⟨_, .deliver goes, rfl⟩
    | hear goes =>
      cases down with
      | nil => simp [onController, pair, ControllerSide.stepInlet, inletOf] at goes
      | cons f down =>
        cases free : c.receiving with
        | some body => simp [onController, pair, ControllerSide.stepInlet, free] at goes
        | none =>
          simp only [onController, pair, ControllerSide.stepInlet, inletOf, free, Option.bind_some,
            List.map_cons, Option.map_some, Option.some.injEq] at goes
          subst goes
          exact .inr ⟨_, .hear free, rfl⟩
    | call goes =>
      simp only [onController, pair, ControllerSide.stepTasks, Option.bind_some, Option.map_map,
        Option.map_eq_some_iff] at goes
      obtain ⟨⟨c', calls'⟩, goes, rfl⟩ := goes
      exact .inl ⟨c', calls', goes, rfl⟩
    | agentDeliver goes =>
      simp only [onAgent, pair, AgentSide.stepReceiving, Option.bind_some, Option.map_map,
        Option.map_eq_some_iff] at goes
      obtain ⟨a', goes, rfl⟩ := goes
      exact .inr ⟨_, .agentDeliver goes, rfl⟩
    | agentHear goes =>
      cases up with
      | nil => simp [onAgent, pair, AgentSide.stepInlet, inletOf] at goes
      | cons f up =>
        cases free : a.receiving with
        | some body => simp [onAgent, pair, AgentSide.stepInlet, free] at goes
        | none =>
          simp only [onAgent, pair, AgentSide.stepInlet, inletOf, free, Option.bind_some,
            List.map_cons, Option.map_some, Option.some.injEq] at goes
          subst goes
          exact .inr ⟨_, .agentHear free, rfl⟩
    | agentCall goes => simp [onAgent, pair, AgentSide.stepTasks, Task.advance] at goes
    | work agent mem goes =>
      cases agent
      have kept := endpoint_of_stepWorker goes
      rw [kept] at goes
      exact .inr ⟨_, .work mem goes, by rw [kept]; rfl⟩
  · rintro (⟨c', calls', goes, rfl⟩ | ⟨S, aside, rfl⟩)
    · exact .call (by simp [onController, pair, ControllerSide.stepTasks, goes])
    · cases aside with
      | deliver goes =>
        exact .deliver (by simp [onController, pair, ControllerSide.stepReceiving, goes])
      | hear free =>
        exact .hear (by simp [onController, pair, ControllerSide.stepInlet, inletOf, free])
      | agentDeliver goes =>
        exact .agentDeliver (by simp [onAgent, pair, AgentSide.stepReceiving, goes])
      | agentHear free =>
        exact .agentHear (by simp [onAgent, pair, AgentSide.stepInlet, inletOf, free])
      | work mem goes => exact .work rfl mem goes

/-- Only a call can go on. -/
def Quiet (conduct : Conduct) (clock : Nat) (c : Controller Link) (down : List Octets)
    (a : Agent Link) (up : List Octets) : Prop :=
  ∀ S, ¬ Aside conduct clock c down a up S

/-- Besides a call one thread alone can go on, and it leads to another pair. -/
structure Onward (conduct : Conduct) (clock : Nat) (c : Controller Link) (down : List Octets)
    (a : Agent Link) (up : List Octets) (c' : Controller Link) (down' : List Octets)
    (a' : Agent Link) (up' : List Octets) : Prop where
  goes : ∃ S, Aside conduct clock c down a up S
  only : ∀ S, Aside conduct clock c down a up S →
    ∀ calls, S calls = pair conduct clock c' calls down' a' up'

section
variable {Q : Session → Prop} {n : Nat} {up' down' : List Octets}

theorem Quiet.leads (K : Quiet conduct clock c down a up)
    (wait : Task.advance Controller.Call.step clock c calls = none)
    (q : Q (pair conduct clock c calls down a up)) :
    Leads Q n (pair conduct clock c calls down a up) := by
  refine .rest (fun t T => ?_) q
  rcases turn_pair_iff.mp T with ⟨c', calls', goes, -⟩ | ⟨S, aside, -⟩
  · exact nomatch wait.symm.trans goes
  · exact K S aside

/-- The call goes on. -/
theorem Quiet.leads_call (K : Quiet conduct clock c down a up)
    (goes : Task.advance Controller.Call.step clock c calls = some (c', calls'))
    (H : Leads Q n (pair conduct clock c' calls' down a up).exchange) :
    Leads Q (n + 1) (pair conduct clock c calls down a up) := by
  refine .turn ⟨_, turn_pair_iff.mpr (.inl ⟨c', calls', goes, rfl⟩)⟩ fun t T => ?_
  rcases turn_pair_iff.mp T with ⟨d, later, goes', rfl⟩ | ⟨S, aside, -⟩
  · cases goes.symm.trans goes'
    exact H
  · exact absurd aside (K S)

/-- The other thread goes on while the call waits. -/
theorem Onward.leads (O : Onward conduct clock c down a up c' down' a' up')
    (wait : Task.advance Controller.Call.step clock c calls = none)
    (H : Leads Q n (pair conduct clock c' calls down' a' up')) :
    Leads Q (n + 1) (pair conduct clock c calls down a up) := by
  obtain ⟨S, aside⟩ := O.goes
  refine .turn ⟨_, turn_pair_iff.mpr (.inr ⟨S, aside, rfl⟩)⟩ fun t T => ?_
  rcases turn_pair_iff.mp T with ⟨d, later, goes, -⟩ | ⟨S, aside, rfl⟩
  · exact nomatch wait.symm.trans goes
  · rwa [O.only S aside]

/-- The call and the other thread can both go on. -/
theorem Onward.leads_call {d : Controller Link}
    (O : Onward conduct clock c down a up c' down' a' up')
    (goes : Task.advance Controller.Call.step clock c calls = some (d, calls'))
    (call : Leads Q n (pair conduct clock d calls' down a up).exchange)
    (other : Leads Q n (pair conduct clock c' calls down' a' up')) :
    Leads Q (n + 1) (pair conduct clock c calls down a up) := by
  refine .turn ⟨_, turn_pair_iff.mpr (.inl ⟨d, calls', goes, rfl⟩)⟩ fun t T => ?_
  rcases turn_pair_iff.mp T with ⟨e, later, goes', rfl⟩ | ⟨S, aside, rfl⟩
  · cases goes.symm.trans goes'
    exact call
  · rwa [O.only S aside]

/-- What every order leads to, the schedule leads to. -/
theorem Leads.settle (I : Idle c a) (H : Leads Q n (pair conduct clock c calls down a up))
    (le : n ≤ enough) : Q (pair conduct clock c calls down a up).settle := by
  rw [Session.settle, exchange_idle I]
  exact H.run le

end

/-! ### Which thread it is -/

/-- No worker can go on. -/
def WorkersWait (a : Agent Link) : Prop := ∀ w ∈ a.workers, w.phase = .waiting ∧ a.takeUp w = none

theorem WorkersWait.stepWorker (R : WorkersWait a) {w : Worker} (mem : w ∈ a.workers) :
    AgentSide.stepWorker ⟨a, inletOf .agent up, conduct, false, []⟩ w = none := by
  obtain ⟨waits, idle⟩ := R w mem
  simp [AgentSide.stepWorker, waits, idle]

/-- Then only a frame that has arrived can bring anything about. -/
theorem Aside.of_wait {S : List CallTask → Session} (aside : Aside conduct clock c down a up S)
    (free : c.receiving = none) (agentFree : a.receiving = none) (wait : WorkersWait a) :
    (∃ f rest, down = f :: rest ∧
      ∀ calls, S calls = (pair conduct clock (c.receive (some f)) calls rest a up).exchange) ∨
    ∃ f rest, up = f :: rest ∧
      ∀ calls, S calls = (pair conduct clock c calls down (a.receive (some f)) rest).exchange := by
  cases aside with
  | hear => exact .inl ⟨_, _, rfl, fun _ => rfl⟩
  | agentHear => exact .inr ⟨_, _, rfl, fun _ => rfl⟩
  | deliver goes => simp [Controller.deliver, free] at goes
  | agentDeliver goes => simp [Agent.deliver, agentFree] at goes
  | work mem goes => cases (wait.stepWorker mem).symm.trans goes

theorem quiet_of_wait (free : c.receiving = none) (agentFree : a.receiving = none)
    (wait : WorkersWait a) : Quiet conduct clock c [] a [] := by
  intro S aside
  rcases aside.of_wait free agentFree wait with ⟨f, rest, none, -⟩ | ⟨f, rest, none, -⟩
  · cases none
  · cases none

section
variable {up' down' : List Octets}

theorem onward_hear (free : c.receiving = none) (agentFree : a.receiving = none)
    (wait : WorkersWait a)
    (carried : ∀ calls, (pair conduct clock (c.receive (some f)) calls down a []).exchange =
      pair conduct clock c' calls down' a' up') :
    Onward conduct clock c (f :: down) a [] c' down' a' up' where
  goes := ⟨_, .hear free⟩
  only S aside calls := by
    rcases aside.of_wait free agentFree wait with ⟨f, rest, first, eq⟩ | ⟨f, rest, none, -⟩
    · cases first
      rw [eq, carried]
    · cases none

theorem onward_agentHear (free : c.receiving = none) (agentFree : a.receiving = none)
    (wait : WorkersWait a)
    (carried : ∀ calls, (pair conduct clock c calls [] (a.receive (some f)) up).exchange =
      pair conduct clock c' calls down' a' up') :
    Onward conduct clock c [] a (f :: up) c' down' a' up' where
  goes := ⟨_, .agentHear agentFree⟩
  only S aside calls := by
    rcases aside.of_wait free agentFree wait with ⟨f, rest, none, -⟩ | ⟨f, rest, first, eq⟩
    · cases none
    · cases first
      rw [eq, carried]

theorem onward_deliver {d : Controller Link} (goes : c.deliver = some d)
    (agentFree : a.receiving = none) (wait : WorkersWait a)
    (carried : ∀ calls, (pair conduct clock d calls [] a []).exchange =
      pair conduct clock c' calls down' a' up') :
    Onward conduct clock c [] a [] c' down' a' up' where
  goes := ⟨_, .deliver goes⟩
  only S aside := by
    cases aside with
    | deliver goes' =>
      cases goes.symm.trans goes'
      exact carried
    | agentDeliver goes => simp [Agent.deliver, agentFree] at goes
    | work mem goes => cases (wait.stepWorker mem).symm.trans goes

theorem onward_agentDeliver {b : Agent Link} (free : c.receiving = none)
    (goes : a.deliver = some b) (wait : WorkersWait a)
    (carried : ∀ calls, (pair conduct clock c calls [] b []).exchange =
      pair conduct clock c' calls down' a' up') :
    Onward conduct clock c [] a [] c' down' a' up' where
  goes := ⟨_, .agentDeliver goes⟩
  only S aside := by
    cases aside with
    | agentDeliver goes' =>
      cases goes.symm.trans goes'
      exact carried
    | deliver goes => simp [Controller.deliver, free] at goes
    | work mem goes => cases (wait.stepWorker mem).symm.trans goes

theorem onward_work {b : Agent Link} {w : Worker} (free : c.receiving = none)
    (agentFree : a.receiving = none) (one : a.workers = [w])
    (goes : AgentSide.stepWorker ⟨a, inletOf .agent [], conduct, false, []⟩ w =
      some ⟨b, inletOf .agent [], conduct, false, []⟩)
    (carried : ∀ calls, (pair conduct clock c calls [] b []).exchange =
      pair conduct clock c' calls down' a' up') :
    Onward conduct clock c [] a [] c' down' a' up' where
  goes := ⟨_, .work (one ▸ List.mem_singleton_self w) goes⟩
  only S aside := by
    cases aside with
    | work mem goes' =>
      rw [one, List.mem_singleton] at mem
      subst mem
      cases goes.symm.trans goes'
      exact carried
    | deliver goes => simp [Controller.deliver, free] at goes
    | agentDeliver goes => simp [Agent.deliver, agentFree] at goes

end

end Session
end CommandLink
