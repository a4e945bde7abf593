import CommandLink.Proofs.Controller.Arrivals
import CommandLink.Proofs.Controller.Handle

/-! # What a sync takes for its answer

Syncs come one after the other: as long as one is under way, no other gets past its beginning
(`Host.Exclusive`). It drops what the slot for the answer holds, makes its token the one that is
awaited, and only then sends. The receive path puts into the slot whatever has the token that is
awaited at that moment, and this is 0 before the sync has made its own known. So what a sync returns
has arrived since it cleared the slot, and has its token or else 0 (`Host.sync_returns`). An answer
with token 0 that comes in between is indeed returned (`Host.sync_returns_unasked`). -/

namespace CommandLink

/-- The sync response that an endpoint finds in octets. -/
def syncResponseIn (octets : Octets) : Option SyncResponse :=
  match Incoming.ofOctets octets with
  | .frame header _ payload =>
    if FrameKind.ofCode? header.kind = some .syncResponse then
      (SyncResponse.decode payload).toOption
    else none
  | _ => none

namespace Controller

variable {L : Type}

/-! ## Tokens -/

/-- No sync has the token of the one before it. -/
theorem newToken_ne_lastToken (c : Controller L) : c.newToken.1 ≠ c.lastToken := by
  unfold newToken
  simp only
  split
  · next wraps =>
    intro same
    rw [← same] at wraps
    exact absurd wraps (by decide)
  · simp

/-! ## What syncs share -/

/-- What a controller keeps for its syncs. -/
structure Desk where
  syncing : Bool
  slot : Slot SyncResponse
  awaited : UInt32
  lastToken : UInt32

def desk (c : Controller L) : Desk := ⟨c.syncing, c.syncSlot, c.pendingToken, c.lastToken⟩

/-- The call has begun a sync, and has not returned. -/
def Call.Syncs : Call → Prop
  | .syncPrepare _ | .syncClear _ | .syncPublish _ | .syncTransmit _ | .syncListen _ _
  | .syncWithdraw _ => True
  | _ => False

/-- The call has made its token known. -/
def Call.Awaits : Call → Prop
  | .syncTransmit _ | .syncListen _ _ | .syncWithdraw _ => True
  | _ => False

theorem Call.Awaits.syncs {call : Call} (h : call.Awaits) : call.Syncs := by
  cases call <;> trivial

section
variable [FrameLink L] (c : Controller L)

theorem desk_send (command : Command) : (c.send command).2.desk = c.desk := by
  obtain ⟨link, outbound, sent, h⟩ := c.send_eq command
  rw [h]
  rfl

theorem desk_resetAgent : c.resetAgent.2.desk = c.desk := by
  obtain ⟨link, outbound, sent, handshake, h⟩ := c.resetAgent_eq
  rw [h]
  rfl

theorem desk_sendSync (b : Buffer) : (c.sendSync b).2.desk = c.desk := by
  obtain ⟨link, outbound, sent, h⟩ := c.sendSync_eq b
  rw [h]
  rfl

theorem desk_agentStarted : c.agentStarted.desk = c.desk := by
  unfold agentStarted
  simp only
  split
  · rfl
  · split
    · rfl
    · next command _ =>
      exact desk_send (({ c with handshake := c.handshake.started } : Controller L).record
        (.agentStarted c.handshake.started)) command

/-- The desk with a response in the slot. -/
def Desk.put (d : Desk) (response : SyncResponse) : Desk :=
  { d with slot := { d.slot with item := some response } }

omit [FrameLink L] in
theorem desk_acceptSync (payload : Octets) :
    (c.acceptSync payload).desk = c.desk ∨
      ∃ response, SyncResponse.decode payload = .ok response ∧ response.token = c.pendingToken ∧
        (c.acceptSync payload).desk = c.desk.put response := by
  unfold acceptSync
  split
  · exact .inl rfl
  · next response decoded =>
    split
    · next own =>
      split
      · next slot offered =>
        refine .inr ⟨response, decoded, own, ?_⟩
        obtain ⟨-, -, rfl⟩ := Slot.stored_of_offer offered
        rfl
      · exact .inl rfl
    · exact .inl rfl

/-- A frame puts nothing into the slot but a response with the token that is awaited. -/
theorem desk_receive (octets : Octets) :
    (c.receive (some octets)).desk = c.desk ∨
      ∃ response, syncResponseIn octets = some response ∧ response.token = c.pendingToken ∧
        (c.receive (some octets)).desk = c.desk.put response := by
  simp only [receive, syncResponseIn]
  cases Incoming.ofOctets octets with
  | frame header stream payload =>
    simp only [accept]
    split
    · exact .inl rfl
    · split
      · exact .inl rfl
      · unfold dispatch
        split
        · obtain ⟨told, h⟩ := dispatchEvent_eq
            ({ c with stats := c.stats.countReceived } : Controller L) stream payload
          rw [h]
          exact .inl rfl
        · exact .inl (desk_agentStarted { c with stats := c.stats.countReceived })
        · next kind =>
          rcases desk_acceptSync { c with stats := c.stats.countReceived } payload with
            same | ⟨response, decoded, own, put⟩
          · exact .inl same
          · exact .inr ⟨response, by rw [if_pos kind, decoded]; rfl, own, put⟩
        · exact .inl rfl
  | _ => exact .inl rfl

/-- While a sync is under way, a call that has not begun one leaves the desk alone. -/
theorem desk_step {call : Call} (other : ¬ call.Syncs) (busy : c.syncing = true) :
    (call.step c).1.desk = c.desk := by
  cases call with
  | transmit command timeout =>
    rw [Call.step_transmit]
    exact c.desk_send command
  | syncBegin timeout =>
    simp only [Call.step, if_pos busy]
  | listen | discard | awaitAgent =>
    simp only [Call.step]
    (repeat' split) <;> rfl
  | _ => exact absurd trivial other

/-- What a step of a call does to the syncs. -/
inductive Stride (c c' : Controller L) (call : Call) : Call.Result → Prop
  | aside {progress : Call.Result} (other : ¬ call.Syncs)
      (onward : ∀ next, progress = .next next → ¬ next.Syncs) (desk : c'.desk = c.desk) :
      Stride c c' call progress
  | enter {next : Call} (other : ¬ call.Syncs) (early : ¬ next.Awaits) (free : c.syncing = false)
      (syncing : c'.syncing = true) (awaited : c'.pendingToken = c.pendingToken) :
      Stride c c' call (.next next)
  | stay {next : Call} (syncs : call.Syncs) (onward : next.Syncs) (syncing : c'.syncing = c.syncing)
      (awaited : next.Awaits ∨ ¬ call.Awaits ∧ c'.pendingToken = c.pendingToken) :
      Stride c c' call (.next next)
  | leave {result : Except EndpointError Answer} (syncs : call.Syncs)
      (awaited : c'.pendingToken = 0 ∨ ¬ call.Awaits ∧ c'.pendingToken = c.pendingToken) :
      Stride c c' call (.done result)
  | wait : Stride c c' call .blocked

theorem Call.stride (call : Call) : Stride c (call.step c).1 call (call.step c).2 := by
  cases call with
  | syncBegin timeout =>
    simp only [step]
    split
    · exact .wait
    · next free => exact .enter id id (by simpa using free) rfl rfl
  | syncPrepare timeout =>
    simp only [step]
    (repeat' split)
    · exact .stay trivial trivial rfl (.inr ⟨id, rfl⟩)
    · exact .leave trivial (.inr ⟨id, rfl⟩)
    · exact .leave trivial (.inr ⟨id, rfl⟩)
  | syncClear attempt => exact .stay trivial trivial rfl (.inr ⟨id, rfl⟩)
  | syncPublish attempt => exact .stay trivial trivial rfl (.inl trivial)
  | syncTransmit attempt =>
    have kept := congrArg Desk.syncing (c.desk_sendSync attempt.payload)
    simp only [step]
    split <;> next h =>
      rw [h] at kept
      exact .stay trivial trivial kept (.inl trivial)
  | syncListen timeout seen =>
    simp only [step]
    (repeat' split)
    · exact .stay trivial trivial rfl (.inl trivial)
    · exact .stay trivial trivial rfl (.inl trivial)
    · exact .wait
    · exact .stay trivial trivial rfl (.inl trivial)
  | syncWithdraw result => exact .leave trivial (.inl rfl)
  | transmit command timeout =>
    have kept := c.desk_send command
    simp only [step]
    split <;> next h =>
      rw [h] at kept
      exact .aside id (fun next e => by cases e <;> exact id) kept
  | discard command timeout => exact .aside id (fun next e => by cases e; exact id) rfl
  | listen wait =>
    simp only [step]
    (repeat' split) <;> exact .aside id (fun next e => by cases e <;> exact id) rfl
  | awaitAgent timeout =>
    simp only [step]
    (repeat' split) <;> exact .aside id (fun next e => by cases e) rfl

end

/-- The time that runs out in a sync is that of the wait for the answer. -/
theorem Call.awaits_of_expire {call next : Call} {limit : Duration}
    (h : call.expire limit = .next next) : call.Awaits ∧ next.Awaits := by
  cases call <;> cases h
  exact ⟨trivial, trivial⟩

theorem Call.not_syncs_of_expire {call : Call} {limit : Duration}
    {result : Except EndpointError Answer} (h : call.expire limit = .done result) :
    ¬ call.Syncs := by
  cases call <;> cases h <;> exact id

/-! ## One sync at a time -/

/-- The thread has begun a sync that has not returned. -/
def Thread.Syncs (t : Thread) : Prop := t.result = none ∧ t.call.Syncs

/-- The token of the thread's sync has been made known. -/
def Thread.Awaits (t : Thread) : Prop := t.result = none ∧ t.call.Awaits

namespace Host

/-- Thread `i` is one of `P`. -/
def At (P : Thread → Prop) (h : Host L) (i : Nat) : Prop := ∃ t, h.threads[i]? = some t ∧ P t

variable {h h' : Host L} {i j : Nat} {t u : Thread} {P : Thread → Prop}

theorem at_set (ht : h.threads[i]? = some t) (threads : h'.threads = h.threads.set i u) :
    h'.At P j ↔ j = i ∧ P u ∨ j ≠ i ∧ h.At P j := by
  by_cases same : j = i
  · subst same
    simp [At, threads, List.getElem?_set_self (lt_length_of_getElem? ht)]
  · simp [At, threads, List.getElem?_set_ne (Ne.symm same), same]

theorem at_begin {errand : Errand} (threads : h'.threads = h.threads ++ [.ofErrand errand])
    (new : ¬ P (.ofErrand errand)) : h'.At P j ↔ h.At P j := by
  simp only [At, threads]
  constructor
  · rintro ⟨u, hu, hP⟩
    rcases getElem?_concat_cases hu with hu | ⟨-, rfl⟩
    · exact ⟨u, hu, hP⟩
    · exact absurd hP new
  · rintro ⟨u, hu, hP⟩
    exact ⟨u, getElem?_append_of_some hu _, hP⟩

/-- At most one sync is under way, and it keeps others from beginning. No token is awaited unless it
has made its own known. -/
structure Exclusive (h : Host L) : Prop where
  locked : ∀ i, h.At Thread.Syncs i → h.endpoint.syncing = true
  single : ∀ i j, h.At Thread.Syncs i → h.At Thread.Syncs j → i = j
  awaited : (∀ i, ¬ h.At Thread.Awaits i) → h.endpoint.pendingToken = 0

theorem Exclusive.ofController {c : Controller L} (idle : c.pendingToken = 0) :
    (ofController c).Exclusive where
  locked _ := fun ⟨_, ht, _⟩ => nomatch ht
  single _ _ := fun ⟨_, ht, _⟩ => nomatch ht
  awaited _ := idle

/-- A step that leaves alone who syncs, and what is awaited. -/
theorem Exclusive.same (E : h.Exclusive)
    (syncs : ∀ j, h'.At Thread.Syncs j ↔ h.At Thread.Syncs j)
    (awaits : ∀ j, h'.At Thread.Awaits j ↔ h.At Thread.Awaits j)
    (syncing : h'.endpoint.syncing = h.endpoint.syncing)
    (awaited : h'.endpoint.pendingToken = h.endpoint.pendingToken) : h'.Exclusive where
  locked i hi := syncing.trans (E.locked i ((syncs i).mp hi))
  single i j hi hj := E.single i j ((syncs i).mp hi) ((syncs j).mp hj)
  awaited none := awaited.trans (E.awaited fun i hi => none i ((awaits i).mpr hi))

/-- A thread goes on. It gets into a sync only if no other is under way. -/
theorem Exclusive.set (E : h.Exclusive) (ht : h.threads[i]? = some t)
    (threads : h'.threads = h.threads.set i u)
    (enters : u.Syncs → h'.endpoint.syncing = true ∧ (t.Syncs ∨ h.endpoint.syncing = false))
    (locked : ¬ t.Syncs → h.endpoint.syncing = true → h'.endpoint.syncing = true)
    (awaited : ¬ u.Awaits → h'.endpoint.pendingToken = 0 ∨
      ¬ t.Awaits ∧ h'.endpoint.pendingToken = h.endpoint.pendingToken) : h'.Exclusive := by
  have alone : ∀ k, k ≠ i → h.At Thread.Syncs k → ¬ t.Syncs := fun k ne hk syncs =>
    ne (E.single k i hk ⟨t, ht, syncs⟩)
  have outside : ∀ k, k ≠ i → h.At Thread.Syncs k → ¬ u.Syncs := fun k ne hk syncs => by
    rcases (enters syncs).2 with before | free
    · exact alone k ne hk before
    · exact nomatch free.symm.trans (E.locked k hk)
  refine ⟨fun j hj => ?_, fun j k hj hk => ?_, fun none => ?_⟩
  · rcases (at_set ht threads).mp hj with ⟨rfl, syncs⟩ | ⟨ne, hj⟩
    · exact (enters syncs).1
    · exact locked (alone j ne hj) (E.locked j hj)
  · rcases (at_set ht threads).mp hj with ⟨rfl, syncs⟩ | ⟨ne, hj⟩ <;>
      rcases (at_set ht threads).mp hk with ⟨rfl, syncs'⟩ | ⟨ne', hk⟩
    · rfl
    · exact absurd syncs (outside k ne' hk)
    · exact absurd syncs' (outside j ne hj)
    · exact E.single j k hj hk
  · have gone : ¬ u.Awaits := fun awaits => none i ((at_set ht threads).mpr (.inl ⟨rfl, awaits⟩))
    rcases awaited gone with zero | ⟨before, kept⟩
    · exact zero
    · refine kept.trans (E.awaited fun j hj => ?_)
      by_cases same : j = i
      · subst same
        obtain ⟨t', ht', awaits⟩ := hj
        rw [ht] at ht'
        cases ht'
        exact before awaits
      · exact none j ((at_set ht threads).mpr (.inr ⟨same, hj⟩))

variable [FrameLink L] {incoming : List Octets} {action : Action}

theorem Exclusive.advance (E : h.Exclusive) (ha : h.act incoming (.advance i) = some h') :
    h'.Exclusive := by
  obtain ⟨t, u, ht, running, htake, rfl⟩ := act_advance ha
  have stride := t.call.stride h.endpoint
  generalize t.call.step h.endpoint = outcome at stride htake ⊢
  obtain ⟨c, progress⟩ := outcome
  cases stride with
  | aside other onward desk =>
    have syncing : c.syncing = h.endpoint.syncing := congrArg Desk.syncing desk
    have awaited : c.pendingToken = h.endpoint.pendingToken := congrArg Desk.awaited desk
    have out : ¬ u.Syncs := by
      rcases Thread.take_cases htake with ⟨result, -, rfl⟩ | ⟨next, e, rfl⟩
      · exact fun syncs => nomatch syncs.1
      · exact fun syncs => onward next e syncs.2
    exact E.set ht rfl (fun syncs => absurd syncs out) (fun _ => syncing.trans)
      fun _ => .inr ⟨fun awaits => other awaits.2.syncs, awaited⟩
  | enter other early free syncing awaited =>
    exact E.set ht rfl (fun _ => ⟨syncing, .inr free⟩) (fun _ _ => syncing)
      fun _ => .inr ⟨fun awaits => other awaits.2.syncs, awaited⟩
  | stay syncs onward syncing awaited =>
    cases htake
    have here : t.Syncs := ⟨running, syncs⟩
    have busy := syncing.trans (E.locked i ⟨t, ht, here⟩)
    refine E.set ht rfl (fun _ => ⟨busy, .inl here⟩) (fun _ _ => busy) fun gone => .inr ?_
    rcases awaited with awaits | ⟨early, kept⟩
    · exact absurd ⟨running, awaits⟩ gone
    · exact ⟨fun awaits => early awaits.2, kept⟩
  | leave syncs awaited =>
    cases htake
    refine E.set ht rfl (fun syncs => nomatch syncs.1) (fun out => absurd ⟨running, syncs⟩ out)
      fun _ => awaited.imp_right fun ⟨early, kept⟩ => ⟨fun awaits => early awaits.2, kept⟩
  | wait => cases htake

theorem Exclusive.expire (E : h.Exclusive) (ha : h.act incoming (.expire i) = some h') :
    h'.Exclusive := by
  obtain ⟨t, limit, u, ht, running, -, htake, rfl⟩ := act_expire ha
  rcases Thread.take_cases htake with ⟨result, done, rfl⟩ | ⟨next, onward, rfl⟩
  · have other := Call.not_syncs_of_expire done
    exact E.set ht rfl (fun syncs => nomatch syncs.1) (fun _ busy => busy)
      fun _ => .inr ⟨fun awaits => other awaits.2.syncs, rfl⟩
  · obtain ⟨before, after⟩ := Call.awaits_of_expire onward
    have here : t.Syncs := ⟨running, before.syncs⟩
    exact E.set ht rfl (fun _ => ⟨E.locked i ⟨t, ht, here⟩, .inl here⟩) (fun _ busy => busy)
      fun gone => absurd ⟨running, after⟩ gone

/-- A step leaves the desk alone, or puts a response into the slot that it has heard. -/
inductive Serves (incoming : List Octets) (h h' : Host L) : Prop
  | none (desk : h'.endpoint.desk = h.endpoint.desk)
  | put (octets : Octets) (response : SyncResponse) (next : incoming[h.heard]? = some octets)
      (found : syncResponseIn octets = some response)
      (own : response.token = h.endpoint.pendingToken) (heard : h'.heard = h.heard + 1)
      (desk : h'.endpoint.desk = h.endpoint.desk.put response)

omit [FrameLink L] in
theorem Serves.syncing (S : Serves incoming h h') :
    h'.endpoint.syncing = h.endpoint.syncing := by
  cases S with
  | none desk => exact congrArg Desk.syncing desk
  | put _ _ _ _ _ _ desk => exact congrArg Desk.syncing desk

omit [FrameLink L] in
theorem Serves.awaited (S : Serves incoming h h') :
    h'.endpoint.pendingToken = h.endpoint.pendingToken := by
  cases S with
  | none desk => exact congrArg Desk.awaited desk
  | put _ _ _ _ _ _ desk => exact congrArg Desk.awaited desk

theorem act_serves (ha : h.act incoming action = some h') (still : ∀ i, action ≠ .advance i) :
    Serves incoming h h' := by
  cases action with
  | advance i => exact absurd rfl (still i)
  | send command =>
    cases ha
    exact .none (h.endpoint.desk_send command)
  | reset =>
    cases ha
    exact .none h.endpoint.desk_resetAgent
  | expire i =>
    obtain ⟨t, limit, u, -, -, -, -, rfl⟩ := act_expire ha
    exact .none rfl
  | hear =>
    obtain ⟨octets, next, -, rfl⟩ := act_hear ha
    rcases h.endpoint.desk_receive octets with same | ⟨response, found, own, put⟩
    · exact .none same
    · exact .put octets response next found own rfl put
  | pass =>
    obtain ⟨c, delivered, rfl⟩ := Option.map_eq_some_iff.mp ha
    obtain ⟨response, -, -, rfl⟩ := deliver_cases delivered
    exact .none rfl
  | _ =>
    cases ha
    exact .none rfl

theorem Exclusive.act (E : h.Exclusive) (ha : h.act incoming action = some h') :
    h'.Exclusive := by
  cases action with
  | advance i => exact E.advance ha
  | expire i => exact E.expire ha
  | begin errand =>
    cases ha
    refine E.same (fun j => at_begin rfl ?_) (fun j => at_begin rfl ?_) rfl rfl <;>
      cases errand <;> exact And.right
  | _ =>
    have S := act_serves ha fun i e => by cases e
    cases act_shift ha with
    | move cause => rcases cause with e | ⟨e, -⟩ <;> cases e
    | none threads =>
      exact E.same (fun j => by rw [At, threads, At]) (fun j => by rw [At, threads, At])
        S.syncing S.awaited

/-- Beside a sync that is under way, other calls leave the desk alone. -/
theorem Exclusive.beside (E : h.Exclusive) (here : h.At Thread.Syncs i)
    (ha : h.act incoming action = some h') (other : action ≠ .advance i) :
    Serves incoming h h' := by
  cases action with
  | advance j =>
    obtain ⟨t, u, ht, running, htake, rfl⟩ := act_advance ha
    refine .none (h.endpoint.desk_step (fun syncs => other ?_) (E.locked i here))
    rw [E.single i j here ⟨t, ht, running, syncs⟩]
  | _ => exact act_serves ha fun j e => by cases e

/-! ## From clearing the slot to the answer -/

/-- A response that may pass for the answer to a sync: it has the token of the request, or 0, and is
among the frames heard from number `past` on. -/
structure Passes (incoming : List Octets) (attempt : SyncAttempt) (past heard : Nat)
    (response : SyncResponse) : Prop where
  token : response.token = attempt.request.token ∨ response.token = 0
  arrived : ∃ n octets, past ≤ n ∧ n < heard ∧ incoming[n]? = some octets ∧
    syncResponseIn octets = some response

variable {attempt : SyncAttempt} {past : Nat}

theorem Passes.mono {response : SyncResponse} {heard heard' : Nat}
    (A : Passes incoming attempt past heard response) (le : heard ≤ heard') :
    Passes incoming attempt past heard' response := by
  obtain ⟨n, octets, from_past, below, found⟩ := A.arrived
  exact ⟨A.token, n, octets, from_past, Nat.lt_of_lt_of_le below le, found⟩

/-- What a sync finds since it has cleared the slot, when `past` frames had been heard. -/
structure Cleared (incoming : List Octets) (attempt : SyncAttempt) (past : Nat) (h : Host L) :
    Prop where
  past_le : past ≤ h.heard
  awaited : h.endpoint.pendingToken = attempt.request.token ∨ h.endpoint.pendingToken = 0
  slot : ∀ response, h.endpoint.syncSlot.item = some response →
    Passes incoming attempt past h.heard response

omit [FrameLink L] in
theorem Cleared.serves (C : Cleared incoming attempt past h) (le : h.heard ≤ h'.heard)
    (S : Serves incoming h h') : Cleared incoming attempt past h' := by
  refine ⟨Nat.le_trans C.past_le le, S.awaited ▸ C.awaited, fun response waiting => ?_⟩
  cases S with
  | none desk =>
    have slot : h'.endpoint.syncSlot = h.endpoint.syncSlot := congrArg Desk.slot desk
    exact (C.slot response (slot ▸ waiting)).mono le
  | put octets arrived next found own heard desk =>
    have slot : h'.endpoint.syncSlot.item = some arrived := congrArg (·.slot.item) desk
    cases slot.symm.trans waiting
    exact ⟨own ▸ C.awaited, h.heard, octets, C.past_le, heard ▸ Nat.lt_succ_self _, next, found⟩

/-- How far a sync has come that had yet to clear the slot when `past` frames had been heard. -/
inductive Quest (incoming : List Octets) (attempt : SyncAttempt) (past : Nat) (h : Host L) :
    Thread → Prop
  | clear {errand : Errand} (past_le : past ≤ h.heard) :
      Quest incoming attempt past h ⟨errand, .syncClear attempt, none⟩
  | publish {errand : Errand} (cleared : Cleared incoming attempt past h) :
      Quest incoming attempt past h ⟨errand, .syncPublish attempt, none⟩
  | transmit {errand : Errand} (cleared : Cleared incoming attempt past h) :
      Quest incoming attempt past h ⟨errand, .syncTransmit attempt, none⟩
  | listen {errand : Errand} {timeout : Duration} {seen : Option Nat}
      (cleared : Cleared incoming attempt past h) :
      Quest incoming attempt past h ⟨errand, .syncListen timeout seen, none⟩
  | withdraw {errand : Errand} {result : Except EndpointError SyncResponse}
      (read : ∀ response, result = .ok response →
        response.version = protocolVersion ∧ Passes incoming attempt past h.heard response) :
      Quest incoming attempt past h ⟨errand, .syncWithdraw result, none⟩
  | returned {errand : Errand} {call : Call} {result : Except EndpointError Answer}
      (read : ∀ response, result = .ok (.synced response) →
        response.version = protocolVersion ∧ Passes incoming attempt past h.heard response) :
      Quest incoming attempt past h ⟨errand, call, some result⟩

omit [FrameLink L] in
theorem Quest.syncs (Q : Quest incoming attempt past h t) (running : t.result = none) :
    t.Syncs := by
  cases Q with
  | returned => cases running
  | _ => exact ⟨rfl, trivial⟩

omit [FrameLink L] in
/-- The sync stays where it is while something else goes on. -/
theorem Quest.stay (Q : Quest incoming attempt past h t) (le : h.heard ≤ h'.heard)
    (S : t.result = none → Serves incoming h h') : Quest incoming attempt past h' t := by
  cases Q with
  | clear past_le => exact .clear (Nat.le_trans past_le le)
  | publish cleared => exact .publish (cleared.serves le (S rfl))
  | transmit cleared => exact .transmit (cleared.serves le (S rfl))
  | listen cleared => exact .listen (cleared.serves le (S rfl))
  | withdraw read => exact .withdraw fun r e => (read r e).imp_right (·.mono le)
  | returned read => exact .returned fun r e => (read r e).imp_right (·.mono le)

theorem readSync_ok {response response' : SyncResponse}
    (h : readSync response = .ok response') :
    response' = response ∧ response.version = protocolVersion := by
  unfold readSync at h
  split at h
  · next speaks =>
    cases h
    exact ⟨rfl, speaks⟩
  · cases h

/-- The sync itself goes on. -/
theorem Quest.advance (Q : Quest incoming attempt past h t) (E : h.Exclusive)
    (ht : h.threads[i]? = some t) (ha : h.act incoming (.advance i) = some h') :
    ∃ u, h'.threads[i]? = some u ∧ Quest incoming attempt past h' u := by
  obtain ⟨t', u, ht', running, htake, rfl⟩ := act_advance ha
  rw [ht] at ht'
  cases ht'
  refine ⟨u, List.getElem?_set_self (lt_length_of_getElem? ht), ?_⟩
  cases Q with
  | clear past_le =>
    cases htake
    have unknown : h.endpoint.pendingToken = 0 := by
      -- whoever awaits an answer is in a sync, so it would be this very thread
      refine E.awaited fun j awaiting => ?_
      obtain ⟨t, hj, awaits⟩ := awaiting
      cases E.single i j ⟨_, ht, rfl, trivial⟩ ⟨t, hj, awaits.1, awaits.2.syncs⟩
      rw [ht] at hj
      cases hj
      exact awaits.2
    exact .publish ⟨past_le, .inr unknown, fun response waiting => by cases waiting⟩
  | publish C =>
    cases htake
    exact .transmit ⟨C.past_le, .inl rfl, C.slot⟩
  | transmit C =>
    have cleared : Cleared incoming attempt past { h with
        endpoint := ((Call.syncTransmit attempt).step h.endpoint).1 } :=
      C.serves (Nat.le_refl _) (.none (by
        rw [Call.step_syncTransmit]
        exact h.endpoint.desk_sendSync attempt.payload))
    simp only [Call.step] at htake
    split at htake <;> cases htake
    · exact .listen ⟨cleared.past_le, cleared.awaited, cleared.slot⟩
    · exact .withdraw fun response ok => by cases ok
  | @listen _ timeout seen C =>
    cases popped : h.endpoint.syncSlot.pop (seen.getD h.endpoint.syncSlot.cancels) with
    | taken response slot =>
      simp only [Call.step, popped] at htake ⊢
      cases htake
      refine .withdraw fun response' ok => ?_
      obtain ⟨rfl, speaks⟩ := readSync_ok ok
      exact ⟨speaks, C.slot response' (Slot.taken_of_pop popped).1⟩
    | released reason =>
      simp only [Call.step, popped] at htake ⊢
      cases htake
      exact .withdraw fun response ok => by cases ok
    | waiting =>
      simp only [Call.step, popped] at htake ⊢
      cases seen with
      | some _ => cases htake
      | none =>
        cases htake
        exact .listen ⟨C.past_le, C.awaited, C.slot⟩
  | @withdraw _ result read =>
    cases htake
    refine .returned fun response e => read response ?_
    cases result <;> cases e
    rfl
  | returned => cases running

/-- The sync runs out of time. -/
theorem Quest.expire (Q : Quest incoming attempt past h t) (ht : h.threads[i]? = some t)
    (ha : h.act incoming (.expire i) = some h') :
    ∃ u, h'.threads[i]? = some u ∧ Quest incoming attempt past h' u := by
  obtain ⟨t', limit, u, ht', running, hl, htake, rfl⟩ := act_expire ha
  rw [ht] at ht'
  cases ht'
  refine ⟨u, List.getElem?_set_self (lt_length_of_getElem? ht), ?_⟩
  cases Q with
  | listen =>
    cases htake
    exact .withdraw nofun
  | returned => cases running
  | _ => cases hl

theorem Quest.act (Q : Quest incoming attempt past h t) (E : h.Exclusive)
    (ht : h.threads[i]? = some t) (ha : h.act incoming action = some h') :
    ∃ u, h'.threads[i]? = some u ∧ Quest incoming attempt past h' u := by
  by_cases goes : action = .advance i
  · exact Q.advance E ht (goes ▸ ha)
  by_cases ends : action = .expire i
  · exact Q.expire ht (ends ▸ ha)
  exact ⟨t, thread_act ha ht (.inr ⟨goes, ends⟩),
    Q.stay (heard_le_act ha) fun running => E.beside ⟨t, ht, Q.syncs running⟩ ha goes⟩

theorem Quest.perform (E : h.Exclusive) (ht : h.threads[i]? = some t)
    (Q : Quest incoming attempt past h t) {actions : List Action}
    (run : h.perform incoming actions = some h') :
    ∃ u, h'.threads[i]? = some u ∧ Quest incoming attempt past h' u :=
  (foldlM_preserves
    (I := fun h => h.Exclusive ∧ ∃ t, h.threads[i]? = some t ∧ Quest incoming attempt past h t)
    (fun ⟨E, _, ht, Q⟩ ha => ⟨E.act ha, Q.act E ht ha⟩) run ⟨E, t, ht, Q⟩).2

theorem Exclusive.perform (E : h.Exclusive) {actions : List Action}
    (run : h.perform incoming actions = some h') : h'.Exclusive :=
  foldlM_preserves (I := Exclusive) (fun E ha => E.act ha) run E

theorem Genuine.perform (G : h.Genuine) {actions : List Action}
    (run : h.perform incoming actions = some h') : h'.Genuine :=
  foldlM_preserves (I := Genuine) (fun G ha => (act_tries G ha).1) run G

variable {c : Controller L} {before after : List Action} {errand : Errand} {response : SyncResponse}

/-- What a sync returns has the version of the protocol and the token of the request, or else 0, and
has arrived since the sync went about clearing the slot. -/
theorem sync_returns (idle : c.pendingToken = 0)
    (run : (ofController c).perform incoming before = some h)
    (clears : h.threads[i]? = some ⟨errand, .syncClear attempt, none⟩)
    (run' : h.perform incoming after = some h') (ht : h'.threads[i]? = some t)
    (returned : t.result = some (.ok (.synced response))) :
    attempt.Genuine ∧ response.version = protocolVersion ∧
      Passes incoming attempt h.heard h'.heard response := by
  have E := (Exclusive.ofController idle).perform run
  have G : h.Genuine :=
    Genuine.perform (h := ofController c) (fun _ ht => (List.not_mem_nil ht).elim) run
  obtain ⟨u, hu, Q⟩ := Quest.perform E clears (.clear (Nat.le_refl _)) run'
  rw [ht] at hu
  cases hu
  refine ⟨G _ (List.mem_of_getElem? clears), ?_⟩
  cases Q with
  | returned read => exact read response (Option.some.inj returned)
  | _ => cases returned

/-- Where no answer with token 0 arrives, a sync returns an answer to its own request. -/
theorem sync_returns_own (idle : c.pendingToken = 0)
    (answers : ∀ octets ∈ incoming, ∀ response, syncResponseIn octets = some response →
      response.token ≠ 0)
    (run : (ofController c).perform incoming before = some h)
    (clears : h.threads[i]? = some ⟨errand, .syncClear attempt, none⟩)
    (run' : h.perform incoming after = some h') (ht : h'.threads[i]? = some t)
    (returned : t.result = some (.ok (.synced response))) :
    response.token = attempt.request.token := by
  obtain ⟨-, -, own, n, octets, -, -, arrived, found⟩ :=
    sync_returns idle run clears run' ht returned
  exact own.resolve_right (answers octets (List.mem_of_getElem? arrived) response found)

/-! ## The tokens of a run -/

/-- The token that a step hands out. -/
def token? (h : Host L) : Action → Option UInt32
  | .advance i =>
    match h.threads[i]? with
    | some ⟨_, .syncPrepare _, none⟩ =>
      if h.endpoint.running then some h.endpoint.newToken.1 else none
    | _ => none
  | _ => none

/-- The tokens that a run hands out, in their order. -/
def tokens (incoming : List Octets) (h : Host L) : List Action → List UInt32
  | [] => []
  | action :: actions =>
    match h.act incoming action with
    | some h' => (h.token? action).toList ++ h'.tokens incoming actions
    | none => []

theorem lastToken_step (c : Controller L) {call : Call}
    (other : ∀ timeout, call ≠ .syncPrepare timeout) :
    (call.step c).1.lastToken = c.lastToken := by
  cases call with
  | syncPrepare timeout => exact absurd rfl (other timeout)
  | transmit command timeout =>
    rw [Call.step_transmit]
    exact congrArg Desk.lastToken (c.desk_send command)
  | syncTransmit attempt =>
    rw [Call.step_syncTransmit]
    exact congrArg Desk.lastToken (c.desk_sendSync attempt.payload)
  | _ => simp only [Call.step] <;> (repeat' split) <;> rfl

theorem lastToken_act (ha : h.act incoming action = some h') :
    h'.endpoint.lastToken = (h.token? action).getD h.endpoint.lastToken := by
  cases action with
  | advance i =>
    obtain ⟨⟨errand, call, result⟩, u, ht, running, htake, rfl⟩ := act_advance ha
    cases running
    by_cases prepares : ∃ timeout, call = .syncPrepare timeout
    · obtain ⟨timeout, rfl⟩ := prepares
      simp only [token?, ht, Call.step]
      split
      · split <;> rfl
      · rfl
    · have other : ∀ timeout, call ≠ .syncPrepare timeout := by simpa using prepares
      have none : h.token? (.advance i) = none := by
        simp only [token?, ht]
        split
        · next e =>
          cases e
          exact absurd rfl (other _)
        · rfl
      rw [none]
      exact lastToken_step h.endpoint other
  | _ =>
    have S := act_serves ha fun i e => by cases e
    cases S with
    | none desk => exact congrArg Desk.lastToken desk
    | put _ _ _ _ _ _ desk => exact congrArg Desk.lastToken desk

omit [FrameLink L] in
theorem token?_eq_some {token : UInt32} (handed : h.token? action = some token) :
    token = h.endpoint.newToken.1 := by
  cases action with
  | advance i =>
    simp only [token?] at handed
    (repeat' split at handed) <;> cases handed
    rfl
  | _ => cases handed

/-- No token is 0 or the one before it. -/
theorem tokens_differ (incoming : List Octets) (h : Host L) (actions : List Action) :
    (h.endpoint.lastToken :: h.tokens incoming actions).IsChain (· ≠ ·) ∧
      ∀ token ∈ h.tokens incoming actions, token ≠ 0 := by
  induction actions generalizing h with
  | nil => simp [tokens]
  | cons action actions ih =>
    simp only [tokens]
    split
    · next h' ha =>
      obtain ⟨differ, nonzero⟩ := ih h'
      rw [lastToken_act ha] at differ
      cases handed : h.token? action with
      | none =>
        rw [handed] at differ
        exact ⟨differ, nonzero⟩
      | some token =>
        have fresh := token?_eq_some handed
        rw [handed] at differ
        refine ⟨List.isChain_cons_cons.mpr ⟨?_, differ⟩, fun t ht => ?_⟩
        · rw [fresh]
          exact h.endpoint.newToken_ne_lastToken.symm
        · rcases List.mem_cons.mp ht with rfl | ht
          · rw [fresh]
            exact h.endpoint.newToken_ne_zero
          · exact nonzero t ht
    · simp

/-! ## An answer that nobody asked for -/

omit [FrameLink L]

/-- A controller on a link that takes everything. -/
def unsynced : Controller ScriptedLink := .start ⟨[], []⟩ ⟨none, .ofMillis 20⟩ 0

/-- A sync response with token 0. -/
def unasked : Octets :=
  Post.octets ⟨.syncResponse, SeqNum.first, StreamId.control,
    SyncResponse.encode ⟨0, none, protocolVersion⟩, Nat.le_of_ble_eq_true rfl⟩

/-- The response is heard when the sync with token 1 has cleared the slot and not made its token
known, and so before the request leaves. -/
theorem sync_returns_unasked :
    ∃ (h h' : Host ScriptedLink) (attempt : SyncAttempt),
      (ofController unsynced).perform [unasked]
        [.begin (.sync (.ofMillis 1000)), .advance 0, .advance 0] = some h ∧
      h.threads[0]? = some ⟨.sync (.ofMillis 1000), .syncClear attempt, none⟩ ∧
      attempt.request.token = 1 ∧
      h.perform [unasked] [.advance 0, .hear, .advance 0, .advance 0, .advance 0, .advance 0] =
        some h' ∧
      (h'.threads[0]?.bind Thread.result) =
        some (.ok (.synced ⟨0, none, protocolVersion⟩)) :=
  ⟨_, _, _, rfl, rfl, rfl, rfl, rfl⟩

end Host
end Controller
end CommandLink
