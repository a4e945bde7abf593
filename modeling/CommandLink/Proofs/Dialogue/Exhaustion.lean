import CommandLink.Proofs.Agent.Reactions
import CommandLink.Proofs.Controller.Malformed
import CommandLink.Proofs.Controller.Progress

/-! # Frames come to an end

A controller and an agent at the two ends of a link that may lose and garble frames, but hands over
no more buffers than frames were taken at the other end (`Duplex`). Neither end keeps the other
busy: the agent reacts to a buffer with two frames at most, and the controller, whose receive path
sends nothing (`Controller.receive_calm`), has no more to send than the calls that are under way
still send. So once nobody calls either end any more, what is left to be sent is bounded by where
the two ends stand, however long they go on (`Duplex.sent_allowed`). -/

namespace CommandLink
namespace Controller

variable {L : Type}

/-- The callback for the agent's start, if there is one, sends nothing. -/
def Calm (c : Controller L) : Prop := c.onStart.bind StartHook.command = none

/-- The frames that a call may still send. -/
def Call.unsent : Call → Nat
  | .discard _ _ | .transmit _ _ | .syncBegin _ | .syncPrepare _ | .syncClear _ | .syncPublish _
  | .syncTransmit _ => 1
  | _ => 0

def Thread.unsent (t : Thread) : Nat := if t.result.isSome then 0 else t.call.unsent

/-- The frames that the calls under way may still send. -/
def Host.unsent (h : Host L) : Nat := total Thread.unsent h.threads

/-- Receiving neither sends anything nor registers a callback. -/
structure Silent (c c' : Controller L) : Prop where
  link : c'.link = c.link
  sent : c'.stats.sent = c.stats.sent
  onStart : c'.onStart = c.onStart

theorem Silent.refl (c : Controller L) : Silent c c := ⟨rfl, rfl, rfl⟩

theorem Silent.trans {c c' c'' : Controller L} (H : Silent c c') (H' : Silent c' c'') :
    Silent c c'' :=
  ⟨H'.link.trans H.link, H'.sent.trans H.sent, H'.onStart.trans H.onStart⟩

theorem finish_silent (c : Controller L) (kind : Option FrameKind) (seq : SeqNum) :
    Silent c (c.finish kind seq) := by
  refine ⟨rfl, ?_, rfl⟩
  simp only [finish]
  split <;> rfl

theorem deliver_silent {c c' : Controller L} (h : c.deliver = some c') : Silent c c' := by
  unfold deliver at h
  split at h
  · cases h
  · next response _ =>
    split at h
    · cases h
    · cases h
      have free : Silent c { c with receiving := none } := ⟨rfl, rfl, rfl⟩
      exact free.trans (finish_silent ..)
    · next slot _ =>
      cases h
      have stored : Silent c { c with
          receiving := none, slots := c.slots.set response.stream slot } := ⟨rfl, rfl, rfl⟩
      exact stored.trans (finish_silent ..)

variable [Datalink L]

theorem agentStarted_calm {c : Controller L} (calm : c.Calm) : Silent c c.agentStarted := by
  unfold agentStarted
  simp only
  split
  · exact ⟨rfl, rfl, rfl⟩
  · next hook found =>
    have silent : hook.command = none := by
      have registered : c.onStart = some hook := found
      rwa [Calm, registered] at calm
    rw [silent]
    exact ⟨rfl, rfl, rfl⟩

omit [Datalink L] in
theorem dispatchEvent_silent (c : Controller L) (stream : StreamId) (payload : Octets) :
    Silent c (c.dispatchEvent stream payload) := by
  simp only [dispatchEvent]
  (repeat' split) <;> exact ⟨rfl, rfl, rfl⟩

omit [Datalink L] in
theorem acceptSync_silent (c : Controller L) (payload : Octets) :
    Silent c (c.acceptSync payload) := by
  unfold acceptSync
  (repeat' split) <;> exact ⟨rfl, rfl, rfl⟩

theorem accept_calm {c : Controller L} (calm : c.Calm) (header : Header) (stream : StreamId)
    (payload : Octets) : Silent c (c.accept header stream payload) := by
  have dispatched : ∀ kind, Silent c (c.dispatch kind stream payload) := by
    intro kind
    unfold dispatch
    split
    · exact c.dispatchEvent_silent stream payload
    · exact agentStarted_calm calm
    · exact c.acceptSync_silent payload
    · exact .refl c
  unfold accept
  simp only
  split
  · exact ⟨rfl, rfl, rfl⟩
  · split
    · exact ⟨rfl, rfl, rfl⟩
    · exact (dispatched _).trans (finish_silent ..)

/-- Whatever arrives, a controller sends nothing on account of it. -/
theorem receive_calm {c : Controller L} (calm : c.Calm) (buffer : Option Octets) :
    Silent c (c.receive buffer) := by
  cases buffer with
  | none => exact ⟨rfl, rfl, rfl⟩
  | some octets =>
    simp only [receive]
    split
    · have counted : Silent c { c with stats := c.stats.countReceived } := ⟨rfl, rfl, rfl⟩
      have calm' : Calm { c with stats := c.stats.countReceived } := calm
      exact counted.trans (accept_calm calm' _ _ _)
    · exact ⟨rfl, rfl, rfl⟩

omit [Datalink L] in
theorem Call.attempts_le [Datalink L] (c : Controller L) (call : Call) :
    (call.attempts c).length ≤ call.unsent := by
  cases call <;> simp [attempts, unsent]

/-- A step that goes on with a call has less left to send, by what it attempts. -/
theorem Thread.unsent_step {c : Controller L} {t u : Thread} (free : t.result = none)
    (take : t.take (t.call.step c).2 = some u) :
    u.unsent + (t.call.attempts c).length ≤ t.unsent := by
  obtain ⟨errand, call, result⟩ := t
  cases free
  rcases take_cases take with ⟨result, -, rfl⟩ | ⟨next, onward, rfl⟩
  · exact Nat.le_trans (Nat.le_of_eq (Nat.zero_add _)) (call.attempts_le c)
  · show next.unsent + (call.attempts c).length ≤ call.unsent
    cases call <;> simp only [Call.step] at onward <;> (repeat' split at onward) <;>
      cases onward <;> exact Nat.le_refl _

theorem Thread.unsent_expire {t u : Thread} {limit : Duration}
    (take : t.take (t.call.expire limit) = some u) : u.unsent = 0 := by
  obtain ⟨errand, call, result⟩ := t
  rcases take_cases take with ⟨result, -, rfl⟩ | ⟨next, onward, rfl⟩
  · rfl
  · cases call <;> cases onward
    cases result <;> rfl

namespace Site

/-- The receive path takes a buffer, unless it still holds a response. -/
def hear (s : Site L) (buffer : Option Octets) : Option (Site L) :=
  if s.host.endpoint.receiving.isSome then none
  else some { s with
    host := { s.host with endpoint := s.host.endpoint.receive buffer, heard := s.host.heard + 1 } }

/-- It is the step of a controller to which the link hands over this buffer next. -/
theorem act_hear_eq (buffers : List (Option Octets)) (s : Site L) :
    s.act buffers .hear = (buffers[s.host.heard]?).bind s.hear := by
  simp only [act]
  cases buffers[s.host.heard]? with
  | none => split <;> rfl
  | some buffer => rfl

end Site
end Controller

/-- A controller and an agent, each with its callers. -/
structure Duplex (L M : Type) where
  controller : Controller.Site L
  agent : Agent.Host M

namespace Duplex

inductive Step
  /-- Anything that happens to the controller, but for what it receives. -/
  | controller (deed : Controller.Deed)
  /-- Anything that happens to the agent, but for what it receives. -/
  | agent (deed : Agent.Deed)
  /-- The agent's receive path takes what the link hands over. -/
  | down (buffer : Option Octets)
  /-- The controller's receive path takes what the link hands over. -/
  | up (buffer : Option Octets)

/-- Somebody calls the controller or the agent. -/
def Step.calls : Step → Bool
  | .controller (.act (.advance _)) | .controller (.act (.expire _)) | .controller (.act .pass)
  | .agent (.act (.advance _)) | .agent (.act .pass) | .agent (.act (.takeUp _))
  | .agent (.act (.handle _ _)) | .agent (.act (.answer _)) | .down _ | .up _ => false
  | _ => true

variable {L M : Type}

/-- The frames that have been sent so far. -/
def sent (d : Duplex L M) : Nat :=
  d.controller.host.endpoint.stats.sent + d.agent.endpoint.stats.sent

/-- The frames that may still be sent if nobody calls any more: those of the calls under way, those
that the agent owes, and the agent's reactions to what is on its way. -/
def allowance (d : Duplex L M) : Nat :=
  3 * d.controller.host.unsent + d.agent.endpoint.owed +
    2 * (d.controller.host.endpoint.stats.sent - d.agent.endpoint.stats.received)

/-- A controller and an agent that nobody has used yet. -/
def ofEnds (c : Controller L) (a : Agent M) : Duplex L M := ⟨.ofController c, .ofAgent a⟩

/-- One step of either end. The link makes no frames. -/
def act [Datalink L] [Datalink M] (d : Duplex L M) : Step → Option (Duplex L M)
  | .controller deed => (d.controller.act [] deed).map fun c => { d with controller := c }
  | .agent (.hear _) => none
  | .agent deed => (d.agent.enact deed).map fun a => { d with agent := a }
  | .down buffer =>
    if buffer.isNone ∨ d.agent.endpoint.stats.received < d.controller.host.endpoint.stats.sent then
      (d.agent.enact (.hear buffer)).map fun a => { d with agent := a }
    else none
  | .up buffer =>
    if buffer.isNone ∨ d.controller.host.endpoint.stats.received < d.agent.endpoint.stats.sent then
      (d.controller.hear buffer).map fun c => { d with controller := c }
    else none

/-- Takes steps one after the other, if each of them can be taken. -/
def perform [Datalink L] [Datalink M] (d : Duplex L M) (steps : List Step) :
    Option (Duplex L M) :=
  steps.foldlM act d

variable [FrameLink L] [FrameLink M] {d d' : Duplex L M} {step : Step} {steps : List Step}

/-- Only an agent's own deeds and what it receives change the agent. -/
theorem act_agent (ha : d.act step = some d') :
    d'.agent = d.agent ∨ ∃ deed, d.agent.enact deed = some d'.agent := by
  cases step with
  | controller deed =>
    obtain ⟨c, -, rfl⟩ := Option.map_eq_some_iff.mp ha
    exact .inl rfl
  | agent deed =>
    cases deed with
    | hear buffer => cases ha
    | deinit caller =>
      cases ha
      exact .inr ⟨.deinit caller, rfl⟩
    | act action =>
      obtain ⟨a, enacts, rfl⟩ := Option.map_eq_some_iff.mp ha
      exact .inr ⟨_, enacts⟩
  | down buffer =>
    obtain ⟨-, ha⟩ := Option.ite_none_right_eq_some.mp ha
    obtain ⟨a, enacts, rfl⟩ := Option.map_eq_some_iff.mp ha
    exact .inr ⟨_, enacts⟩
  | up buffer =>
    obtain ⟨-, ha⟩ := Option.ite_none_right_eq_some.mp ha
    obtain ⟨c, -, rfl⟩ := Option.map_eq_some_iff.mp ha
    exact .inl rfl

theorem halting_perform (H : d.agent.Halting) (run : d.perform steps = some d') :
    d'.agent.Halting :=
  foldlM_preserves (I := fun e : Duplex L M => e.agent.Halting) (fun H ha => by
    rcases act_agent ha with same | ⟨deed, enacts⟩
    · rw [same]
      exact H
    · exact H.enact enacts) run H

omit [FrameLink M] in
/-- What the controller does of itself is taken from what it may still send. -/
theorem unsent_act {h h' : Controller.Host L} {action : Controller.Action}
    (ha : h.act [] action = some h') (uncalled : Step.calls (.controller (.act action)) = false) :
    (∃ n, h'.endpoint.stats.sent ≤ h.endpoint.stats.sent + n ∧ h'.unsent + n ≤ h.unsent) ∧
      h'.endpoint.onStart = h.endpoint.onStart := by
  cases action with
  | advance i =>
    obtain ⟨t, u, thread, free, take, rfl⟩ := Controller.Host.act_advance ha
    obtain ⟨posts, speech⟩ := t.call.step_speech h.endpoint
    have left := Controller.Thread.unsent_step free take
    have sum := total_set thread Controller.Thread.unsent u
    refine ⟨⟨_, speech.sent_le, ?_⟩, (t.call.step_kept h.endpoint).onStart⟩
    simp only [Controller.Host.unsent]
    omega
  | expire i =>
    obtain ⟨t, limit, u, thread, -, -, take, rfl⟩ := Controller.Host.act_expire ha
    have left := Controller.Thread.unsent_expire take
    have sum := total_set thread Controller.Thread.unsent u
    refine ⟨⟨0, Nat.le_refl _, ?_⟩, rfl⟩
    simp only [Controller.Host.unsent]
    omega
  | pass =>
    obtain ⟨c, deliver, rfl⟩ := Option.map_eq_some_iff.mp ha
    have silent := Controller.deliver_silent deliver
    exact ⟨⟨0, Nat.le_of_eq silent.sent, Nat.le_refl _⟩, silent.onStart⟩
  | hear =>
    obtain ⟨octets, none, -, -⟩ := Controller.Host.act_hear ha
    cases none
  | _ => cases uncalled

/-- A step that is no call sends no more than is allowed, and what it sends is allowed no more. -/
theorem allowance_act (H : d.agent.Halting) (calm : d.controller.host.endpoint.Calm)
    (ha : d.act step = some d') (uncalled : step.calls = false) :
    d'.sent + d'.allowance ≤ d.sent + d.allowance ∧ d'.controller.host.endpoint.Calm := by
  cases step with
  | controller deed =>
    obtain ⟨c, took, rfl⟩ := Option.map_eq_some_iff.mp ha
    cases deed with
    | act action =>
      obtain ⟨h, moved, rfl⟩ := Option.map_eq_some_iff.mp took
      obtain ⟨⟨n, said, left⟩, onStart⟩ := unsent_act moved uncalled
      refine ⟨?_, by rw [Controller.Calm, onStart]; exact calm⟩
      simp only [sent, allowance]
      omega
    | _ => cases uncalled
  | agent deed =>
    cases deed with
    | act action =>
      obtain ⟨a, enacts, rfl⟩ := Option.map_eq_some_iff.mp ha
      have owed := Agent.Host.owed_enact H.numbered enacts
      have received := Agent.Host.received_enact enacts (by simp)
      have unasked : Agent.Deed.explicit (.act action) = false := by
        cases action <;> first | rfl | cases uncalled
      rw [unasked] at owed
      refine ⟨?_, calm⟩
      simp only [sent, allowance, received, Bool.false_eq_true, if_false] at owed ⊢
      omega
    | _ => cases uncalled
  | down buffer =>
    obtain ⟨allowed, ha⟩ := Option.ite_none_right_eq_some.mp ha
    obtain ⟨a, enacts, rfl⟩ := Option.map_eq_some_iff.mp ha
    have owed := Agent.Host.owed_enact H.numbered enacts
    have received := Agent.Host.received_heard enacts
    refine ⟨?_, calm⟩
    cases buffer with
    | none =>
      simp only [sent, allowance, Agent.Deed.explicit, Agent.Deed.heard?, Option.toList_none,
        List.length_nil, Bool.false_eq_true, if_false] at owed received ⊢
      omega
    | some octets =>
      have room := allowed.resolve_left (by simp)
      simp only [sent, allowance, Agent.Deed.explicit, Agent.Deed.heard?, Option.toList_some,
        List.length_singleton, Bool.false_eq_true, if_false] at owed received ⊢
      omega
  | up buffer =>
    obtain ⟨-, ha⟩ := Option.ite_none_right_eq_some.mp ha
    obtain ⟨c, heard, rfl⟩ := Option.map_eq_some_iff.mp ha
    obtain ⟨-, heard⟩ := Option.ite_none_left_eq_some.mp heard
    cases heard
    have silent := Controller.receive_calm calm buffer
    refine ⟨?_, by rw [Controller.Calm, silent.onStart]; exact calm⟩
    simp only [sent, allowance, Controller.Host.unsent, silent.sent]
    omega

/-- Once nobody calls any more, no more frames are sent than are allowed now. -/
theorem sent_allowed (H : d.agent.Halting) (calm : d.controller.host.endpoint.Calm)
    (run : d.perform steps = some d') (uncalled : ∀ step ∈ steps, step.calls = false) :
    d'.sent + d'.allowance ≤ d.sent + d.allowance := by
  induction steps generalizing d with
  | nil =>
    cases run
    exact Nat.le_refl _
  | cons step steps ih =>
    rw [perform, List.foldlM_cons] at run
    obtain ⟨e, here, rest⟩ := Option.bind_eq_some_iff.mp run
    obtain ⟨bound, calm'⟩ := allowance_act H calm here (uncalled step List.mem_cons_self)
    have first : d.perform [step] = some e := by
      rw [perform, List.foldlM_cons, here]
      rfl
    have H' : e.agent.Halting := halting_perform H first
    exact Nat.le_trans (ih H' calm' rest fun s hs => uncalled s (List.mem_cons_of_mem _ hs)) bound

/-- An agent in a run from its start, whatever arrives and however often sending fails: the frames
that its link has taken are those that it counts as sent, and these are two at most for each buffer
that it has received, and one for each that its owner has asked for, the announcement of its start
included. A missing or short buffer, a repeat that is suppressed and a report of an error in
sequence make it send nothing, neither now nor later. A controller sends nothing on account of what
arrives, unless its callback for the agent's start does. Both together, after whatever calls and on
a link that may lose and garble frames: once nobody calls any more, the frames that are still sent
are bounded by where the two stand then. -/
theorem frames_exhaust (quiet : FrameLink.StopsQuietly M) :
    (∀ (link : M) (config : AgentConfig) (deeds : List Agent.Deed) (h : Agent.Host M),
      (Agent.Host.ofAgent (Agent.start link config).2).enactAll deeds = some h →
      (FrameLink.taken h.endpoint.link).length =
          (FrameLink.taken link).length + h.endpoint.stats.sent ∧
        h.endpoint.stats.received = (deeds.filterMap Agent.Deed.heard?).length ∧
        h.endpoint.stats.sent ≤ 2 * h.endpoint.stats.received +
          ((if config.announce then 1 else 0) + deeds.countP Agent.Deed.explicit)) ∧
    (∀ (a : Agent M) (buffer : Option Octets), Agent.Unanswered a.inbound buffer →
      Agent.Mute a (a.receive buffer)) ∧
    (∀ c : Controller L, c.Calm → (∀ buffer, Controller.Silent c (c.receive buffer)) ∧
      ∀ c', c.deliver = some c' → Controller.Silent c c') ∧
    ∀ (c : Controller L) (link : M) (config : AgentConfig) (before after : List Step)
      (d d' : Duplex L M),
      (ofEnds c (Agent.start link config).2).perform before = some d →
      d.controller.host.endpoint.Calm → d.perform after = some d' →
      (∀ step ∈ after, step.calls = false) → d'.sent ≤ d.sent + d.allowance := by
  refine ⟨fun link config deeds h run => ?_, fun a buffer H => Agent.mute_receive H,
    fun c calm => ⟨Controller.receive_calm calm, fun c' h => Controller.deliver_silent h⟩,
    fun c link config before after d d' run calm onward uncalled => ?_⟩
  · obtain ⟨taken, received, bound⟩ := Agent.Host.sent_bounded quiet run
    exact ⟨taken, received, Nat.le_trans (Nat.le_add_right _ _) bound⟩
  · have prepared : Agent.Prepared link config (Agent.start link config).2 := .start
    have began := (Agent.Host.custody_of_poised prepared.poised.2).toHalting
    have H := halting_perform (d := ofEnds c (Agent.start link config).2) began run
    exact Nat.le_trans (Nat.le_add_right _ _) (sent_allowed H calm onward uncalled)

/-- A link that takes every frame. -/
def memory : ScriptedLink := ⟨[], []⟩

/-- Two commands on a stream that is not open, with numbers missing between them, and an event. -/
def misdirected : List Agent.Deed :=
  [.hear (some [0x03, 1, 0, 0]), .act (.event ⟨2, 1⟩ []), .hear none, .hear (some [0x05, 1, 0, 0])]

/-- The owner of a controller makes a request, without limit of time. -/
def requested : List Step :=
  [.controller (.act (.begin (.request ⟨StreamId.control, ⟨5, 1, 0⟩, []⟩ none)))]

/-- The request is sent, handled and answered. -/
def answered : List Step :=
  [.controller (.act (.advance 0)), .controller (.act (.advance 0)),
    .down (some [0x00, 0, 4, 0, 5, 1, 0, 0]), .agent (.act .pass), .agent (.act (.takeUp 0)),
    .up (some [0x50, 0, 0, 0]), .agent (.act (.handle 0 (.ok []))), .agent (.act (.answer 0)),
    .up (some [0x11, 0, 4, 0, 5, 1, 0, 0]), .controller (.act .pass),
    .controller (.act (.advance 0))]

/-- With two frames for one of its buffers the agent comes close to what it may send; and of three
frames that are allowed for, the request with its answer takes two. -/
theorem frames_exhaust_answered :
    (∃ h : Agent.Host ScriptedLink,
      (Agent.Host.ofAgent (Agent.start memory ⟨"1.0", true⟩).2).enactAll misdirected = some h ∧
      h.endpoint.link.frames.length = 5 ∧ h.endpoint.stats.received = 2 ∧
      h.endpoint.link.frames.length ≤ 2 * h.endpoint.stats.received + 2 ∧
      Agent.Mute h.endpoint (h.endpoint.receive (some [0x36, 0, 0, 0]))) ∧
    ∃ d d' : Duplex ScriptedLink ScriptedLink,
      (ofEnds (Controller.start memory ⟨none, .ofMillis 100⟩ 0)
        (Agent.start memory ⟨"1.0", true⟩).2).perform requested = some d ∧
      d.perform answered = some d' ∧ d.allowance = 3 ∧ d'.sent = d.sent + 2 ∧
      d'.sent ≤ d.sent + d.allowance := by
  obtain ⟨bounded, mute, -, exhaust⟩ := frames_exhaust (L := ScriptedLink) (M := ScriptedLink)
    fun _ => rfl
  refine ⟨?_, ?_⟩
  · obtain ⟨h, run, frames, received, inbound⟩ : ∃ h : Agent.Host ScriptedLink,
        (Agent.Host.ofAgent (Agent.start memory ⟨"1.0", true⟩).2).enactAll misdirected = some h ∧
        h.endpoint.link.frames.length = 5 ∧ h.endpoint.stats.received = 2 ∧
        h.endpoint.inbound = ⟨some ⟨5, by decide⟩⟩ := ⟨_, rfl, rfl, rfl, rfl⟩
    obtain ⟨taken, -, bound⟩ := bounded memory ⟨"1.0", true⟩ misdirected h run
    have error : Agent.Unanswered h.endpoint.inbound (some [0x36, 0, 0, 0]) := by
      rw [inbound]
      have sound : Incoming.ofOctets [0x36, 0, 0, 0] =
          .frame ⟨3, ⟨6, by decide⟩, 0, 0⟩ StreamId.control [] := rfl
      refine .error sound rfl fun last seen => ?_
      cases seen
      rfl
    refine ⟨h, run, frames, received, ?_, mute _ _ error⟩
    rw [show h.endpoint.link.frames.length = _ from taken]
    exact Nat.le_trans (Nat.le_of_eq (Nat.zero_add _)) bound
  · obtain ⟨d, run, d', onward, calm, allowed, sent⟩ :
        ∃ d : Duplex ScriptedLink ScriptedLink,
        (ofEnds (Controller.start memory ⟨none, .ofMillis 100⟩ 0)
          (Agent.start memory ⟨"1.0", true⟩).2).perform requested = some d ∧
        ∃ d', d.perform answered = some d' ∧ d.controller.host.endpoint.Calm ∧
        d.allowance = 3 ∧ d'.sent = d.sent + 2 := ⟨_, rfl, _, rfl, rfl, rfl, rfl⟩
    have uncalled : ∀ step ∈ answered, step.calls = false := by simp [answered, Step.calls]
    exact ⟨d, d', run, onward, allowed, sent,
      exhaust _ _ _ requested answered d d' run calm onward uncalled⟩

end Duplex
end CommandLink
