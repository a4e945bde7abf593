import CommandLink.Proofs.Agent.Host
import CommandLink.Proofs.Controller.Host

/-! # A controller and an agent in dialogue

The two ends with their callers, joined by a link that delivers in order what each end's datalink
has taken. `Dialogue.act` is one step of either end; a run is a sequence of steps in any order.

In every run each end has heard a beginning of what the other has said, and has counted what its
discipline says of it (`Dialogue.Heeds`). That much holds whether or not sending succeeds. -/

namespace CommandLink

structure Dialogue (L M : Type) where
  controller : Controller.Host L
  agent : Agent.Host M

namespace Dialogue

inductive Action
  | controller (action : Controller.Action)
  | agent (action : Agent.Action)

variable {L M : Type} [FrameLink L] [FrameLink M]

/-- The frames that the controller has said. -/
def down (d : Dialogue L M) : List Octets := FrameLink.taken d.controller.endpoint.link

/-- The frames that the agent has said. -/
def up (d : Dialogue L M) : List Octets := FrameLink.taken d.agent.endpoint.link

/-- The frames on their way to the agent. -/
def toAgent (d : Dialogue L M) : List Octets := d.down.drop d.agent.heard

/-- The frames on their way to the controller. -/
def toController (d : Dialogue L M) : List Octets := d.up.drop d.controller.heard

def act (d : Dialogue L M) : Action → Option (Dialogue L M)
  | .controller action => (d.controller.act d.up action).map fun c => { d with controller := c }
  | .agent action => (d.agent.act d.down action).map fun a => { d with agent := a }

/-- A controller and an agent that have just begun. -/
def ofEnds (c : Controller L) (a : Agent M) : Dialogue L M := ⟨.ofController c, .ofAgent a⟩

/-- A sequence of steps, each of which is allowed where it happens. -/
inductive Run (allowed : Dialogue L M → Action → Bool) :
    Dialogue L M → List Action → Dialogue L M → Prop
  | nil (d : Dialogue L M) : Run allowed d [] d
  | cons {d d' d'' : Dialogue L M} {action : Action} {actions : List Action}
      (ok : allowed d action = true) (step : d.act action = some d')
      (rest : Run allowed d' actions d'') : Run allowed d (action :: actions) d''

/-- Takes steps one after the other, if each of them is allowed and can be taken. -/
def perform (allowed : Dialogue L M → Action → Bool) (d : Dialogue L M) :
    List Action → Option (Dialogue L M)
  | [] => some d
  | action :: rest =>
    if allowed d action then (d.act action).bind fun d' => d'.perform allowed rest else none

theorem Run.of_perform {allowed : Dialogue L M → Action → Bool} {d d' : Dialogue L M}
    {actions : List Action} (h : d.perform allowed actions = some d') :
    Run allowed d actions d' := by
  induction actions generalizing d with
  | nil =>
    cases h
    exact .nil _
  | cons action rest ih =>
    obtain ⟨ok, h⟩ := Option.ite_none_right_eq_some.mp h
    obtain ⟨e, he, hrest⟩ := Option.bind_eq_some_iff.mp h
    exact .cons ok he (ih hrest)

theorem Run.preserves {allowed : Dialogue L M → Action → Bool} {I : Dialogue L M → Prop}
    (step : ∀ {d action d'}, I d → allowed d action = true → d.act action = some d' → I d')
    {d d' : Dialogue L M} {actions : List Action} (run : Run allowed d actions d') (h : I d) :
    I d' := by
  induction run with
  | nil => exact h
  | cons ok act rest ih => exact ih (step h ok act)

/-- The rule by which every step is allowed. -/
def anything (_ : Dialogue L M) (_ : Action) : Bool := true

/-! ## Hearing what the other end has said -/

/-- The controller has said `ds` and the agent `us`, and each has heard a beginning of what the
other has said. -/
structure Heeds (d : Dialogue L M) (ds us : List Post) : Prop where
  down : d.down = ds.map Post.octets
  up : d.up = us.map Post.octets
  sentDown : d.controller.endpoint.stats.sent = ds.length
  sentUp : d.agent.endpoint.stats.sent = us.length
  heardDown : d.agent.endpoint.ear.Of .agent (ds.take d.agent.heard)
  heardUp : d.controller.endpoint.ear.Of .controller (us.take d.controller.heard)
  heardDown_le : d.agent.heard ≤ ds.length
  heardUp_le : d.controller.heard ≤ us.length
  onStart : d.controller.endpoint.onStart = none
  mild : d.agent.Mild

variable {d : Dialogue L M} {ds us : List Post}

theorem Heeds.toAgent (H : Heeds d ds us) :
    d.toAgent = (ds.drop d.agent.heard).map Post.octets := by
  rw [Dialogue.toAgent, H.down, List.map_drop]

theorem Heeds.toController (H : Heeds d ds us) :
    d.toController = (us.drop d.controller.heard).map Post.octets := by
  rw [Dialogue.toController, H.up, List.map_drop]

theorem getElem?_map_octets {ps : List Post} {n : Nat} {octets : Octets}
    (h : (ps.map Post.octets)[n]? = some octets) : ∃ p, ps[n]? = some p ∧ octets = p.octets := by
  rw [List.getElem?_map] at h
  obtain ⟨p, hp, e⟩ := Option.map_eq_some_iff.mp h
  exact ⟨p, hp, e.symm⟩

/-- How a step of the controller's side moves the dialogue on. -/
inductive ControllerStep (d : Dialogue L M) (c : Controller.Host L) (ds us : List Post) : Prop
  | spoke (attempts : List Controller.Attempt) (posts : List Post)
      (speech : Controller.Speech d.controller.endpoint c.endpoint attempts posts)
      (kept : Controller.Kept d.controller.endpoint c.endpoint)
      (tried : c.attempts = d.controller.attempts ++ attempts)
      (heard : c.heard = d.controller.heard)
      (heeds : Heeds { d with controller := c } (ds ++ posts) us)
  | heard (p : Post) (next : us[d.controller.heard]? = some p)
      (free : d.controller.endpoint.receiving = none)
      (eq : c = { d.controller with
        endpoint := d.controller.endpoint.receive (some p.octets)
        heard := d.controller.heard + 1 })
      (heeds : Heeds { d with controller := c } ds us)
  | passed (endpoint : Controller L) (deliver : d.controller.endpoint.deliver = some endpoint)
      (eq : c = { d.controller with endpoint := endpoint })
      (heeds : Heeds { d with controller := c } ds us)

/-- How a step of the agent's side moves the dialogue on. -/
inductive AgentStep (d : Dialogue L M) (a : Agent.Host M) (ds us : List Post) : Prop
  | spoke (posts : List Post)
      (smooth : Agent.Smooth Agent.Utterance d.agent.endpoint a.endpoint posts)
      (kept : Agent.Kept d.agent.endpoint a.endpoint)
      (heard : a.heard = d.agent.heard)
      (heeds : Heeds { d with agent := a } ds (us ++ posts))
  | heard (p : Post) (posts : List Post) (next : ds[d.agent.heard]? = some p)
      (free : d.agent.endpoint.receiving = none)
      (speech : Agent.Speech
        (Agent.Reply p.kind (Discipline.agent.verdict d.agent.endpoint.inbound p = .gap))
        d.agent.endpoint a.endpoint posts)
      (smooth : (p.kind = .agentReset → d.agent.endpoint.Steady) →
        Agent.Smooth
          (Agent.Reply p.kind (Discipline.agent.verdict d.agent.endpoint.inbound p = .gap))
          d.agent.endpoint a.endpoint posts)
      (eq : a = { d.agent with
        endpoint := d.agent.endpoint.receive (some p.octets), heard := d.agent.heard + 1 })
      (heeds : Heeds { d with agent := a } ds (us ++ posts))
  | passed (endpoint : Agent M) (posts : List Post)
      (deliver : d.agent.endpoint.deliver = some endpoint)
      (smooth : Agent.Smooth (Agent.Reply .command (0 < d.agent.endpoint.ear.pass.gaps))
        d.agent.endpoint endpoint posts)
      (eq : a = { d.agent with endpoint := endpoint })
      (heeds : Heeds { d with agent := a } ds (us ++ posts))

/-! ## Steps of the controller -/

theorem Heeds.controller (H : Heeds d ds us) {action : Controller.Action} {c : Controller.Host L}
    (h : d.controller.act d.up action = some c) : ControllerStep d c ds us := by
  cases Controller.Host.act_effect h with
  | spoke attempts posts speech kept tried heard =>
    have taken : FrameLink.taken c.endpoint.link = d.down ++ posts.map Post.octets := speech.taken
    have sent : c.endpoint.stats.sent = d.controller.endpoint.stats.sent + posts.length := by
      cases speech with
      | said m p hm hs _ _ sent => exact sent
      | _ => next sent => exact sent
    have down : ({ d with controller := c } : Dialogue L M).down =
        (ds ++ posts).map Post.octets := by
      rw [Dialogue.down, taken, H.down, List.map_append]
    have heardDown : d.agent.endpoint.ear.Of .agent ((ds ++ posts).take d.agent.heard) := by
      rw [List.take_append_of_le_length H.heardDown_le]
      exact H.heardDown
    have heardUp : c.endpoint.ear.Of .controller (us.take c.heard) := by
      rw [kept.ear, heard]
      exact H.heardUp
    exact .spoke attempts posts speech kept tried heard
      ⟨down, H.up, by rw [sent, H.sentDown, List.length_append], H.sentUp, heardDown, heardUp,
        Nat.le_trans H.heardDown_le (by simp), heard ▸ H.heardUp_le, kept.onStart.trans H.onStart,
        H.mild⟩
  | heard octets next free eq =>
    rw [H.up] at next
    obtain ⟨p, hp, rfl⟩ := getElem?_map_octets next
    have ear := Controller.ear_receive free H.onStart p
    obtain ⟨handshake, slot, log, he⟩ := Controller.receive_octets free H.onStart p
    have heardUp : c.endpoint.ear.Of .controller (us.take c.heard) := by
      rw [eq, take_succ_of_getElem? hp, ear]
      refine H.heardUp.hear (by simp [Controller.ear, Ear.of, free]) fun hw => ?_
      rw [eq_of_beq hw]
      exact ⟨rfl, rfl⟩
    refine .heard p hp free eq ⟨?_, H.up, ?_, H.sentUp, H.heardDown, heardUp, H.heardDown_le, ?_,
      ?_, H.mild⟩
    · rw [Dialogue.down, eq, he]
      exact H.down
    · rw [eq, he]
      exact H.sentDown
    · rw [eq]
      exact lt_length_of_getElem? hp
    · rw [eq, he]
      exact H.onStart
  | passed endpoint deliver eq =>
    have ear := Controller.ear_deliver deliver
    obtain ⟨response, -, -, he⟩ := Controller.deliver_cases deliver
    have heardUp : c.endpoint.ear.Of .controller (us.take c.heard) := by
      rw [eq, ear]
      exact Ear.of_pass_iff.mpr H.heardUp
    refine .passed endpoint deliver eq ⟨?_, H.up, ?_, H.sentUp, H.heardDown, heardUp,
      H.heardDown_le, ?_, ?_, H.mild⟩
    · rw [Dialogue.down, eq, he]
      exact H.down
    · rw [eq, he]
      exact H.sentDown
    · rw [eq]
      exact H.heardUp_le
    · rw [eq, he]
      exact H.onStart

/-! ## Steps of the agent -/

theorem Heeds.said (H : Heeds d ds us) {a : Agent.Host M} {K : FrameKind → Prop}
    {posts : List Post} (speech : Agent.Speech K d.agent.endpoint a.endpoint posts)
    (heard : a.endpoint.ear.Of .agent (ds.take a.heard)) (hle : a.heard ≤ ds.length)
    (mild : a.Mild) : Heeds { d with agent := a } ds (us ++ posts) := by
  have up : ({ d with agent := a } : Dialogue L M).up = (us ++ posts).map Post.octets := by
    rw [Dialogue.up, speech.link, List.map_append, ← H.up]
    rfl
  have heardUp : d.controller.endpoint.ear.Of .controller
      ((us ++ posts).take d.controller.heard) := by
    rw [List.take_append_of_le_length H.heardUp_le]
    exact H.heardUp
  exact ⟨H.down, up, H.sentDown, by rw [speech.sent, H.sentUp, List.length_append], heard, heardUp,
    hle, Nat.le_trans H.heardUp_le (by simp), H.onStart, mild⟩

theorem Heeds.agent (H : Heeds d ds us) {action : Agent.Action} {a : Agent.Host M}
    (h : d.agent.act d.down action = some a) : AgentStep d a ds us := by
  obtain ⟨effect, mild⟩ := Agent.Host.act_effect H.mild h
  cases effect with
  | spoke posts smooth kept heard =>
    refine .spoke posts smooth kept heard (H.said smooth.toSpeech ?_ (heard ▸ H.heardDown_le) mild)
    rw [kept.ear, heard]
    exact H.heardDown
  | heard octets next free eq =>
    rw [H.down] at next
    obtain ⟨p, hp, rfl⟩ := getElem?_map_octets next
    obtain ⟨posts, speech, smooth⟩ := d.agent.endpoint.receive_speech p
    have ear := Agent.ear_receive free p
    have heardDown : a.endpoint.ear.Of .agent (ds.take a.heard) := by
      rw [eq, take_succ_of_getElem? hp, ear]
      refine H.heardDown.hear (by simp [Agent.ear, Ear.of, free]) fun hw => ?_
      have hk : p.kind = .command := by
        simp only [Agent.awaits, Bool.and_eq_true, beq_iff_eq] at hw
        exact hw.1
      rw [hk]
      exact ⟨rfl, rfl⟩
    have hle : a.heard ≤ ds.length := by
      rw [eq]
      exact lt_length_of_getElem? hp
    subst eq
    exact .heard p posts hp free speech smooth rfl (H.said speech heardDown hle mild)
  | passed endpoint deliver eq =>
    have ear := Agent.ear_deliver deliver
    obtain ⟨command, hr, -, posts, smooth⟩ := Agent.deliver_cases deliver
    have heardDown : a.endpoint.ear.Of .agent (ds.take a.heard) := by
      rw [eq, ear]
      exact Ear.of_pass_iff.mpr H.heardDown
    subst eq
    have smooth := smooth.mono fun (kind : FrameKind) hk => hk.imp_lost fun gap =>
      Agent.gaps_pass_pos hr gap
    exact .passed endpoint posts deliver smooth rfl
      (H.said smooth.toSpeech heardDown H.heardDown_le mild)

end Dialogue
end CommandLink
