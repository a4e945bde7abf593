import CommandLink.Proofs.Agent.Emissions
import CommandLink.Proofs.Controller.Handle
import CommandLink.Proofs.Dialogue.Agreement

/-! # Restarts of the agent

A restart begins the agent's numbers anew, while the controller goes on from the number seen last.
An announcement is taken whatever its number; behind it the two ends are in step again. Where
nothing is announced, the next frame has the first number, and the controller takes it for a repeat
if that is the number it has seen last (`Dialogue.restart_repeats`). As long as that does not
happen, no frame of the agent is taken for a repeat, and every response gets into its slot
(`Dialogue.responses_outlive_restarts`). -/

namespace CommandLink

/-! ## Frames on streams that exist -/

theorem Post.octets_injective {p q : Post} (h : p.octets = q.octets) : p = q := by
  have found := (Incoming.ofOctets_octets p).symm.trans (h ▸ Incoming.ofOctets_octets q)
  obtain ⟨header, stream, payload⟩ := Incoming.frame.inj found
  have kind : p.kind = q.kind := by
    have codes := congrArg (FrameKind.ofCode? ∘ Header.kind) header
    simpa using codes
  have seq : p.seq = q.seq := congrArg Header.seq header
  obtain ⟨_, _, _, _, _⟩ := p
  obtain ⟨_, _, _, _, _⟩ := q
  cases kind
  cases seq
  cases stream
  cases payload
  rfl

/-- A frame that is sent on a stream, among those whose stream need not exist. -/
def Post.emission (p : Post) : Emission := ⟨p.kind, p.seq, p.stream.toOctet, p.payload, p.fits⟩

theorem Emission.emission_post {e : Emission} (h : e.Addressed) : (e.post h).emission = e := by
  obtain ⟨kind, seq, stream, payload, fits⟩ := e
  simp [post, Post.emission, StreamId.toOctet]

theorem exists_posts {es : List Emission} (h : ∀ e ∈ es, e.Addressed) :
    ∃ ps : List Post, es = ps.map Post.emission := by
  induction es with
  | nil => exact ⟨[], rfl⟩
  | cons e es ih =>
    obtain ⟨ps, rfl⟩ := ih fun x hx => h x (List.mem_cons_of_mem e hx)
    exact ⟨e.post (h e List.mem_cons_self) :: ps, by
      rw [List.map_cons, Emission.emission_post (h e List.mem_cons_self)]⟩

/-! ## No frame is a repeat -/

/-- What the agent says next is no repeat to a controller that remembers `r`: the agent has used
last what the controller has seen last, or begins anew, and the controller has seen another
number. -/
inductive Clear (r : Inbound) (t : Outbound) : Prop
  | joined (same : r.lastSeen = t.lastSent)
  | anew (fresh : t.lastSent = none) (other : r.lastSeen ≠ some SeqNum.first)

/-- None of the frames `us` is a repeat, nor will the next one be, if the agent has come to `t`. -/
structure Unrepeated (us : List Post) (t : Outbound) : Prop where
  fresh : ∀ v ∈ Discipline.controller.verdicts us, v ≠ .again
  clear : Clear (Discipline.controller.afterAll us) t

variable {r : Inbound} {t u : Outbound} {us ps : List Post} {p : Post}

theorem Clear.verdict (C : Clear r t) (hp : p.seq = t.peek) :
    Discipline.controller.verdict r p ≠ .again := by
  intro again
  have seen := Inbound.isRepeat_iff.mp (Discipline.verdict_eq_again_iff.mp again).1
  cases C with
  | joined same =>
    have last : t.lastSent = some p.seq := same ▸ seen
    rw [Outbound.peek, last] at hp
    exact p.seq.next_ne_self hp.symm
  | anew fresh other =>
    have begins : p.seq = SeqNum.first := by rw [hp, Outbound.peek, fresh]
    exact other (begins ▸ seen)

theorem Unrepeated.nil : Unrepeated [] .fresh := ⟨fun _ h => (List.not_mem_nil h).elim, .joined rfl⟩

/-- One more frame that is no repeat, and the agent goes on from its number. -/
theorem Unrepeated.concat (fresh : ∀ v ∈ Discipline.controller.verdicts us, v ≠ .again)
    (hv : Discipline.controller.verdict (Discipline.controller.afterAll us) p ≠ .again)
    (t : Outbound) : Unrepeated (us ++ [p]) (t.commit p.seq) := by
  refine ⟨fun v h => ?_, .joined ?_⟩
  · rw [Discipline.verdicts_concat] at h
    rcases mem_or_eq_of_mem_concat h with h | rfl
    · exact fresh v h
    · exact hv
  · rw [Discipline.afterAll_concat]
    rfl

/-- The agent says frames under the next numbers. -/
theorem Unrepeated.tells (U : Unrepeated us t) (T : Tells t ((ps.map Post.emission).map .say) u) :
    Unrepeated (us ++ ps) u := by
  induction ps generalizing us t with
  | nil =>
    cases T
    rwa [List.append_nil]
  | cons p ps ih =>
    cases T with
    | say next rest =>
      have more := ih (.concat U.fresh (U.clear.verdict next) t) rest
      rwa [List.append_assoc] at more

/-- The agent begins its numbers anew. -/
theorem Unrepeated.renew (U : Unrepeated us t) (h : t.lastSent ≠ some SeqNum.first) :
    Unrepeated us .fresh := by
  refine ⟨U.fresh, .anew rfl ?_⟩
  cases U.clear with
  | joined same => exact same ▸ h
  | anew _ other => exact other

/-- The agent begins its numbers anew and announces it, whatever the controller has seen last. -/
theorem Unrepeated.announced (fresh : ∀ v ∈ Discipline.controller.verdicts us, v ≠ .again)
    (hk : p.kind = .agentStart) (t : Outbound) : Unrepeated (us ++ [p]) (t.commit p.seq) := by
  refine .concat fresh ?_ t
  rw [Discipline.verdict_of_exempt (by rw [hk]; rfl) (by rw [hk]; rfl)]
  exact Verdict.noConfusion

/-! ## Which restarts are safe, and what gets into slots -/

/-- The response in octets, with its stream. -/
def responseIn (octets : Octets) : Option (StreamId × Octets) :=
  match Incoming.ofOctets octets with
  | .frame header stream payload =>
    if FrameKind.ofCode? header.kind = some .response then some (stream, payload) else none
  | _ => none

theorem responseIn_octets (p : Post) :
    responseIn p.octets = if p.kind = .response then some (p.stream, p.payload) else none := by
  simp [responseIn, Incoming.ofOctets_octets]

namespace Dialogue

variable {L M : Type} [FrameLink L] [FrameLink M]

/-- The rule by which the agent starts over only if it announces that, or has used last another
number than the first. -/
def heralded (d : Dialogue L M) : Action → Bool
  | .agent .hear =>
    d.down[d.agent.heard]?.all fun octets =>
      kindIn octets != some .agentReset || d.agent.endpoint.config.announce ||
        d.agent.endpoint.lastBefore octets != some SeqNum.first
  | _ => true

/-- The response that the receive path has passed on in a step, as it is in its slot after it. -/
def passedOn (d d' : Dialogue L M) : Option (StreamId × Octets) :=
  match d.controller.endpoint.receiving, d'.controller.endpoint.receiving with
  | some response, none =>
    (d'.controller.endpoint.slots.get response.stream).item.map (response.stream, ·)
  | _, _ => none

/-- The responses that get into slots as steps are taken, in order. -/
def stored (d : Dialogue L M) : List Action → List (StreamId × Octets)
  | [] => []
  | action :: rest =>
    match d.act action with
    | some d' => (d.passedOn d').toList ++ d'.stored rest
    | none => []

variable {d d' : Dialogue L M} {ds us : List Post}

/-- The agent is running on a link that takes every frame, the controller's slots are open, and no
frame of the agent is a repeat. -/
structure Undropped (d : Dialogue L M) (ds us : List Post) : Prop where
  heeds : Heeds d ds us
  unrepeated : Unrepeated us d.agent.endpoint.outbound
  running : d.agent.endpoint.running = true
  ready : FrameLink.Ready d.agent.endpoint.link
  opened : ∀ stream, (d.controller.endpoint.slots.get stream).closed = false

/-! ## Steps of the agent -/

/-- What has come behind the frames that the agent had said is what it has uttered. -/
theorem Heeds.uttered (H : Heeds d ds us) {a : Agent.Host M} {posts : List Post}
    (H' : Heeds { d with agent := a } ds (us ++ posts)) {words : List Word}
    (U : Agent.Utters Emission.Addressed d.agent.endpoint a.endpoint words) :
    emissions words = posts.map Post.emission := by
  obtain ⟨ps, said⟩ := exists_posts U.frames
  have up : us.map Post.octets ++ posts.map Post.octets =
      us.map Post.octets ++ ps.map Post.octets := by
    rw [← List.map_append, ← H'.up, Dialogue.up, U.taken, ← H.up, spoken, said, List.map_map]
    rfl
  have same : posts = ps :=
    (List.map_inj_right fun _ _ => Post.octets_injective).mp (List.append_cancel_left up)
  rw [said, same]

/-- A step of the agent that leaves its next frame no repeat. -/
theorem Undropped.uttered (U : Undropped d ds us) {action : Agent.Action} {a : Agent.Host M}
    (ha : d.agent.act d.down action = some a) {words : List Word}
    (H : Agent.Utters Emission.Addressed d.agent.endpoint a.endpoint words)
    (next : ∀ ps, emissions words = ps.map Post.emission →
      Unrepeated (us ++ ps) a.endpoint.outbound) :
    ∃ ps, Undropped { d with agent := a } ds (us ++ ps) := by
  have step := U.heeds.agent ha
  obtain ⟨-, running, ready⟩ := step.keeps
  obtain ⟨K, posts, heeds, -⟩ := step.sends U.heeds
  exact ⟨posts, heeds, next posts (U.heeds.uttered heeds H), running.trans U.running, ready U.ready,
    U.opened⟩

theorem Undropped.said (U : Undropped d ds us) {action : Agent.Action} {a : Agent.Host M}
    (ha : d.agent.act d.down action = some a)
    (said : Agent.Says Emission.Addressed d.agent.endpoint a.endpoint) :
    ∃ ps, Undropped { d with agent := a } ds (us ++ ps) := by
  obtain ⟨es, H⟩ := said
  refine U.uttered ha H fun ps e => U.unrepeated.tells ?_
  rw [emissions_map_say] at e
  exact e ▸ H.tells

/-- The agent starts over. -/
theorem Undropped.restart (U : Undropped d ds us) {action : Agent.Action} {a : Agent.Host M}
    (ha : d.agent.act d.down action = some a) {octets : Octets}
    (hk : kindIn octets = some .agentReset)
    (eq : a.endpoint = d.agent.endpoint.receive (some octets))
    (ok : d.agent.endpoint.config.announce = true ∨
      d.agent.endpoint.lastBefore octets ≠ some SeqNum.first) :
    ∃ ps, Undropped { d with agent := a } ds (us ++ ps) := by
  obtain ⟨before, after, S⟩ := d.agent.endpoint.startsOver_receive hk
  obtain ⟨t, ends, last⟩ := S.ends
  have utters := S.utters
  have begins := S.begins
  rw [← eq] at utters begins
  refine U.uttered ha utters fun ps said => ?_
  rw [emissions_append, emissions_map_say, emissions_renew, emissions_map_say] at said
  obtain ⟨front, back, rfl, rfl, rfl⟩ := List.map_eq_append_iff.mp said.symm
  have reported : Unrepeated (us ++ front) t := U.unrepeated.tells ends
  rw [← List.append_assoc]
  rcases ok with announce | other
  · obtain ⟨e, only, kind⟩ := S.announced announce U.running U.ready
    obtain ⟨q, rfl, rfl⟩ := List.map_eq_singleton_iff.mp only
    rw [Tells.of_say begins]
    exact .announced reported.fresh kind .fresh
  · exact (reported.renew (last ▸ other)).tells begins

theorem Undropped.agent (U : Undropped d ds us) {action : Agent.Action} {a : Agent.Host M}
    (ha : d.agent.act d.down action = some a) (ok : d.heralded (.agent action) = true) :
    ∃ ps, Undropped { d with agent := a } ds (us ++ ps) := by
  by_cases hears : action = .hear
  · subst hears
    obtain ⟨octets, next, free, eq⟩ := Agent.Host.act_hear ha
    have heard := next
    rw [U.heeds.down] at heard
    obtain ⟨p, hp, rfl⟩ := getElem?_map_octets heard
    have endpoint := congrArg Agent.Host.endpoint eq
    by_cases hk : p.kind = .agentReset
    · refine U.restart ha (by simpa using hk) endpoint ?_
      simpa [heralded, next, hk] using ok
    · refine U.said ha ?_
      rw [endpoint]
      refine (d.agent.endpoint.says_receive (by simpa using hk)).mono fun e may => ?_
      refine (may.resolve_right fun echo => ?_).addressed
      obtain ⟨header, bad, -⟩ := echo.stream
      rw [Incoming.ofOctets_octets] at bad
      cases bad
  · exact U.said ha (Agent.Host.says_act U.heeds.mild ha hears).1

/-! ## Steps of the controller -/

theorem Undropped.controller (U : Undropped d ds us) {action : Controller.Action}
    {c : Controller.Host L} (hc : d.controller.act d.up action = some c) :
    ∃ ps, Undropped { d with controller := c } (ds ++ ps) us := by
  have opened : ∀ stream, (c.endpoint.slots.get stream).closed = false := fun stream =>
    (Controller.Host.closed_act hc stream).trans (U.opened stream)
  cases U.heeds.controller hc with
  | spoke attempts posts speech kept tried heard heeds =>
    exact ⟨posts, heeds, U.unrepeated, U.running, U.ready, opened⟩
  | heard p next free eq heeds =>
    exact ⟨[], by rwa [List.append_nil], U.unrepeated, U.running, U.ready, opened⟩
  | passed endpoint deliver eq heeds =>
    exact ⟨[], by rwa [List.append_nil], U.unrepeated, U.running, U.ready, opened⟩

/-- The response that the receive path holds. -/
def held (d : Dialogue L M) : List (StreamId × Octets) :=
  (d.controller.endpoint.receiving.map fun response => (response.stream, response.body)).toList

/-- The responses among the frames that the controller has heard. -/
def heardResponses (d : Dialogue L M) : List (StreamId × Octets) :=
  (d.up.take d.controller.heard).filterMap responseIn

omit [FrameLink L] [FrameLink M] in
theorem passedOn_of_receiving
    (h : d'.controller.endpoint.receiving = d.controller.endpoint.receiving) :
    d.passedOn d' = none := by
  rw [passedOn, h]
  cases d.controller.endpoint.receiving <;> rfl

/-- In a step of the controller the responses `new` are heard. They and what was held are passed on
or are held after it. -/
structure Delivers (d : Dialogue L M) (c : Controller.Host L) (new : List (StreamId × Octets)) :
    Prop where
  heard : heardResponses { d with controller := c } = d.heardResponses ++ new
  passed : d.held ++ new =
    (d.passedOn { d with controller := c }).toList ++ held { d with controller := c }

theorem Undropped.delivers_heard (U : Undropped d ds us) {p : Post} {c : Controller.Host L}
    (next : us[d.controller.heard]? = some p) (free : d.controller.endpoint.receiving = none)
    (eq : c = { d.controller with
      endpoint := d.controller.endpoint.receive (some p.octets)
      heard := d.controller.heard + 1 }) :
    Delivers d c (responseIn p.octets).toList := by
  have fresh : Discipline.controller.verdict d.controller.endpoint.inbound p ≠ .again := by
    rw [U.heeds.controller_inbound free]
    exact U.unrepeated.fresh _ (verdict_mem next)
  have here : d.up[d.controller.heard]? = some p.octets := by
    rw [U.heeds.up, List.getElem?_map, next]
    rfl
  have takes : d.up.take c.heard = d.up.take d.controller.heard ++ [p.octets] := by
    rw [eq]
    exact take_succ_of_getElem? here
  obtain ⟨handshake, slot, log, e⟩ := Controller.receive_octets free U.heeds.onStart p
  have receiving : c.endpoint.receiving =
      if p.kind = .response then some ⟨p.stream, p.payload, p.seq⟩ else none := by
    rw [eq, e]
    simp [Controller.holds, fresh]
  refine ⟨?_, ?_⟩
  · have said : ({ d with controller := c } : Dialogue L M).up = d.up := rfl
    rw [heardResponses, said, takes, List.filterMap_append]
    cases h : responseIn p.octets <;> simp [heardResponses, h]
  · rw [responseIn_octets]
    by_cases hk : p.kind = .response <;> simp [held, passedOn, free, receiving, hk]

theorem Undropped.delivers (U : Undropped d ds us) {action : Controller.Action}
    {c : Controller.Host L} (hc : d.controller.act d.up action = some c) :
    ∃ new, Delivers d c new := by
  cases U.heeds.controller hc with
  | spoke attempts posts speech kept tried heard heeds =>
    refine ⟨[], ?_, ?_⟩
    · rw [heardResponses, heardResponses, heard, List.append_nil]
      rfl
    · rw [passedOn_of_receiving kept.receiving, held, held, kept.receiving]
      simp
  | heard p next free eq heeds => exact ⟨_, U.delivers_heard next free eq⟩
  | passed endpoint deliver eq heeds =>
    obtain ⟨response, hr, room, e⟩ := Controller.deliver_cases deliver
    have opened := U.opened response.stream
    refine ⟨[], ?_, ?_⟩
    · rw [heardResponses, eq, List.append_nil]
      rfl
    · simp [held, passedOn, hr, eq, e, opened]

/-! ## Runs -/

/-- In each step the responses that are held or heard stay accounted for. -/
theorem Run.stores {actions : List Action} (run : Run heralded d actions d') {ds us : List Post}
    (U : Undropped d ds us) {items : List (StreamId × Octets)}
    (D : items ++ d.held = d.heardResponses) :
    (∃ ds us, Undropped d' ds us) ∧ (items ++ d.stored actions) ++ d'.held = d'.heardResponses := by
  induction run generalizing ds us items with
  | nil d => exact ⟨⟨ds, us, U⟩, by rwa [stored, List.append_nil]⟩
  | @cons d e d' action actions ok step rest ih =>
    simp only [stored, step]
    rw [← List.append_assoc]
    cases action with
    | controller action =>
      obtain ⟨c, hc, rfl⟩ := Option.map_eq_some_iff.mp step
      obtain ⟨ps, U'⟩ := U.controller hc
      obtain ⟨new, D'⟩ := U.delivers hc
      refine ih U' ?_
      rw [D'.heard, ← D, List.append_assoc, ← D'.passed, List.append_assoc]
    | agent action =>
      obtain ⟨a, ha, rfl⟩ := Option.map_eq_some_iff.mp step
      obtain ⟨ps, U'⟩ := U.agent ha ok
      refine ih U' ?_
      have same : ({ d with agent := a } : Dialogue L M).heardResponses = d.heardResponses := by
        rw [heardResponses, heardResponses, U'.heeds.up, U.heeds.up, ← List.map_take,
          ← List.map_take, List.take_append_of_le_length U.heeds.heardUp_le]
      have silent : d.passedOn { d with agent := a } = none := passedOn_of_receiving rfl
      rw [silent, same, ← D, Option.toList_none, List.append_nil]
      rfl

theorem undropped_start {link : L} {agentLink : M} (hl : FrameLink.taken link = [])
    (hm : FrameLink.taken agentLink = []) (hready : FrameLink.Ready agentLink)
    (config : ControllerConfig) (seed : UInt32) (agentConfig : AgentConfig) :
    ∃ us, Undropped (ofEnds (Controller.start link config seed)
      (Agent.start agentLink agentConfig).2) [] us := by
  obtain ⟨us, H', -⟩ := inTune_start hl hm config seed agentConfig
  obtain ⟨⟨posts, smooth⟩, kept⟩ := start_smooth agentLink agentConfig
  obtain ⟨es, said⟩ := Agent.says_start agentLink agentConfig
  have e := (Heeds.fresh hl hm config seed agentConfig).uttered
    (a := .ofAgent (Agent.start agentLink agentConfig).2) H' said
  rw [emissions_map_say] at e
  exact ⟨us, H', Unrepeated.nil.tells (e ▸ said.tells), kept.running, smooth.ready hready,
    fun stream => congrArg Slot.closed (StreamTable.get_fill Slot.empty stream)⟩

/-- A controller and an agent, from their start, over a link that loses nothing, in whatever order
calls, workers and receive paths take their steps. If the agent announces each restart, or has not
used the first number just before it, then the controller takes no frame for a repeat. Of the
responses that it has heard all have got into their slots, in order, but for one that the receive
path may still hold; when nothing is on its way, these are all that the agent has sent. -/
theorem responses_outlive_restarts (config : ControllerConfig) (seed : UInt32)
    (agentConfig : AgentConfig) (link : L) (agentLink : M) (hl : FrameLink.taken link = [])
    (hm : FrameLink.taken agentLink = []) (hready : FrameLink.Ready agentLink)
    (d : Dialogue L M) (actions : List Action)
    (run : Run heralded (ofEnds (Controller.start link config seed)
      (Agent.start agentLink agentConfig).2) actions d) :
    d.controller.endpoint.stats.repeats = 0 ∧
      stored (ofEnds (Controller.start link config seed) (Agent.start agentLink agentConfig).2)
        actions ++ d.held = (d.up.take d.controller.heard).filterMap responseIn ∧
      (d.toController = [] → d.controller.endpoint.receiving = none →
        stored (ofEnds (Controller.start link config seed) (Agent.start agentLink agentConfig).2)
          actions = d.up.filterMap responseIn) := by
  obtain ⟨us, U⟩ := undropped_start hl hm hready config seed agentConfig
  obtain ⟨⟨ds', us', U'⟩, delivered⟩ :=
    run.stores U (show [] ++ held _ = heardResponses _ from rfl)
  rw [List.nil_append] at delivered
  refine ⟨?_, delivered, fun arrived free => ?_⟩
  · have counted : d.controller.endpoint.stats.repeats = _ := U'.heeds.heardUp.repeats
    rw [counted, List.count_eq_zero, Discipline.verdicts_take]
    exact fun again => U'.unrepeated.fresh _ (List.mem_of_mem_take again) rfl
  · have all : d.up.take d.controller.heard = d.up :=
      List.take_of_length_le (List.drop_eq_nil_iff.mp arrived)
    have none_held : d.held = [] := by simp [held, free]
    rwa [heardResponses, all, none_held, List.append_nil] at delivered

/-! ## Restarts that are not announced -/

/-- A command is carried out, and the controller hears the response. -/
def exchange (id : CommandId) (answer : Octets) : List Action :=
  [.controller (.send ⟨StreamId.control, id, []⟩), .agent .hear, .agent .pass, .agent (.takeUp 0),
    .agent (.handle 0 (.ok answer)), .agent (.answer 0), .controller .hear]

/-- A caller takes the response that has been heard. -/
def collect (id : CommandId) (thread : Nat) : List Action :=
  [.controller .pass, .controller (.begin (.receive StreamId.control id none none)),
    .controller (.advance thread)]

/-- The agent is reset and carries a command out. -/
def resetThenExchange : List Action :=
  [.controller .reset, .agent .hear] ++ exchange ⟨5, 2, 0⟩ [9]

/-- An agent that announces nothing has sent a response and an event before it is reset. -/
theorem responses_outlive_restarts_unannounced :
    ∃ d : Dialogue ScriptedLink ScriptedLink,
      (ofEnds (Controller.start ⟨[], []⟩ ⟨none, .ofMillis 20⟩ 0)
        (Agent.start ⟨[], []⟩ ⟨"1.0", false⟩).2).perform heralded
        (exchange ⟨5, 1, 0⟩ [8] ++ collect ⟨5, 1, 0⟩ 0 ++
          [.agent (.event ⟨2, 1⟩ []), .controller .hear] ++ resetThenExchange ++
          [.controller .pass]) = some d ∧
      d.up = [[0x10, 0, 5, 0, 5, 1, 0, 0, 8], [0x21, 0, 4, 0, 2, 1, 0, 0],
        [0x10, 0, 5, 0, 5, 2, 0, 0, 9]] ∧
      d.controller.endpoint.stats.repeats = 0 ∧
      stored (ofEnds (Controller.start (⟨[], []⟩ : ScriptedLink) ⟨none, .ofMillis 20⟩ 0)
        (Agent.start (⟨[], []⟩ : ScriptedLink) ⟨"1.0", false⟩).2)
        (exchange ⟨5, 1, 0⟩ [8] ++ collect ⟨5, 1, 0⟩ 0 ++
          [.agent (.event ⟨2, 1⟩ []), .controller .hear] ++ resetThenExchange ++
          [.controller .pass]) = d.up.filterMap responseIn := by
  obtain ⟨d, hd, said, arrived, free⟩ : ∃ d : Dialogue ScriptedLink ScriptedLink,
      (ofEnds (Controller.start ⟨[], []⟩ ⟨none, .ofMillis 20⟩ 0)
        (Agent.start ⟨[], []⟩ ⟨"1.0", false⟩).2).perform heralded
        (exchange ⟨5, 1, 0⟩ [8] ++ collect ⟨5, 1, 0⟩ 0 ++
          [.agent (.event ⟨2, 1⟩ []), .controller .hear] ++ resetThenExchange ++
          [.controller .pass]) = some d ∧
      d.up = [[0x10, 0, 5, 0, 5, 1, 0, 0, 8], [0x21, 0, 4, 0, 2, 1, 0, 0],
        [0x10, 0, 5, 0, 5, 2, 0, 0, 9]] ∧
      d.toController = [] ∧ d.controller.endpoint.receiving = none := ⟨_, rfl, rfl, rfl, rfl⟩
  have outlive := responses_outlive_restarts ⟨none, .ofMillis 20⟩ 0 ⟨"1.0", false⟩
    (⟨[], []⟩ : ScriptedLink) (⟨[], []⟩ : ScriptedLink) rfl rfl rfl d _ (.of_perform hd)
  exact ⟨d, hd, said, outlive.1, outlive.2.2 arrived free⟩

/-- An agent that announces nothing has sent nothing but one response before it is reset. Each
operation succeeds and is over before the next begins, and yet the controller takes the response to
the command after the reset for a repeat: it is neither held nor in its slot. -/
theorem restart_repeats :
    ∃ d d' : Dialogue ScriptedLink ScriptedLink,
      (ofEnds (Controller.start ⟨[], []⟩ ⟨none, .ofMillis 20⟩ 0)
        (Agent.start ⟨[], []⟩ ⟨"1.0", false⟩).2).perform anything
        (exchange ⟨5, 1, 0⟩ [8] ++ collect ⟨5, 1, 0⟩ 0) = some d ∧
      d.toAgent = [] ∧ d.toController = [] ∧
      d.perform anything resetThenExchange = some d' ∧
      d'.toAgent = [] ∧ d'.toController = [] ∧
      d'.controller.attempts.map Controller.Attempt.outcome = [.ok (), .ok (), .ok ()] ∧
      d'.up = [[0x10, 0, 5, 0, 5, 1, 0, 0, 8], [0x10, 0, 5, 0, 5, 2, 0, 0, 9]] ∧
      d'.controller.endpoint.stats.repeats = 1 ∧
      d'.controller.endpoint.receiving = none ∧
      (d'.controller.endpoint.slots.get StreamId.control).item = none :=
  ⟨_, _, rfl, rfl, rfl, rfl, rfl, rfl, rfl, rfl, rfl, rfl, rfl⟩

end Dialogue
end CommandLink
