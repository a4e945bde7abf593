import CommandLink.Proofs.Agent.Sync
import CommandLink.Proofs.Controller.Sync
import CommandLink.Proofs.Dialogue.Basic

/-! # Getting back in step

The two ends may have lost each other: frames were lost, an attempt to send failed, one of them has
started anew. A sync request puts that right. Whatever the controller has sent last and the agent
has seen last, the agent takes the request for neither a repeat nor a sign of lost frames, answers
it once, and is in step with everything that the controller sends from then on
(`Dialogue.sync_reanchors`).

The frames from the request on are in step for an agent that remembers anything whatsoever
(`Anchored`), so it does not matter what the agent makes of the frames that were still on their way
when the request left. -/

namespace CommandLink
namespace Dialogue

variable {L M : Type} [FrameLink L] [FrameLink M]

/-- What every run keeps to: syncs under way are genuine, and nobody shuts the agent down. -/
structure Orderly (d : Dialogue L M) : Prop where
  genuine : d.controller.Genuine
  mild : d.agent.Mild

omit [FrameLink L] [FrameLink M] in
theorem Orderly.ofEnds (c : Controller L) (a : Agent M) : Orderly (ofEnds c a) :=
  ⟨fun _ h => (List.not_mem_nil h).elim, fun _ h => (List.not_mem_nil h).elim⟩

theorem Orderly.act {d d' : Dialogue L M} {action : Action} (O : Orderly d)
    (h : d.act action = some d') : Orderly d' := by
  cases action with
  | controller action =>
    obtain ⟨c, hc, rfl⟩ := Option.map_eq_some_iff.mp h
    exact ⟨(Controller.Host.act_tries O.genuine hc).1, O.mild⟩
  | agent action =>
    obtain ⟨a, ha, rfl⟩ := Option.map_eq_some_iff.mp h
    exact ⟨O.genuine, (Agent.Host.act_effect O.mild ha).2⟩

/-! ## What the controller says -/

/-- Since `d₀` the controller has said `ds`. If no attempt has failed and a sync request came first,
these frames are in step for every agent. -/
structure Anchored (d₀ d : Dialogue L M) (ds : List Post) : Prop extends Orderly d where
  down : d.down = d₀.down ++ ds.map Post.octets
  sound : ∀ p ∈ ds, p.SoundSync
  tried : d₀.controller.attempts <+: d.controller.attempts
  log : d₀.controller.endpoint.log <+: d.controller.endpoint.log
  inStep : d₀.controller.Unfailing d.controller → ∀ p rest, ds = p :: rest →
    p.kind = .syncRequest → ∀ r, Discipline.agent.InStepFrom r ds d.controller.endpoint.outbound

variable {d₀ d₁ d d' : Dialogue L M} {ds us : List Post}

omit [FrameLink M] in
theorem Anchored.refl (O : Orderly d) : Anchored d d [] where
  toOrderly := O
  down := (List.append_nil _).symm
  sound _ hp := (List.not_mem_nil hp).elim
  tried := List.prefix_refl _
  log := List.prefix_refl _
  inStep _ _ _ h := nomatch h

/-- A sync request that has got through anchors whatever the agent remembers. -/
theorem inStepFrom_of_first {c c' : Controller L} {attempts : List Controller.Attempt}
    {p : Post} {rest : List Post} (speech : Controller.Speech c c' attempts (p :: rest))
    (hk : p.kind = .syncRequest) (r : Inbound) :
    Discipline.agent.InStepFrom r (p :: rest) c'.outbound := by
  cases speech with
  | said m p hm hs _ outbound =>
    rw [outbound]
    exact .anchor (by rw [hk]; rfl) (by rw [hk]; rfl) r c.outbound

theorem Anchored.controller (A : Anchored d₀ d ds) {action : Controller.Action}
    {c : Controller.Host L} (h : d.controller.act d.up action = some c) :
    ∃ posts, Anchored d₀ { d with controller := c } (ds ++ posts) := by
  obtain ⟨genuine, attempts, posts, tries⟩ := Controller.Host.act_tries A.genuine h
  have tried : d.controller.attempts <+: c.attempts := by
    obtain ⟨new, e⟩ := tries.tried
    exact ⟨new, e.symm⟩
  have log : d.controller.endpoint.log <+: c.endpoint.log := by
    obtain ⟨told, e⟩ := tries.log
    exact ⟨told, e.symm⟩
  have taken : FrameLink.taken c.endpoint.link = d.down ++ posts.map Post.octets :=
    tries.speech.taken
  refine ⟨posts, ⟨genuine, A.mild⟩, ?_, ?_, A.tried.trans tried, A.log.trans log, ?_⟩
  · rw [Dialogue.down, taken, A.down, List.map_append, List.append_assoc]
  · intro p hp
    exact (List.mem_append.mp hp).elim (A.sound p) (tries.sound p)
  · intro ok p rest hds hk r
    have before := ok.before A.tried A.log tried log
    cases ds with
    | nil =>
      rw [List.nil_append] at hds ⊢
      subst hds
      exact inStepFrom_of_first tries.speech hk r
    | cons q qs =>
      have hq : q = p := (List.cons.inj hds).1
      exact tries.speech.inStep (tries.ok before.2) (A.inStep before.1 q qs rfl (hq ▸ hk) r)

/-! ## What the agent makes of it -/

/-- Since `d₁` the agent has taken in what it has heard of `ds`, and said `us`. `n` frames had been
said to it before the first of `ds`. -/
structure Resumed (d₁ d : Dialogue L M) (n : Nat) (ds us : List Post) : Prop where
  running : d.agent.endpoint.running = true
  ready : FrameLink.Ready d.agent.endpoint.link
  heard_ge : n ≤ d.agent.heard
  heard_le : d.agent.heard - n ≤ ds.length
  ear : d₁.agent.endpoint.ear.Since .agent d.agent.endpoint.ear (ds.take (d.agent.heard - n))
  gaps : d₁.agent.endpoint.stats.gaps ≤ d.agent.endpoint.stats.gaps
  up : d.up = d₁.up ++ us.map Post.octets
  replies : Agent.syncsIn us =
    (Agent.syncReplies d₁.agent.endpoint.inbound (ds.take (d.agent.heard - n))).map
      (StreamId.control, ·)

variable {n : Nat}

omit [FrameLink L] in
theorem Resumed.refl (running : d.agent.endpoint.running = true)
    (ready : FrameLink.Ready d.agent.endpoint.link) (ds : List Post) :
    Resumed d d d.agent.heard ds [] where
  running := running
  ready := ready
  heard_ge := Nat.le_refl _
  heard_le := by rw [Nat.sub_self]; exact Nat.zero_le _
  ear := by rw [Nat.sub_self]; exact .refl _
  gaps := Nat.le_refl _
  up := (List.append_nil _).symm
  replies := by rw [Nat.sub_self]; rfl

omit [FrameLink L] in
theorem Resumed.controller (R : Resumed d₁ d n ds us) (c : Controller.Host L) (posts : List Post) :
    Resumed d₁ { d with controller := c } n (ds ++ posts) us := by
  have same : (ds ++ posts).take (d.agent.heard - n) = ds.take (d.agent.heard - n) :=
    List.take_append_of_le_length R.heard_le
  have longer : d.agent.heard - n ≤ (ds ++ posts).length :=
    Nat.le_trans R.heard_le (by simp)
  exact ⟨R.running, R.ready, R.heard_ge, longer, same.symm ▸ R.ear, R.gaps, R.up,
    same.symm ▸ R.replies⟩

omit [FrameLink L] in
/-- The agent says `posts`, none of which answers a sync request. -/
theorem Resumed.said (R : Resumed d₁ d n ds us) {a : Agent.Host M} {K : FrameKind → Prop}
    {posts : List Post} (speech : Agent.Speech K d.agent.endpoint a.endpoint posts)
    (hK : ∀ kind, K kind → kind ≠ .syncResponse) (running : a.endpoint.running = true)
    (heard : a.heard = d.agent.heard)
    (ear : d₁.agent.endpoint.ear.Since .agent a.endpoint.ear (ds.take (d.agent.heard - n)))
    (gaps : d.agent.endpoint.stats.gaps ≤ a.endpoint.stats.gaps) :
    Resumed d₁ { d with agent := a } n ds (us ++ posts) where
  running := running
  ready := speech.ready R.ready
  heard_ge := heard.symm ▸ R.heard_ge
  heard_le := heard.symm ▸ R.heard_le
  ear := heard.symm ▸ ear
  gaps := Nat.le_trans R.gaps gaps
  up := by
    rw [List.map_append, ← List.append_assoc, ← R.up]
    exact speech.link
  replies := by
    rw [Agent.syncsIn_append, Agent.syncsIn_of_kinds fun p hp => hK _ (speech.kinds p hp),
      List.append_nil, R.replies]
    exact congrArg (fun k => (Agent.syncReplies _ (ds.take (k - n))).map (StreamId.control, ·))
      heard.symm

omit [FrameLink L] in
theorem Resumed.inbound (R : Resumed d₁ d n ds us) (idle : d₁.agent.endpoint.receiving = none)
    (free : d.agent.endpoint.receiving = none) :
    d.agent.endpoint.inbound =
      (ds.take (d.agent.heard - n)).foldl Discipline.agent.after d₁.agent.endpoint.inbound := by
  have inbound := R.ear.inbound
  rw [Ear.pass_of_none (by simp [Agent.ear, Ear.of, free]),
    Ear.pass_of_none (by simp [Agent.ear, Ear.of, idle])] at inbound
  exact inbound

theorem Resumed.agent (R : Resumed d₁ d n ds us)
    (idle : d₁.agent.endpoint.receiving = none) {before : List Octets} (hn : before.length = n)
    (down : d.down = before ++ ds.map Post.octets) (sound : ∀ p ∈ ds, p.SoundSync)
    (mild : d.agent.Mild) {action : Agent.Action} {a : Agent.Host M}
    (h : d.agent.act d.down action = some a) :
    ∃ posts, Resumed d₁ { d with agent := a } n ds (us ++ posts) := by
  obtain ⟨effect, -⟩ := Agent.Host.act_effect mild h
  cases effect with
  | spoke posts smooth kept heard =>
    refine ⟨posts, R.said smooth.toSpeech (fun _ => Agent.ne_syncResponse_of_utterance)
      (kept.running.trans R.running) heard (kept.ear ▸ R.ear) (Nat.le_of_eq ?_)⟩
    exact (congrArg Ear.gaps kept.ear).symm
  | heard octets next free eq =>
    rw [down, List.getElem?_append_right (hn ▸ R.heard_ge), hn] at next
    obtain ⟨p, hp, rfl⟩ := getElem?_map_octets next
    have more : d.agent.heard + 1 - n = d.agent.heard - n + 1 := Nat.succ_sub R.heard_ge
    have taken : ds.take (d.agent.heard + 1 - n) = ds.take (d.agent.heard - n) ++ [p] := by
      rw [more, take_succ_of_getElem? hp]
    obtain ⟨posts, speech, replies⟩ :=
      Agent.receive_syncs R.running R.ready (sound p (List.mem_of_getElem? hp))
    have ear := Agent.ear_receive free p
    obtain ⟨link, outbound, sent, log, e⟩ := (Agent.receive_becomes free p).eq
    subst eq
    refine ⟨posts, ?_, speech.ready R.ready, Nat.le_succ_of_le R.heard_ge, ?_, ?_, ?_, ?_, ?_⟩
    · rw [e]
      exact R.running
    · rw [more]
      exact lt_length_of_getElem? hp
    · rw [taken, ear]
      refine R.ear.hear (by simp [Agent.ear, Ear.of, free]) fun hw => ?_
      have hk : p.kind = .command := by
        simp only [Agent.awaits, Bool.and_eq_true, beq_iff_eq] at hw
        exact hw.1
      rw [hk]
      exact ⟨rfl, rfl⟩
    · refine Nat.le_trans R.gaps ?_
      have grows := Ear.gaps_le_hear .agent d.agent.endpoint.ear p (d.agent.endpoint.awaits p)
      rw [← ear] at grows
      exact grows
    · rw [List.map_append, ← List.append_assoc, ← R.up]
      exact speech.link
    · rw [Agent.syncsIn_append, replies, R.replies, taken, Agent.syncReplies_concat,
        List.map_append, R.inbound idle free]
  | passed b deliver eq =>
    obtain ⟨command, -, becomes, posts, smooth⟩ := Agent.deliver_cases deliver
    have ear := Agent.ear_deliver deliver
    have running : b.running = true := by
      obtain ⟨-, B⟩ | ⟨-, -, B⟩ := becomes
      · obtain ⟨link, outbound, sent, log, e⟩ := B.eq
        rw [e]
        exact R.running
      · obtain ⟨link, outbound, sent, log, e⟩ := B.eq
        rw [e]
        exact R.running
    subst eq
    refine ⟨posts, R.said smooth.toSpeech
      (fun _ hk => Agent.ne_syncResponse_of_reply hk (by decide)) running rfl ?_ ?_⟩
    · show Ear.Since _ _ b.ear _
      rw [ear]
      exact Ear.since_pass_iff.mpr R.ear
    · have grows := Ear.gaps_le_pass d.agent.endpoint.ear
      rw [← ear] at grows
      exact grows

/-! ## Back in step -/

/-- The run of a dialogue in which the controller has said `ds` since `d₀`. -/
theorem Anchored.run (A : Anchored d₀ d ds) {actions : List Action}
    (run : Run anything d actions d') : ∃ ds, Anchored d₀ d' ds := by
  have step : ∀ {d action d'}, (∃ ds, Anchored d₀ d ds) → anything d action = true →
      d.act action = some d' → ∃ ds, Anchored d₀ d' ds := by
    rintro d action d' ⟨ds, A⟩ - h
    cases action with
    | controller action =>
      obtain ⟨c, hc, rfl⟩ := Option.map_eq_some_iff.mp h
      obtain ⟨posts, A'⟩ := A.controller hc
      exact ⟨_, A'⟩
    | agent action =>
      have O := A.toOrderly.act h
      obtain ⟨a, ha, rfl⟩ := Option.map_eq_some_iff.mp h
      exact ⟨ds, O, A.down, A.sound, A.tried, A.log, A.inStep⟩
  exact run.preserves step ⟨ds, A⟩

theorem Resumed.run (A : Anchored d₀ d ds) (R : Resumed d₁ d d₀.down.length ds us)
    (idle : d₁.agent.endpoint.receiving = none) {actions : List Action}
    (run : Run anything d actions d') :
    ∃ ds us, Anchored d₀ d' ds ∧ Resumed d₁ d' d₀.down.length ds us := by
  have step : ∀ {d action d'},
      (∃ ds us, Anchored d₀ d ds ∧ Resumed d₁ d d₀.down.length ds us) →
      anything d action = true → d.act action = some d' →
      ∃ ds us, Anchored d₀ d' ds ∧ Resumed d₁ d' d₀.down.length ds us := by
    rintro d action d' ⟨ds, us, A, R⟩ - h
    cases action with
    | controller action =>
      obtain ⟨c, hc, rfl⟩ := Option.map_eq_some_iff.mp h
      obtain ⟨posts, A'⟩ := A.controller hc
      exact ⟨_, us, A', R.controller c posts⟩
    | agent action =>
      have O := A.toOrderly.act h
      obtain ⟨a, ha, rfl⟩ := Option.map_eq_some_iff.mp h
      obtain ⟨posts, R'⟩ := R.agent idle rfl A.down A.sound A.mild ha
      exact ⟨ds, _, ⟨O, A.down, A.sound, A.tried, A.log, A.inStep⟩, R'⟩
  exact run.preserves step ⟨ds, us, A, R⟩

omit [FrameLink L] in
/-- The first answer, once the agent has heard a sync request that came first. -/
theorem Resumed.first_reply {p : Post} {rest : List Post} (R : Resumed d₁ d n (p :: rest) us)
    (heard : 0 < d.agent.heard - n) (hk : p.kind = .syncRequest) {request : SyncRequest}
    (ht : request.token ≠ 0) (hp : p.payload = request.encode) :
    ∃ q, (us.filter fun p => p.kind = .syncResponse).head? = some q ∧ q.kind = .syncResponse ∧
      q.stream = StreamId.control ∧
      q.payload = Agent.syncReply d₁.agent.endpoint.inbound request := by
  have replies := R.replies
  rw [List.take_cons heard, Agent.syncReplies, Agent.syncReplyTo_of_sound hk ht hp] at replies
  obtain ⟨q, qs, hus, hq, -⟩ := List.map_eq_cons_iff.mp replies
  have mem : q ∈ us.filter fun p => p.kind = .syncResponse := hus ▸ List.mem_cons_self
  have kind : q.kind = .syncResponse := by simpa using (List.mem_filter.mp mem).2
  exact ⟨q, by rw [hus]; rfl, kind, congrArg Prod.fst hq, congrArg Prod.snd hq⟩

omit [FrameLink L] in
/-- What the agent has counted and answered, once it is in step with all that the controller has
said. -/
theorem Resumed.outcome (R : Resumed d₁ d n ds us) (idle : d₁.agent.endpoint.receiving = none)
    (sound : ∀ p ∈ ds, p.SoundSync) {t : Outbound}
    (inStep : Discipline.agent.InStepFrom d₁.agent.endpoint.inbound ds t) :
    d.agent.endpoint.stats.repeats = d₁.agent.endpoint.stats.repeats ∧
      d.agent.endpoint.stats.gaps = d₁.agent.endpoint.stats.gaps ∧
      (Agent.syncsIn us).length =
        (ds.take (d.agent.heard - n)).countP (·.kind = .syncRequest) := by
  have start : d₁.agent.endpoint.ear.pass = d₁.agent.endpoint.ear :=
    Ear.pass_of_none (by simp [Agent.ear, Ear.of, idle])
  have smooth : ∀ v ∈ Discipline.agent.verdictsFrom d₁.agent.endpoint.ear.pass.inbound
      (ds.take (d.agent.heard - n)), v = .next := by
    rw [start, Discipline.verdictsFrom_take]
    exact fun v hv => inStep.smooth v (List.mem_of_mem_take hv)
  obtain ⟨repeats, gaps, -⟩ := R.ear.unblemished smooth
  rw [start] at gaps
  refine ⟨repeats, Nat.le_antisymm ?_ R.gaps, ?_⟩
  · exact Nat.le_trans d.agent.endpoint.ear.gaps_le_pass (Nat.le_of_eq gaps)
  · rw [R.replies, List.length_map,
      Agent.length_syncReplies _ fun p hp => sound p (List.mem_of_mem_take hp)]

/-- Two ends in any states, with any frames on their way: after a first run up to `d₀`, the
controller's next frame is a sync request, and nothing that it attempts to send from then on fails.
In `d₁` the agent, which runs on a link that takes every frame, is about to hear that request.
Whatever happens afterwards, the agent counts neither a repeat nor a gap; it answers each sync
request that it hears with one frame, and the first with its token and with the number that the
agent remembered in `d₁`. -/
theorem sync_reanchors (c : Controller L) (a : Agent M) (d₀ d₁ d : Dialogue L M)
    (before meanwhile after : List Action)
    (run₀ : Run anything (ofEnds c a) before d₀)
    (run₁ : Run anything d₀ meanwhile d₁) (run : Run anything d₁ after d)
    (first : (d.down[d₀.down.length]?).bind kindIn = some .syncRequest)
    (ok : d₀.controller.Unfailing d.controller)
    (reached : d₁.agent.heard = d₀.down.length)
    (idle : d₁.agent.endpoint.receiving = none)
    (running : d₁.agent.endpoint.running = true)
    (ready : FrameLink.Ready d₁.agent.endpoint.link) :
    d.agent.endpoint.stats.repeats = d₁.agent.endpoint.stats.repeats ∧
    d.agent.endpoint.stats.gaps = d₁.agent.endpoint.stats.gaps ∧
    ∃ request : SyncRequest, request.token ≠ 0 ∧
      (d.down[d₀.down.length]?).bind (payloadIn .syncRequest StreamId.control) =
        some request.encode ∧
      let asked := framesOf .syncRequest ((d.down.take d.agent.heard).drop d₀.down.length)
      let answers := framesOf .syncResponse (d.up.drop d₁.up.length)
      answers.length = asked.length ∧
      (d₀.down.length < d.agent.heard →
        answers.head?.bind (payloadIn .syncResponse StreamId.control) =
          some (Agent.syncReply d₁.agent.endpoint.inbound request)) := by
  have orderly : Orderly d₀ :=
    run₀.preserves (fun O _ h => O.act h) (Orderly.ofEnds c a)
  obtain ⟨ds₁, A₁⟩ := (Anchored.refl orderly).run run₁
  have R₁ : Resumed d₁ d₁ d₀.down.length ds₁ [] := reached ▸ Resumed.refl running ready ds₁
  obtain ⟨ds, us, A, R⟩ := R₁.run A₁ idle run
  have index : d.down[d₀.down.length]? = (ds.map Post.octets)[0]? := by
    rw [A.down, List.getElem?_append_right (Nat.le_refl _), Nat.sub_self]
  rw [index] at first ⊢
  cases ds with
  | nil => cases first
  | cons p rest =>
    have hk : p.kind = .syncRequest := by simpa using first
    obtain ⟨hs, request, ht, hp⟩ := A.sound p List.mem_cons_self hk
    have inStep := A.inStep ok p rest rfl hk d₁.agent.endpoint.inbound
    obtain ⟨repeats, gaps, count⟩ := R.outcome idle A.sound inStep
    have asked : framesOf .syncRequest ((d.down.take d.agent.heard).drop d₀.down.length) =
        (((p :: rest).take (d.agent.heard - d₀.down.length)).filter
          fun p => p.kind = .syncRequest).map Post.octets := by
      rw [List.drop_take, A.down, List.drop_left, ← List.map_take, framesOf_map_octets]
    have answers : framesOf .syncResponse (d.up.drop d₁.up.length) =
        (us.filter fun p => p.kind = .syncResponse).map Post.octets := by
      rw [R.up, List.drop_left, framesOf_map_octets]
    refine ⟨repeats, gaps, request, ht, by simp [Post.payloadOn, hk, hs, hp], ?_, fun heard => ?_⟩
    · rw [Agent.syncsIn, List.length_map] at count
      rw [asked, answers, List.length_map, List.length_map, count, List.countP_eq_length_filter]
    · obtain ⟨q, hq, hqk, hqs⟩ := R.first_reply (Nat.sub_pos_of_lt heard) hk ht hp
      rw [answers, List.head?_map, hq]
      simp only [Option.map_some, Option.bind_some, payloadIn_octets, Post.payloadOn, hqk,
        hqs.1, hqs.2, and_self, if_true]

/-- A controller that has just started, and whose first command fails with its number used up. -/
def newcomer : Controller ScriptedLink :=
  .start ⟨[true], []⟩ ⟨none, .ofMillis 20⟩ 0

/-- An agent that has seen frame 7 from the controller's predecessor. -/
def veteran : Agent ScriptedLink :=
  { (Agent.start ⟨[], []⟩ ⟨"1.0", true⟩).2 with inbound := ⟨some ⟨7, by decide⟩⟩ }

/-- A sync call up to the point where its request has left. -/
def syncing : List Action :=
  .controller (.begin (.sync (.ofMillis 20))) :: List.replicate 5 (.controller (.advance 0))

/-- The agent hears the request, and then a command. -/
def resumption : List Action :=
  [.agent .hear, .controller (.send ⟨StreamId.control, ⟨5, 2, 0⟩, [9]⟩), .agent .hear, .agent .pass]

theorem sync_reanchors_newcomer :
    ∃ d₀ d₁ d : Dialogue ScriptedLink ScriptedLink,
      (ofEnds newcomer veteran).perform anything
        [.controller (.send ⟨StreamId.control, ⟨5, 1, 0⟩, []⟩)] = some d₀ ∧
      d₀.perform anything syncing = some d₁ ∧ d₁.perform anything resumption = some d ∧
      d₁.agent.endpoint.inbound = ⟨some 7⟩ ∧ d.agent.heard = 2 ∧
      d.agent.endpoint.stats.repeats = 0 ∧ d.agent.endpoint.stats.gaps = 0 ∧
      (framesOf .syncResponse (d.up.drop d₁.up.length)).length = 1 := by
  obtain ⟨d₀, d₁, d, h₀, h₁, h, tried, told, asked, reached, idle, running, ready, seen, heard,
      counted⟩ :
      ∃ d₀ d₁ d : Dialogue ScriptedLink ScriptedLink,
        (ofEnds newcomer veteran).perform anything
          [.controller (.send ⟨StreamId.control, ⟨5, 1, 0⟩, []⟩)] = some d₀ ∧
        d₀.perform anything syncing = some d₁ ∧ d₁.perform anything resumption = some d ∧
        (d.controller.attempts.drop d₀.controller.attempts.length).map
          Controller.Attempt.outcome = [.ok (), .ok ()] ∧
        d.controller.endpoint.log = [] ∧
        ((d.down[d₀.down.length]?).bind kindIn = some .syncRequest ∧
          (framesOf .syncRequest ((d.down.take d.agent.heard).drop d₀.down.length)).length = 1) ∧
        d₁.agent.heard = d₀.down.length ∧ d₁.agent.endpoint.receiving.isNone = true ∧
        d₁.agent.endpoint.running = true ∧ d₁.agent.endpoint.link.script = [] ∧
        d₁.agent.endpoint.inbound = ⟨some 7⟩ ∧ d.agent.heard = 2 ∧
        d₁.agent.endpoint.stats.repeats = 0 ∧ d₁.agent.endpoint.stats.gaps = 0 :=
    ⟨_, _, _, rfl, rfl, rfl, rfl, rfl, ⟨rfl, rfl⟩, rfl, rfl, rfl, rfl, rfl, rfl, rfl, rfl⟩
  have ok : d₀.controller.Unfailing d.controller := by
    constructor
    · intro a ha
      have ho := List.mem_map_of_mem (f := Controller.Attempt.outcome) ha
      rw [tried] at ho
      simpa using ho
    · intro result hr
      rw [told, List.drop_nil] at hr
      exact (List.not_mem_nil hr).elim
  obtain ⟨repeats, gaps, request, -, -, answered, -⟩ :=
    sync_reanchors newcomer veteran d₀ d₁ d _ _ _ (.of_perform h₀) (.of_perform h₁)
      (.of_perform h) asked.1 ok reached (Option.isNone_iff_eq_none.mp idle) running ready
  exact ⟨d₀, d₁, d, h₀, h₁, h, seen, heard, repeats.trans counted.1, gaps.trans counted.2,
    answered.trans asked.2⟩

end Dialogue
end CommandLink
