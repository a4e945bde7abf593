import CommandLink.Proofs.Agent.Emissions
import CommandLink.Proofs.Controller.Arrivals

/-! # Whether the two ends agree on what a frame is

Whatever arrives at an agent, what the agent sends is a frame to a controller (`Valid`), with one
exception: the notice for a buffer that names no stream gives the id back, and the controller drops
the notice for that id. Over a link that loses nothing a controller drops no other frame of an
agent, and behind a frame that it does not drop it finds no gap (`Agent.frames_valid`). Of a notice
that it drops it does not see the number either, and takes the next frame for a sign of loss
(`Agent.echo_dropped`). -/

namespace CommandLink

/-- A controller finds a frame in the octets, of a kind that it knows and for a stream of the link,
and the payload is as long as the header says. -/
def Valid (octets : Octets) : Prop :=
  ∃ header stream payload, Incoming.ofOctets octets = .frame header stream payload ∧
    (FrameKind.ofCode? header.kind).isSome = true ∧
    octets.length = Header.size + header.length.toNat

theorem Post.valid (p : Post) : Valid p.octets := by
  refine ⟨_, _, _, Incoming.ofOctets_octets p, by rw [p.ofCode?_header]; rfl, ?_⟩
  rw [octets, List.length_append, Header.length_encode, p.toNat_length]

/-- It depends on the stream alone whether a frame of an agent is valid. -/
theorem Emission.valid_iff (e : Emission) : Valid e.octets ↔ e.Addressed := by
  constructor
  · rintro ⟨header, stream, payload, sound, -⟩
    refine Decidable.byContradiction fun h => ?_
    obtain ⟨header', bad⟩ := ofOctets_octets_of_not h
    rw [bad] at sound
    cases sound
  · intro h
    rw [← octets_post h]
    exact (e.post h).valid

/-! ## What a controller hears of an agent -/

namespace Ear

variable {x : Ear} {e : Emission}

theorem arrive_addressed (h : e.Addressed) (x : Ear) : x.arrive e.octets =
    if e.kind = .agentStart then
      { x with inbound := x.inbound.record e.seq, received := x.received + 1 }
    else x.absorb e.seq := by
  have kind : FrameKind.ofCode? e.header.kind = some e.kind := FrameKind.ofCode?_code e.kind
  simp only [arrive, Emission.ofOctets_octets h, kind, Option.some.injEq]
  rfl

theorem arrive_of_not (h : ¬ e.Addressed) (x : Ear) :
    x.arrive e.octets = { x with received := x.received + 1, dropped := x.dropped + 1 } := by
  obtain ⟨header, bad⟩ := Emission.ofOctets_octets_of_not h
  simp only [arrive, bad]

theorem dropped_arrive (x : Ear) (e : Emission) :
    (x.arrive e.octets).dropped = x.dropped + if e.Addressed then 0 else 1 := by
  by_cases h : e.Addressed
  · rw [arrive_addressed h, if_pos h]
    split <;> rfl
  · rw [arrive_of_not h, if_neg h]

theorem dropped_foldl_arrive (x : Ear) (es : List Emission) :
    ((es.map Emission.octets).foldl arrive x).dropped =
      x.dropped + es.countP fun e => !decide e.Addressed := by
  induction es generalizing x with
  | nil => rfl
  | cons e es ih =>
    rw [List.map_cons, List.foldl_cons, ih, dropped_arrive, List.countP_cons]
    by_cases h : e.Addressed <;> simp [h]; omega

theorem inbound_arrive (h : e.Addressed) (x : Ear) :
    (x.arrive e.octets).inbound = ⟨some e.seq⟩ := by
  rw [arrive_addressed h]
  split <;> rfl

/-- No gap is found before a frame with the next number, nor before the announcement of a start, nor
before what is dropped. -/
theorem gaps_arrive {s : SeqNum} (hs : x.inbound = ⟨some s⟩)
    (h : e.seq = s.next ∨ e.kind = .agentStart) : (x.arrive e.octets).gaps = x.gaps := by
  by_cases addressed : e.Addressed
  · rw [arrive_addressed addressed]
    split
    · rfl
    · next other =>
      have gap : x.inbound.isGap e.seq = false := by
        simp [hs, h.resolve_right other, Inbound.isGap, Inbound.expected]
      simp [absorb, gap]
  · rw [arrive_of_not addressed]

end Ear

namespace Controller

variable {L : Type} [FrameLink L] {c : Controller L} {steps : List Action} {g g' : Host L}

/-- Of the frames that it has heard, a controller has dropped those without a stream. -/
theorem Host.dropped_perform {es : List Emission}
    (run : (ofController c).perform (es.map Emission.octets) steps = some g) :
    g.endpoint.stats.dropped =
      c.stats.dropped + (es.take g.heard).countP fun e => !decide e.Addressed := by
  have dropped := congrArg Ear.dropped (ear_perform run)
  rw [Ear.dropped_pass, ← List.map_take, Ear.dropped_foldl_arrive, Ear.dropped_pass] at dropped
  exact dropped

/-- Behind a frame on a stream, a controller finds no gap before the frame with the next number, nor
before the announcement of a start. -/
theorem Host.gaps_hear {past rest : List Octets} {e e' : Emission} (addressed : e.Addressed)
    (follows : e'.seq = e.seq.next ∨ e'.kind = .agentStart)
    (run : (ofController c).perform (past ++ e.octets :: e'.octets :: rest) steps = some g)
    (place : g.heard = past.length + 1)
    (hears : g.act (past ++ e.octets :: e'.octets :: rest) .hear = some g') :
    g'.endpoint.ear.pass.gaps = g.endpoint.ear.pass.gaps := by
  obtain ⟨octets, next, free, rfl⟩ := act_hear hears
  have found : octets = e'.octets := by
    rw [place, List.getElem?_append_right (Nat.le_succ _)] at next
    simpa using next.symm
  have last : g.endpoint.ear.pass.inbound = ⟨some e.seq⟩ := by
    rw [ear_perform run, place, List.take_length_add_append, List.foldl_append]
    exact Ear.inbound_arrive addressed _
  have pending : g.endpoint.ear.pending = none := by simp [ear, Ear.of, free]
  rw [Ear.pass_of_none pending] at last ⊢
  rw [ear_receive_any free, found]
  exact Ear.gaps_arrive last follows

end Controller

namespace Agent

variable {L M : Type} [FrameLink L] [FrameLink M]

/-! ## What an agent has said -/

/-- A frame of an agent that has heard `heard`: on a stream of the link, or a notice for one of the
buffers. -/
def Justified (heard : List Octets) (e : Emission) : Prop :=
  e.Addressed ∨ ∃ octets ∈ heard, e.Echoes octets

theorem Justified.mono {heard heard' : List Octets} {e : Emission} (H : Justified heard e)
    (h : heard ⊆ heard') : Justified heard' e :=
  H.imp_right fun ⟨octets, ho, echo⟩ => ⟨octets, h ho, echo⟩

/-- What an agent has said since `a₀`, and heard. -/
structure Account (a₀ a : Agent M) (heard : List Octets) (words : List Word) : Prop
    extends Utters (Justified heard) a₀ a words where
  renewals : renewals words = heard.countP (kindIn · = some .agentReset)

variable {a₀ a b : Agent M} {heard : List Octets} {words : List Word}

theorem Account.said (H : Account a₀ a heard words) (said : Says Emission.Addressed a b) :
    ∃ words', Account a₀ b heard words' := by
  obtain ⟨es, u⟩ := said
  refine ⟨_, H.toUtters.trans (u.mono fun _ => .inl), ?_⟩
  rw [renewals_append, renewals_map_say, H.renewals, Nat.add_zero]

theorem Account.hear (H : Account a₀ a heard words) (octets : Octets) :
    ∃ words', Account a₀ (a.receive (some octets)) (heard ++ [octets]) words' := by
  have before : Utters (Justified (heard ++ [octets])) a₀ a words :=
    H.toUtters.mono fun _ h => h.mono (List.subset_append_left _ _)
  have here : octets ∈ heard ++ [octets] := List.mem_append_right _ (List.mem_singleton_self _)
  by_cases hk : kindIn octets = some .agentReset
  · obtain ⟨es, es', S⟩ := a.startsOver_receive hk
    refine ⟨_, before.trans (S.utters.mono fun _ => .inl), ?_⟩
    rw [List.countP_append, ← H.renewals]
    simp [hk]
  · obtain ⟨es, u⟩ := a.says_receive hk
    have justified : ∀ e, MayAnswer octets e → Justified (heard ++ [octets]) e :=
      fun e may => may.imp (·.addressed) fun echo => ⟨octets, here, echo⟩
    refine ⟨_, before.trans (u.mono justified), ?_⟩
    rw [List.countP_append, ← H.renewals]
    simp [hk]

theorem Account.act {h h' : Host M} {incoming : List Octets} {action : Action}
    (H : Account a₀ h.endpoint (incoming.take h.heard) words) (mild : h.Mild)
    (ha : h.act incoming action = some h') :
    ∃ words', Account a₀ h'.endpoint (incoming.take h'.heard) words' := by
  by_cases hears : action = .hear
  · subst hears
    obtain ⟨octets, next, -, rfl⟩ := Host.act_hear ha
    rw [take_succ_of_getElem? next]
    exact H.hear octets
  · obtain ⟨said, heard⟩ := Host.says_act mild ha hears
    rw [heard]
    exact H.said said

/-- What an agent has said in a run, whatever has arrived. -/
theorem account {link : M} {config : AgentConfig} {incoming : List Octets}
    {actions : List Action} {a : Host M}
    (run : (Host.ofAgent (start link config).2).perform incoming actions = some a) :
    ∃ words, Account (fresh link config) a.endpoint (incoming.take a.heard) words := by
  refine (foldlM_preserves (I := fun h : Host M => h.Mild ∧ ∃ words,
    Account (fresh link config) h.endpoint (incoming.take h.heard) words) ?_ run ?_).2
  · rintro h action h' ⟨mild, words, H⟩ ha
    exact ⟨(Host.act_effect mild ha).2, H.act mild ha⟩
  · refine ⟨fun _ ht => (List.not_mem_nil ht).elim, ?_⟩
    have nothing : Account (fresh link config) (fresh link config) [] [] :=
      ⟨.quiet rfl rfl rfl, rfl⟩
    exact nothing.said (says_start link config)

/-! ## Frames of the agent at the controller -/

/-- An agent to which anything arrives, with whatever handlers, and a controller that hears what the
agent has said, over a link that loses nothing. Each frame of the agent is valid, but for the
notices that give back an id of no stream. The controller drops the latter and no other, and when it
hears the frame behind a valid one, it finds no gap there, unless the agent has started over in
between and announces nothing. -/
theorem frames_valid {link : M} (clean : FrameLink.taken link = []) (config : AgentConfig)
    {incoming : List Octets} {actions : List Action} {a : Host M}
    (run : (Host.ofAgent (start link config).2).perform incoming actions = some a) :
    ∃ words : List Word, FrameLink.taken a.endpoint.link = spoken words ∧
      renewals words = (incoming.take a.heard).countP (kindIn · = some .agentReset) ∧
      (∀ e ∈ emissions words, (Valid e.octets ↔ e.Addressed) ∧
        (e.Addressed ∨ ∃ octets ∈ incoming.take a.heard, e.Echoes octets)) ∧
      ∀ (c : Controller L) (steps : List Controller.Action) (g : Controller.Host L),
        (Controller.Host.ofController c).perform (spoken words) steps = some g →
        g.endpoint.stats.dropped = c.stats.dropped +
          ((emissions words).take g.heard).countP (fun e => !decide e.Addressed) ∧
        ∀ past e between e' future g',
          words = past ++ .say e :: (between ++ .say e' :: future) → emissions between = [] →
          between = [] ∨ e'.kind = .agentStart → e.Addressed →
          g.heard = (emissions past).length + 1 →
          g.act (spoken words) .hear = some g' →
          g'.endpoint.ear.pass.gaps = g.endpoint.ear.pass.gaps := by
  obtain ⟨words, H⟩ := account run
  have taken : FrameLink.taken a.endpoint.link = spoken words := by
    rw [H.taken, fresh, clean, List.nil_append]
  refine ⟨words, taken, H.renewals, fun e he => ⟨e.valid_iff, H.frames e he⟩, ?_⟩
  intro c steps g hg
  refine ⟨Controller.Host.dropped_perform hg, ?_⟩
  intro past e between e' future g' split silent near addressed place hears
  have said : spoken words = spoken past ++ e.octets :: e'.octets :: spoken future := by
    rw [split]
    simp [spoken, silent]
  have length : (spoken past).length = (emissions past).length := List.length_map ..
  have follows : e'.seq = e.seq.next ∨ e'.kind = .agentStart := by
    refine near.imp_left fun none_between => ?_
    have tells := H.tells
    rw [split, none_between] at tells
    exact tells.next
  rw [said] at hg hears
  exact Controller.Host.gaps_hear addressed follows hg (length ▸ place) hears

/-- A request to reset that comes out of order, a frame on a stream that does not exist, one that is
too short for the payload that it declares, one of no known kind, and one without a header. -/
def garbled : List Octets :=
  [[0x03, 0, 4, 0, 5, 1, 0, 0], [0x45, 0, 0, 0], [0x00, 200, 0, 0], [0x01, 7, 9, 0],
    [0xf3, 1, 0, 0], [0x00]]

/-- What an agent says to that, and then that it starts. -/
def garbledAnswers : List Octets :=
  [[0x50, 0, 0, 0], [0x91, 0, 0, 0], [0x50, 0, 0, 0], [0x81, 200, 0, 0], [0x32, 7, 0, 0],
    [0x33, 1, 0, 0], [0x94, 1, 0, 0], [0x55, 0, 0, 0]]

theorem frames_valid_garbled :
    ∃ (a : Host ScriptedLink) (words : List Word),
      (Host.ofAgent (start ⟨[], []⟩ ⟨"1.0", true⟩).2).perform garbled
        [.hear, .pass, .hear, .hear, .hear, .hear, .hear, .announce] = some a ∧
      a.endpoint.link.frames = garbledAnswers ∧ spoken words = garbledAnswers ∧
      renewals words = 1 ∧
      (∀ e ∈ emissions words, e.Addressed ∨ ∃ octets ∈ garbled, e.Echoes octets) ∧
      ((emissions words).take 8).countP (fun e => !decide e.Addressed) = 1 := by
  obtain ⟨a, run, heard, frames⟩ : ∃ a : Host ScriptedLink,
      (Host.ofAgent (start ⟨[], []⟩ ⟨"1.0", true⟩).2).perform garbled
        [.hear, .pass, .hear, .hear, .hear, .hear, .hear, .announce] = some a ∧
      a.heard = 6 ∧ a.endpoint.link.frames = garbledAnswers := ⟨_, rfl, rfl, rfl⟩
  obtain ⟨g, hears, all, dropped⟩ : ∃ g : Controller.Host ScriptedLink,
      (Controller.Host.ofController (.start ⟨[], []⟩ ⟨none, .ofMillis 20⟩ 0)).perform
        garbledAnswers (.replicate 8 .hear) = some g ∧
      g.heard = 8 ∧ g.endpoint.stats.dropped = 1 := ⟨_, rfl, rfl, rfl⟩
  have clean : FrameLink.taken (⟨[], []⟩ : ScriptedLink) = [] := rfl
  obtain ⟨words, taken, renewed, sound, drops⟩ :=
    frames_valid (L := ScriptedLink) clean ⟨"1.0", true⟩ run
  have said : spoken words = garbledAnswers := taken.symm.trans frames
  have counted := (drops _ _ g (said ▸ hears)).1
  rw [heard] at renewed sound
  rw [all, dropped] at counted
  exact ⟨a, words, run, frames, said, renewed.trans (by decide), fun e he => (sound e he).2,
    (Nat.zero_add _).symm.trans counted.symm⟩

/-! ## The exception -/

/-- A frame on stream 33 arrives and then the agent sends an event. The controller drops the notice
that the agent sends for the frame, and finds a gap before the event, although nothing was lost. -/
theorem echo_dropped :
    ∃ (a : Host ScriptedLink) (g : Controller.Host ScriptedLink),
      (Host.ofAgent (start ⟨[], []⟩ ⟨"1.0", true⟩).2).perform [[0x00, 33, 0, 0]]
        [.hear, .event ⟨2, 1⟩ []] = some a ∧
      a.endpoint.link.frames =
        [[0x50, 0, 0, 0], [0x81, 33, 0, 0], [0x22, 0, 4, 0, 2, 1, 0, 0]] ∧
      ¬ Valid [0x81, 33, 0, 0] ∧
      (Controller.Host.ofController (.start ⟨[], []⟩ ⟨none, .ofMillis 20⟩ 0)).perform
        a.endpoint.link.frames [.hear, .hear, .hear] = some g ∧
      g.endpoint.stats.dropped = 1 ∧ g.endpoint.stats.gaps = 1 := by
  refine ⟨_, _, rfl, rfl, ?_, rfl, rfl, rfl⟩
  rintro ⟨header, stream, payload, sound, -⟩
  exact malformed_iff.mp (.badStream _ _ _ (by decide)) header stream payload sound

end Agent
end CommandLink
