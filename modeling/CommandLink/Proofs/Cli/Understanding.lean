import CommandLink.Proofs.Agent.Deeds
import CommandLink.Proofs.Cli.Description
import CommandLink.Proofs.Controller.Shutdown
import CommandLink.Proofs.Controller.Sync
import CommandLink.Proofs.Dialogue.Restarts

/-! # Every frame of an endpoint can be described

Whatever happens to a controller or an agent, the payloads that it sends begin as their kinds
demand: commands and responses with the headers that it writes, sync requests with a token other
than 0. A response may have waited with its worker since its handler returned; that it has its
header is an invariant of the agent (`Agent.Headed`). -/

namespace CommandLink

namespace Emission

/-- The payload begins as the kind demands. -/
def Legible (e : Emission) : Prop := Cli.Legible (some e.kind) e.payload

/-- The frame is described as what it is. -/
def Understood (e : Emission) : Prop :=
  ∃ report, Cli.describe e.octets = .ok report ∧ report.kind = e.kind.name ∧
    report.seq = e.seq ∧ report.stream = e.stream ∧ report.length.toNat = e.payload.length ∧
    report.payload = Cli.shown (some e.kind) e.payload

theorem Legible.understood {e : Emission} (H : e.Legible) : e.Understood := by
  have kind : FrameKind.ofCode? e.header.kind = some e.kind := FrameKind.ofCode?_code e.kind
  have length : e.header.length.toNat = e.payload.length := by
    have fits := e.fits
    simp only [Frame.maxPayload, Frame.maxSize, Header.size] at fits
    simp only [header, UInt16.toNat_ofNat']
    omega
  have read : Frame.decode e.octets = .ok (e.header, e.payload) :=
    Frame.decode_eq_ok_iff.mpr ⟨e.kind.code_lt, length, [], (List.append_nil _).symm⟩
  obtain ⟨detail, described⟩ := Cli.describe_of_legible read (kind ▸ H)
  refine ⟨_, described, ?_, rfl, rfl, length, ?_⟩
  · simp only [Cli.report, Cli.kindName, kind]
  · simp only [Cli.report, kind]

end Emission

/-! ## Controllers -/

namespace Controller

variable {L : Type} [FrameLink L] {c c' : Controller L}

/-- A command has its header, and a sync request its token. -/
theorem Message.Carried.legible {m : Message} {p : Post} (H : m.Carried p) (sound : p.SoundSync) :
    p.emission.Legible := by
  cases m with
  | command command =>
    have length : payloadHeaderSize ≤ p.payload.length := by
      rw [H.2.2, Command.body, List.length_append, CommandHeader.length_encode]
      exact Nat.le_add_right _ _
    simpa [Emission.Legible, Post.emission, H.1, Cli.Legible] using length
  | reset =>
    have kind : p.kind = .agentReset := H
    simp [Emission.Legible, Post.emission, kind, Cli.Legible]
  | sync =>
    have kind : p.kind = .syncRequest := H
    obtain ⟨-, request, token, payload⟩ := sound kind
    have read := request.decode_encode_append token []
    rw [List.append_nil, ← payload] at read
    simpa only [Emission.Legible, Post.emission, kind] using Cli.legible_syncRequest.mpr ⟨_, read⟩

theorem Speech.legible {attempts : List Attempt} {posts : List Post}
    (H : Speech c c' attempts posts) (sound : ∀ p ∈ posts, p.SoundSync) :
    ∀ p ∈ posts, p.emission.Legible := by
  intro p hp
  cases H with
  | said m q carried =>
    cases List.mem_singleton.mp hp
    exact carried.legible (sound _ (List.mem_singleton_self _))
  | _ => exact (List.not_mem_nil hp).elim

/-- `c'` follows from `c` by legible frames. -/
def Legibly (c c' : Controller L) : Prop := ∃ ps : List Post,
  FrameLink.taken c'.link = FrameLink.taken c.link ++ ps.map Post.octets ∧
    ∀ p ∈ ps, p.emission.Legible

theorem Legibly.of_taken (h : FrameLink.taken c'.link = FrameLink.taken c.link) : Legibly c c' :=
  ⟨[], by simpa using h, fun _ hp => (List.not_mem_nil hp).elim⟩

theorem Legibly.of_speech {attempts : List Attempt} {posts : List Post}
    (H : Speech c c' attempts posts) (sound : ∀ p ∈ posts, p.SoundSync) : Legibly c c' :=
  ⟨posts, H.taken, H.legible sound⟩

theorem Legibly.trans {c'' : Controller L} (H : Legibly c c') (H' : Legibly c' c'') :
    Legibly c c'' := by
  obtain ⟨ps, taken, legible⟩ := H
  obtain ⟨ps', taken', legible'⟩ := H'
  refine ⟨ps ++ ps', ?_, fun p hp => (List.mem_append.mp hp).elim (legible p) (legible' p)⟩
  rw [taken', taken, List.map_append, List.append_assoc]

namespace Site

variable {s s' : Site L} {buffers : List (Option Octets)} {deed : Deed} {deeds : List Deed}

/-- What the link takes in a step is legible. -/
theorem legible_act (quiet : FrameLink.StopsQuietly L) (G : s.host.Genuine)
    (ha : s.act buffers deed = some s') :
    s'.host.Genuine ∧ Legibly s.host.endpoint s'.host.endpoint := by
  cases deed with
  | act action =>
    obtain ⟨h, hh, rfl⟩ := Option.map_eq_some_iff.mp ha
    obtain ⟨G', attempts, posts, T⟩ := Host.act_tries G hh
    exact ⟨G', .of_speech T.speech T.sound⟩
  | hear =>
    obtain ⟨-, ha⟩ := Option.ite_none_left_eq_some.mp ha
    obtain ⟨buffer, -, rfl⟩ := Option.map_eq_some_iff.mp ha
    refine ⟨G, ?_⟩
    cases buffer with
    | none => exact .of_taken rfl
    | some octets =>
      obtain ⟨attempts, posts, told, H⟩ := s.host.endpoint.receive_callsBack octets
      exact .of_speech H.speech (H.speech.soundSync H.not_sync)
  | openStream stream =>
    simp only [act] at ha
    split at ha
    · next c opened =>
      cases ha
      unfold openStream at opened
      split at opened <;> cases opened
      exact ⟨G, .of_taken rfl⟩
    · cases ha
      exact ⟨G, .of_taken rfl⟩
  | deinit =>
    cases ha
    refine ⟨G, .of_taken ?_⟩
    simp only [withEndpoint, deinit]
    split
    · exact quiet _
    · rfl
  | _ =>
    cases ha
    exact ⟨G, .of_taken rfl⟩

theorem legible_perform (quiet : FrameLink.StopsQuietly L) (G : s.host.Genuine)
    (run : s.perform buffers deeds = some s') : Legibly s.host.endpoint s'.host.endpoint := by
  refine (foldlM_preserves (I := fun t : Site L => t.host.Genuine ∧
    Legibly s.host.endpoint t.host.endpoint) ?_ run ⟨G, .of_taken rfl⟩).2
  rintro t deed t' ⟨G, said⟩ ha
  obtain ⟨G', next⟩ := legible_act quiet G ha
  exact ⟨G', said.trans next⟩

end Site
end Controller

/-! ## Agents -/

/-- The payload begins as the kind demands. -/
def Draft.Legible (d : Draft) : Prop := Cli.Legible (some d.kind) d.payload

namespace Agent

variable {L : Type} [FrameLink L] {a b : Agent L}

theorem le_length_responsePayload (id : CommandId) (result : Except Status Octets) :
    payloadHeaderSize ≤ (responsePayload id result).length := by
  cases result with
  | ok payload =>
    rw [responsePayload, List.length_append, ResponseHeader.length_encode]
    exact Nat.le_add_right _ _
  | error status => exact Nat.le_refl _

omit [FrameLink L] in
/-- Every response that waits with its worker has its header. -/
def Headed (a : Agent L) : Prop :=
  ∀ w ∈ a.workers, ∀ payload, w.phase = .answering payload → payloadHeaderSize ≤ payload.length

omit [FrameLink L] in
theorem Headed.setPhase (H : a.Headed) (id : WorkerId) {phase : WorkerPhase}
    (h : ∀ payload, phase = .answering payload → payloadHeaderSize ≤ payload.length) :
    (a.setPhase id phase).Headed := by
  intro w hw payload answering
  obtain ⟨v, hv, rfl⟩ := List.mem_map.mp hw
  split at answering
  · exact h payload answering
  · exact H v hv payload answering

theorem Headed.step (H : a.Headed) (caller : Option WorkerId) (call : Call) :
    (call.step a caller).1.Headed := by
  by_cases opens : ∃ stream, call = .openStart stream
  · obtain ⟨stream, rfl⟩ := opens
    rcases Call.openStart_step a caller stream with same | started
    · rw [same]
      exact H
    · rw [(startWorker_eq started).2]
      intro w hw payload answering
      rcases mem_or_eq_of_mem_concat hw with hw | rfl
      · exact H w hw payload answering
      · cases answering
  · intro w hw
    rw [(Call.spares_step fun s e => opens ⟨s, e⟩).workers] at hw
    exact H w hw

namespace Host

variable {h h' : Host L} {deed : Deed} {deeds : List Deed}

theorem headed_enact (H : h.endpoint.Headed) (ha : h.enact deed = some h') :
    h'.endpoint.Headed := by
  have same {a : Agent L} (workers : a.workers = h.endpoint.workers) : a.Headed := fun w hw =>
    H w (workers ▸ hw)
  cases enacted ha with
  | event header args =>
    exact same (h.endpoint.sendPayload_aside (by decide) _ _).workers
  | announce => exact same (h.endpoint.sendPayload_aside (by decide) _ _).workers
  | advance thread free take => exact H.step _ _
  | hear buffer => exact same (h.endpoint.aside_receive buffer).workers
  | pass deliver =>
    obtain ⟨command, -, B, -⟩ := deliver_cases deliver
    rcases B with ⟨-, B⟩ | ⟨-, -, B⟩ <;> obtain ⟨⟨link, outbound, sent, log, eq⟩, -⟩ := B <;>
      exact same (by rw [eq])
  | takeUp worker waits take =>
    rcases takeUp_ways take with ⟨_, _, -, -, rfl⟩ | ⟨_, -, -, rfl⟩ | ⟨-, -, rfl⟩
    · exact H.setPhase _ nofun
    · refine H.setPhase _ fun payload answering => ?_
      cases answering
      exact le_length_responsePayload _ _
    · exact H.setPhase _ nofun
  | handle result worker =>
    refine H.setPhase _ fun payload answering => ?_
    cases answering
    exact le_length_responsePayload _ _
  | @answer _ id stream payload worker =>
    obtain ⟨link, outbound, sent, eq⟩ := h.endpoint.answer_eq ⟨id, stream, .answering payload⟩
      payload
    rw [eq]
    exact H.setPhase id nofun
  | _ => exact H

end Host

/-! ### What an agent means to send -/

theorem legible_lossReport (r : Inbound) (stream : StreamId) (seq : SeqNum) :
    ∀ d ∈ lossReport r stream seq, d.Legible := by
  intro d hd
  unfold lossReport at hd
  split at hd
  · cases List.mem_singleton.mp hd
    trivial
  · cases hd

theorem legible_syncAnswer (r : Inbound) (stream : StreamId) (payload : Octets) :
    (syncAnswer r stream payload).Legible := by
  unfold syncAnswer
  split
  · split
    · trivial
    · exact (SyncResponse.length_encode _).ge
  · trivial

omit [FrameLink L] in
theorem legible_answerTo (a : Agent L) (header : Header) (stream : StreamId) (payload : Octets) :
    ∀ d ∈ a.answerTo header stream payload, d.Legible := by
  have reported := legible_lossReport a.inbound stream header.seq
  have noticed : ∀ kind : FrameKind, (∀ body, Cli.Legible (some kind) body) →
      ∀ d ∈ Draft.notice kind stream.toOctet :: lossReport a.inbound stream header.seq,
        d.Legible := by
    intro kind plain d hd
    rcases List.mem_cons.mp hd with rfl | hd
    · exact plain _
    · exact reported d hd
  intro d hd
  unfold answerTo at hd
  split at hd
  · rcases List.mem_append.mp hd with hd | hd
    · exact reported d hd
    · split at hd
      · cases List.mem_singleton.mp hd
        trivial
      · cases hd
  · cases List.mem_singleton.mp hd
    exact legible_syncAnswer _ _ _
  · split at hd
    · cases hd
    · split at hd
      · split at hd
        · cases hd
        · exact noticed .invalidStream (fun _ => trivial) d hd
      · exact reported d hd
      · exact noticed .error (fun _ => trivial) d hd

omit [FrameLink L] in
theorem legible_reaction (a : Agent L) (buffer : Option Octets) :
    ∀ d ∈ a.reaction buffer, d.Legible := by
  intro d hd
  cases buffer with
  | none => cases hd
  | some octets =>
    simp only [reaction] at hd
    split at hd
    · cases hd
    · cases List.mem_singleton.mp hd
      trivial
    · cases List.mem_singleton.mp hd
      trivial
    · exact a.legible_answerTo _ _ _ d hd

omit [FrameLink L] in
theorem legible_handover (a : Agent L) (command : PendingCommand) :
    ∀ d ∈ a.handover command, d.Legible := by
  intro d hd
  rcases List.mem_append.mp hd with hd | hd
  · split at hd
    · cases List.mem_singleton.mp hd
      trivial
    · cases hd
  · exact legible_lossReport _ _ _ d hd

namespace Host

variable {h h' : Host L} {deed : Deed} {deeds : List Deed}

omit [FrameLink L] in
theorem legible_drafts (H : h.endpoint.Headed) : ∀ d ∈ h.drafts deed, d.Legible := by
  intro d hd
  unfold drafts at hd
  split at hd
  · next header args =>
    cases List.mem_singleton.mp hd
    show payloadHeaderSize ≤ (header.encode ++ args).length
    rw [List.length_append, EventHeader.length_encode]
    exact Nat.le_add_right _ _
  · cases List.mem_singleton.mp hd
    trivial
  · split at hd
    · exact h.endpoint.legible_handover _ d hd
    · cases hd
  · split at hd
    · next worker =>
      cases List.mem_singleton.mp hd
      exact H _ (List.mem_of_getElem? worker) _ rfl
    · cases hd
  · exact h.endpoint.legible_reaction _ d hd
  · cases hd

/-- `b` follows from `a` by legible frames. -/
def Legibly (a b : Agent L) : Prop := ∃ es : List Emission,
  FrameLink.taken b.link = FrameLink.taken a.link ++ es.map Emission.octets ∧
    ∀ e ∈ es, e.Legible

theorem Legibly.trans {a b c : Agent L} (H : Legibly a b) (H' : Legibly b c) : Legibly a c := by
  obtain ⟨es, taken, legible⟩ := H
  obtain ⟨es', taken', legible'⟩ := H'
  refine ⟨es ++ es', ?_, fun e he => (List.mem_append.mp he).elim (legible e) (legible' e)⟩
  rw [taken', taken, List.map_append, List.append_assoc]

theorem Legibly.of_attempts {a b : Agent L} {ds : List Draft} (H : Attempts a b ds)
    (legible : ∀ d ∈ ds, d.Legible) : Legibly a b := by
  obtain ⟨es, taken, -, some_, -⟩ := H.sends
  exact ⟨es, taken, fun e he => legible e.draft (some_.subset (List.mem_map_of_mem he))⟩

/-- What the link takes in a step is legible. -/
theorem legible_enact (quiet : FrameLink.StopsQuietly L) (H : h.endpoint.Headed)
    (ha : h.enact deed = some h') : Legibly h.endpoint h'.endpoint := by
  by_cases calls : ∃ i, deed = .act (.advance i)
  · obtain ⟨i, rfl⟩ := calls
    cases enacted ha with
    | @advance _ t u =>
      exact ⟨[], by simpa using Call.taken_step quiet h.endpoint t.caller t.call, nofun⟩
  · exact .of_attempts (attempts_enact ha fun i e => calls ⟨i, e⟩) (legible_drafts H)

theorem legible_enactAll (quiet : FrameLink.StopsQuietly L) (H : h.endpoint.Headed)
    (run : h.enactAll deeds = some h') : Legibly h.endpoint h'.endpoint := by
  refine (foldlM_preserves (I := fun t : Host L => t.endpoint.Headed ∧
    Legibly h.endpoint t.endpoint) ?_ run ⟨H, [], (List.append_nil _).symm, nofun⟩).2
  rintro t deed t' ⟨H, said⟩ ha
  exact ⟨headed_enact H ha, said.trans (legible_enact quiet H ha)⟩

end Host

theorem legible_start (link : L) (config : AgentConfig) :
    (start link config).2.Headed ∧ Host.Legibly (fresh link config) (start link config).2 := by
  have workers : (start link config).2.workers = (fresh link config).workers := by
    unfold start
    simp only
    split
    · exact ((fresh link config).sendPayload_aside (by decide) _ _).workers
    · rfl
  constructor
  · intro w hw payload answering
    rw [workers] at hw
    cases List.mem_singleton.mp hw
    cases answering
  · refine .of_attempts (attempts_start link config) fun d hd => ?_
    split at hd
    · cases List.mem_singleton.mp hd
      trivial
    · cases hd

end Agent

/-! ## Everything that is sent -/

namespace Cli

/-- Whatever happens to an agent or to a controller, each frame that its link takes is described:
the name of its kind, its number, the octet of its stream, the length of its payload, and of the
payload what is behind the header, nothing of a sync, and all of it for the other kinds. Any octets
at all are described without a look outside of them, or refused: exactly those are refused that are
no frame, or whose payload is too short for its kind or asks for a sync with the token 0, and they
are invalid data then. -/
theorem endpoints_understood :
    (∀ (M : Type) [FrameLink M], FrameLink.StopsQuietly M →
      ∀ (link : M) (config : AgentConfig) (deeds : List Agent.Deed) (a : Agent.Host M),
      (Agent.Host.ofAgent (Agent.start link config).2).enactAll deeds = some a →
      ∃ es : List Emission,
        FrameLink.taken a.endpoint.link = FrameLink.taken link ++ es.map Emission.octets ∧
        ∀ e ∈ es, e.Understood) ∧
    (∀ (L : Type) [FrameLink L], FrameLink.StopsQuietly L →
      ∀ (link : L) (config : ControllerConfig) (seed : UInt32) (buffers : List (Option Octets))
        (deeds : List Controller.Deed) (s : Controller.Site L),
      (Controller.Site.ofController (.start link config seed)).perform buffers deeds = some s →
      ∃ ps : List Post,
        FrameLink.taken s.host.endpoint.link = FrameLink.taken link ++ ps.map Post.octets ∧
        ∀ p ∈ ps, p.emission.Understood) ∧
    ∀ octets : Octets, describe? octets = some (describe octets) ∧
      ((∃ f, describe octets = .error f) ↔ Refused octets) ∧
      ∀ f, describe octets = .error f → f.code = ExitCode.dataInvalid := by
  refine ⟨?_, ?_, fun octets => ⟨describe_within octets, ?_⟩⟩
  · intro M _ quiet link config deeds a run
    obtain ⟨headed, began⟩ := Agent.legible_start link config
    obtain ⟨es, taken, legible⟩ := began.trans (Agent.Host.legible_enactAll quiet headed run)
    exact ⟨es, taken, fun e he => (legible e he).understood⟩
  · intro L _ quiet link config seed buffers deeds s run
    have genuine : (Controller.Site.ofController (.start link config seed)).host.Genuine :=
      fun _ ht => (List.not_mem_nil ht).elim
    obtain ⟨ps, taken, legible⟩ := Controller.Site.legible_perform quiet genuine run
    exact ⟨ps, taken, fun p hp => (legible p hp).understood⟩
  · rcases describe_cases octets with ⟨header, payload, detail, read, legible, described⟩ |
      ⟨refused, f, failed, code⟩
    · refine ⟨⟨fun ⟨f, failed⟩ => ?_, fun refused => ?_⟩, fun f failed => ?_⟩
      · cases described.symm.trans failed
      · exact describe_of_refused refused
      · cases described.symm.trans failed
    · refine ⟨⟨fun _ => refused, fun _ => ⟨f, failed⟩⟩, fun f' failed' => ?_⟩
      cases failed.symm.trans failed'
      exact code

/-- An agent gives back the id of no stream and sends an event; a controller asks for a sync. A
sync with the token 0 is refused. -/
theorem endpoints_understood_echo :
    FrameLink.StopsQuietly ScriptedLink ∧
    (∃ (a : Agent.Host ScriptedLink) (es : List Emission),
      (Agent.Host.ofAgent (Agent.start ⟨[], []⟩ ⟨"1.0", true⟩).2).enactAll
        [.hear (some [0x00, 33, 0, 0]), .act (.event ⟨2, 1⟩ [7])] = some a ∧
      es.map Emission.octets =
        [[0x50, 0, 0, 0], [0x81, 33, 0, 0], [0x22, 0, 5, 0, 2, 1, 0, 0, 7]] ∧
      ∀ e ∈ es, e.Understood) ∧
    (∃ (s : Controller.Site ScriptedLink) (ps : List Post),
      (Controller.Site.ofController (.start ⟨[], []⟩ ⟨none, .ofMillis 20⟩ 6)).perform []
        [.act (.begin (.sync (.ofMillis 20))), .act (.advance 0), .act (.advance 0),
          .act (.advance 0), .act (.advance 0), .act (.advance 0), .deinit] = some s ∧
      ps.map Post.octets = [[0xa0, 0, 4, 0, 7, 0, 0, 0]] ∧
      ∀ p ∈ ps, p.emission.Understood) ∧
    ∃ f, describe [0xa0, 0, 4, 0, 0, 0, 0, 0] = .error f ∧ f.code = 60 := by
  have quiet : FrameLink.StopsQuietly ScriptedLink := fun _ => rfl
  obtain ⟨agents, controllers, octets⟩ := endpoints_understood
  refine ⟨quiet, ?_, ?_, ?_⟩
  · obtain ⟨es, taken, understood⟩ := agents ScriptedLink quiet ⟨[], []⟩ ⟨"1.0", true⟩
      [.hear (some [0x00, 33, 0, 0]), .act (.event ⟨2, 1⟩ [7])] _ rfl
    exact ⟨_, es, rfl, taken.symm, understood⟩
  · obtain ⟨ps, taken, understood⟩ := controllers ScriptedLink quiet ⟨[], []⟩ ⟨none, .ofMillis 20⟩ 6
      [] [.act (.begin (.sync (.ofMillis 20))), .act (.advance 0), .act (.advance 0),
        .act (.advance 0), .act (.advance 0), .act (.advance 0), .deinit] _ rfl
    exact ⟨_, ps, rfl, taken.symm, understood⟩
  · obtain ⟨-, refused, invalid⟩ := octets [0xa0, 0, 4, 0, 0, 0, 0, 0]
    obtain ⟨f, failed⟩ := refused.mpr (.inr ⟨⟨10, 0, 0, 4⟩, [0, 0, 0, 0], rfl, fun legible =>
      legible.2 rfl⟩)
    exact ⟨f, failed, invalid f failed⟩

end Cli
end CommandLink
