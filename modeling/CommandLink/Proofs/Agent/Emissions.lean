import CommandLink.Proofs.Agent.Arrivals
import CommandLink.Proofs.Agent.Host

/-! # What an agent says, whatever arrives

An agent numbers its frames one after the other, until a restart begins the numbers anew. What it
has said in a run is therefore a list of frames with the restarts between them (`Word`), and this
list alone says which number comes next (`Tells`). Each frame is on a stream of the link, but for
one sort: the notice for a buffer that names no stream gives back the id that it has found there
(`Emission.Echoes`). -/

namespace CommandLink

namespace Incoming

theorem stream_lt_of_overLength {octets : Octets} {header : Header} {stream : StreamId}
    (h : ofOctets octets = .overLength header stream) : header.stream.toNat < 32 := by
  unfold ofOctets at h
  split at h
  · simp only at h
    split at h
    · cases h
    · next known =>
      split at h
      · cases h
        exact Nat.lt_of_not_le fun out =>
          nomatch known.symm.trans (StreamId.ofOctet?_eq_none_iff.mpr out)
      · cases h
  · cases h

end Incoming

theorem exists_frame_of_kindIn {octets : Octets} {kind : FrameKind}
    (h : kindIn octets = some kind) :
    ∃ header stream payload, Incoming.ofOctets octets = .frame header stream payload ∧
      FrameKind.ofCode? header.kind = some kind := by
  unfold kindIn at h
  split at h
  · next header stream payload sound => exact ⟨header, stream, payload, sound, h⟩
  · cases h

/-- A frame as an agent sends it. Its stream need not exist. -/
structure Emission where
  kind : FrameKind
  seq : SeqNum
  stream : UInt8
  payload : Octets
  fits : payload.length ≤ Frame.maxPayload

namespace Emission

def header (e : Emission) : Header :=
  ⟨e.kind.code, e.seq, e.stream, UInt16.ofNat e.payload.length⟩

/-- The octets of a frame as they travel. -/
def octets (e : Emission) : Octets := e.header.encode ++ e.payload

/-- The stream exists. -/
def Addressed (e : Emission) : Prop := e.stream.toNat < 32

instance (e : Emission) : Decidable e.Addressed := inferInstanceAs (Decidable (_ < _))

/-- A frame on a stream that exists, other than the announcement of a start. -/
structure Routine (e : Emission) : Prop where
  addressed : e.Addressed
  other : e.kind ≠ .agentStart

/-- The notice that a buffer names no stream, with the id that the buffer names. -/
structure Echoes (octets : Octets) (e : Emission) : Prop where
  kind : e.kind = .invalidStream
  payload : e.payload = []
  stream : ∃ header, Incoming.ofOctets octets = .badStream header ∧ e.stream = header.stream

/-- The same frame as one that is sent on a stream. -/
def post (e : Emission) (h : e.Addressed) : Post :=
  ⟨e.kind, e.seq, ⟨e.stream.toNat, h⟩, e.payload, e.fits⟩

variable {e : Emission}

/-- A peer finds a frame of this kind in the octets, or none. -/
theorem kindIn_octets (e : Emission) : kindIn e.octets = some e.kind ∨ kindIn e.octets = none :=
  Agent.kindIn_frame e.header e.kind e.payload rfl

theorem octets_post (h : e.Addressed) : (e.post h).octets = e.octets := by
  have same : StreamId.toOctet ⟨e.stream.toNat, h⟩ = e.stream := UInt8.ofNat_toNat
  simp only [Post.octets, Post.header, Header.of, post, same]
  rfl

theorem ofOctets_octets (h : e.Addressed) :
    Incoming.ofOctets e.octets = .frame e.header (e.post h).stream e.payload := by
  have same : StreamId.toOctet ⟨e.stream.toNat, h⟩ = e.stream := UInt8.ofNat_toNat
  rw [← octets_post h, Incoming.ofOctets_octets]
  simp only [Post.header, Header.of, post, same]
  rfl

/-- An agent's frame without a stream is dropped for its stream. -/
theorem ofOctets_octets_of_not (h : ¬ e.Addressed) :
    ∃ header, Incoming.ofOctets e.octets = .badStream header := by
  have unknown := StreamId.ofOctet?_eq_none_iff.mpr (Nat.le_of_not_lt h)
  simp only [octets, Header.encode, header, Octets.ofWord16, List.cons_append, List.nil_append,
    Incoming.ofOctets, unknown]
  exact ⟨_, rfl⟩

end Emission

/-! ## Words -/

/-- What an agent does with its numbers. -/
inductive Word
  | say (e : Emission)
  /-- Begins the numbers anew. -/
  | renew

namespace Word

def emission? : Word → Option Emission
  | .say e => some e
  | .renew => none

def isRenewal : Word → Bool
  | .say _ => false
  | .renew => true

end Word

/-- The frames among words. -/
def emissions (words : List Word) : List Emission := words.filterMap Word.emission?

/-- The octets of the frames among words. -/
def spoken (words : List Word) : List Octets := (emissions words).map Emission.octets

/-- The restarts among words. -/
def renewals (words : List Word) : Nat := words.countP Word.isRenewal

@[simp] theorem emissions_append (ws vs : List Word) :
    emissions (ws ++ vs) = emissions ws ++ emissions vs := List.filterMap_append

@[simp] theorem emissions_say (e : Emission) (ws : List Word) :
    emissions (.say e :: ws) = e :: emissions ws := rfl

@[simp] theorem emissions_renew (ws : List Word) : emissions (.renew :: ws) = emissions ws := rfl

@[simp] theorem emissions_map_say (es : List Emission) : emissions (es.map .say) = es := by
  simp [emissions, List.filterMap_map, Function.comp_def, Word.emission?]

@[simp] theorem spoken_nil : spoken [] = [] := rfl

@[simp] theorem spoken_append (ws vs : List Word) : spoken (ws ++ vs) = spoken ws ++ spoken vs := by
  simp [spoken]

@[simp] theorem renewals_append (ws vs : List Word) :
    renewals (ws ++ vs) = renewals ws + renewals vs := List.countP_append

@[simp] theorem renewals_renew (ws : List Word) : renewals (.renew :: ws) = renewals ws + 1 :=
  List.countP_cons_of_pos rfl

@[simp] theorem renewals_map_say (es : List Emission) : renewals (es.map .say) = 0 := by
  simp [renewals, List.countP_map, Function.comp_def, Word.isRenewal]

/-- A sender that has come to `t` comes to `u` by words: each frame has the next number. -/
inductive Tells : Outbound → List Word → Outbound → Prop
  | nil (t : Outbound) : Tells t [] t
  | say {t u : Outbound} {e : Emission} {ws : List Word} (next : e.seq = t.peek)
      (rest : Tells (t.commit e.seq) ws u) : Tells t (.say e :: ws) u
  | renew {t u : Outbound} {ws : List Word} (rest : Tells .fresh ws u) : Tells t (.renew :: ws) u

theorem Tells.append {t u v : Outbound} {ws vs : List Word} (H : Tells t ws u) (H' : Tells u vs v) :
    Tells t (ws ++ vs) v := by
  induction H with
  | nil => exact H'
  | say next rest ih => exact .say next (ih H')
  | renew rest ih => exact .renew (ih H')

theorem Tells.split {t v : Outbound} {ws vs : List Word} (H : Tells t (ws ++ vs) v) :
    ∃ u, Tells t ws u ∧ Tells u vs v := by
  induction ws generalizing t with
  | nil => exact ⟨t, .nil t, H⟩
  | cons w ws ih =>
    cases H with
    | say next rest =>
      obtain ⟨u, front, back⟩ := ih rest
      exact ⟨u, .say next front, back⟩
    | renew rest =>
      obtain ⟨u, front, back⟩ := ih rest
      exact ⟨u, .renew front, back⟩

theorem Tells.of_say {t u : Outbound} {e : Emission} (H : Tells t [.say e] u) :
    u = t.commit e.seq := by
  cases H with
  | say _ rest =>
    cases rest
    rfl

/-- The frame behind a frame has the next number, if no restart comes between them. -/
theorem Tells.next {t u : Outbound} {ws vs : List Word} {e e' : Emission}
    (H : Tells t (ws ++ .say e :: .say e' :: vs) u) : e'.seq = e.seq.next := by
  obtain ⟨_, -, behind⟩ := H.split
  cases behind with
  | say _ behind =>
    cases behind with
    | say next _ => exact next

namespace Agent

variable {L : Type} [FrameLink L]

/-- `b` follows from `a` by words of which each frame is one of `P`. -/
structure Utters (P : Emission → Prop) (a b : Agent L) (words : List Word) : Prop where
  taken : FrameLink.taken b.link = FrameLink.taken a.link ++ spoken words
  tells : Tells a.outbound words b.outbound
  sent : b.stats.sent = a.stats.sent + (emissions words).length
  frames : ∀ e ∈ emissions words, P e

/-- `b` follows from `a` by frames of `P`, without a restart. -/
def Says (P : Emission → Prop) (a b : Agent L) : Prop :=
  ∃ es : List Emission, Utters P a b (es.map .say)

variable {P Q : Emission → Prop} {a b c : Agent L} {ws vs : List Word}

theorem Utters.mono (H : Utters P a b ws) (h : ∀ e, P e → Q e) : Utters Q a b ws :=
  ⟨H.taken, H.tells, H.sent, fun e he => h e (H.frames e he)⟩

theorem Utters.trans (H : Utters P a b ws) (H' : Utters P b c vs) : Utters P a c (ws ++ vs) where
  taken := by rw [H'.taken, H.taken, spoken_append, List.append_assoc]
  tells := H.tells.append H'.tells
  sent := by rw [H'.sent, H.sent, emissions_append, List.length_append, Nat.add_assoc]
  frames e he := by
    rw [emissions_append] at he
    exact (List.mem_append.mp he).elim (H.frames e) (H'.frames e)

theorem Utters.quiet (link : b.link = a.link) (outbound : b.outbound = a.outbound)
    (sent : b.stats.sent = a.stats.sent) : Utters P a b [] :=
  ⟨by simp [link], outbound ▸ .nil _, sent, fun _ h => (List.not_mem_nil h).elim⟩

theorem Says.mono (H : Says P a b) (h : ∀ e, P e → Q e) : Says Q a b :=
  H.imp fun _ u => u.mono h

theorem Says.trans (H : Says P a b) (H' : Says P b c) : Says P a c := by
  obtain ⟨es, u⟩ := H
  obtain ⟨es', u'⟩ := H'
  refine ⟨es ++ es', ?_⟩
  rw [List.map_append]
  exact u.trans u'

theorem Says.quiet (link : b.link = a.link) (outbound : b.outbound = a.outbound)
    (sent : b.stats.sent = a.stats.sent) : Says P a b :=
  ⟨[], .quiet link outbound sent⟩

/-- Where no frame announces a start, the peer finds no announcement either. -/
theorem Says.unannounced (H : Says P a b) (h : ∀ e, P e → e.kind ≠ .agentStart) :
    ∃ new, FrameLink.taken b.link = FrameLink.taken a.link ++ new ∧
      ∀ octets ∈ new, kindIn octets ≠ some .agentStart := by
  obtain ⟨es, u⟩ := H
  refine ⟨_, u.taken, fun octets ho found => ?_⟩
  obtain ⟨e, he, rfl⟩ := List.mem_map.mp ho
  rcases e.kindIn_octets with kind | none
  · exact h e (u.frames e he) (Option.some.inj (kind.symm.trans found))
  · rw [none] at found
    cases found

theorem Says.remember (H : Says P a b) (seq : SeqNum) : Says P a (b.remember seq) :=
  H.trans (.quiet rfl rfl rfl)

/-! ## One frame -/

theorem says_sendPayload (a : Agent L) (kind : FrameKind) (stream : UInt8) (payload : Octets)
    (h : ∀ seq fits, P ⟨kind, seq, stream, payload, fits⟩) :
    Says P a (a.sendPayload kind stream payload).2 := by
  rcases a.sendPayload_sends kind stream payload with ⟨e, link, sent, ht⟩ | ⟨fits, link, sent, ht⟩
  · rw [sent]
    exact ⟨[], by simp [ht], .nil _, rfl, fun _ h => (List.not_mem_nil h).elim⟩
  · rw [sent]
    refine ⟨[⟨kind, a.outbound.peek, stream, payload, fits⟩], ht, .say rfl (.nil _), rfl,
      fun e he => ?_⟩
    rw [List.mem_singleton.mp he]
    exact h _ fits

theorem says_sendPayload_addressed (a : Agent L) (kind : FrameKind) (stream : StreamId)
    (payload : Octets) : Says Emission.Addressed a (a.sendPayload kind stream.toOctet payload).2 :=
  a.says_sendPayload kind _ payload fun _ _ => by simp [Emission.Addressed]

theorem says_sendPayload_routine (a : Agent L) {kind : FrameKind} (hk : kind ≠ .agentStart)
    (stream : StreamId) (payload : Octets) :
    Says Emission.Routine a (a.sendPayload kind stream.toOctet payload).2 :=
  a.says_sendPayload kind _ payload fun _ _ => ⟨by simp [Emission.Addressed], hk⟩

theorem says_notify (a : Agent L) (kind : FrameKind) (stream : UInt8)
    (h : ∀ seq fits, P ⟨kind, seq, stream, [], fits⟩) : Says P a (a.notify kind stream) :=
  a.says_sendPayload kind stream [] h

/-- A link that is ready takes the frame of an agent that runs. -/
theorem utters_sendPayload {a : Agent L} (hr : FrameLink.Ready a.link)
    (hrun : a.running = true) (kind : FrameKind) (stream : UInt8) (payload : Octets)
    (fits : payload.length ≤ Frame.maxPayload)
    (h : P ⟨kind, a.outbound.peek, stream, payload, fits⟩) :
    Utters P a (a.sendPayload kind stream payload).2
      [.say ⟨kind, a.outbound.peek, stream, payload, fits⟩] := by
  have ok := (sendPayload_of_ready hr kind stream payload).2 hrun fits
  rcases a.sendPayload_sends kind stream payload with ⟨e, link, sent, -⟩ | ⟨_, link, sent, ht⟩
  · rw [sent] at ok
    cases ok
  · rw [sent]
    refine ⟨ht, .say rfl (.nil _), rfl, fun e he => ?_⟩
    rw [List.mem_singleton.mp he]
    exact h

theorem says_reportGap (a : Agent L) (stream : StreamId) (seq : SeqNum) :
    Says Emission.Routine a (a.reportGap stream seq) := by
  unfold reportGap
  split
  · exact Says.trans (b := { a with stats := a.stats.countGap }) (.quiet rfl rfl rfl)
      (says_sendPayload_routine _ (by decide) stream [])
  · exact .quiet rfl rfl rfl

theorem says_answerSync (a : Agent L) (stream : StreamId) (payload : Octets) :
    Says Emission.Routine a (a.answerSync stream payload) := by
  unfold answerSync
  split
  · split
    · exact a.says_sendPayload_routine (by decide) stream []
    · exact a.says_sendPayload_routine (by decide) stream _
  · exact a.says_sendPayload_routine (by decide) stream []

/-! ## Starting, and starting over -/

theorem says_start (link : L) (config : AgentConfig) :
    Says Emission.Addressed (fresh link config) (start link config).2 := by
  unfold start
  simp only
  split
  · exact says_sendPayload_addressed _ .agentStart StreamId.control []
  · exact .quiet rfl rfl rfl

/-- Starting over begins the numbers anew. If it is announced, that comes first. -/
theorem utters_restart (a : Agent L) :
    ∃ es : List Emission, Utters Emission.Addressed a a.restart (.renew :: es.map .say) ∧
      (a.config.announce = true → a.running = true → FrameLink.Ready a.link →
        ∃ e, es = [e] ∧ e.kind = .agentStart) := by
  have renewed : Utters Emission.Addressed a a.renewed [.renew] :=
    ⟨(List.append_nil _).symm, .renew (.nil _), rfl, fun _ h => (List.not_mem_nil h).elim⟩
  rw [restart_eq_renewed]
  split
  · by_cases steady : a.running = true ∧ FrameLink.Ready a.link
    · have said := utters_sendPayload (P := Emission.Addressed) (a := a.renewed) steady.2
        steady.1 .agentStart StreamId.control.toOctet [] (Nat.zero_le _)
        (by simp [Emission.Addressed, StreamId.control])
      exact ⟨[⟨.agentStart, _, _, [], Nat.zero_le _⟩], renewed.trans said,
        fun _ _ _ => ⟨_, rfl, rfl⟩⟩
    · obtain ⟨es, said⟩ := a.renewed.says_sendPayload_addressed .agentStart StreamId.control []
      exact ⟨es, renewed.trans said, fun _ running ready => absurd ⟨running, ready⟩ steady⟩
  · next silent => exact ⟨[], renewed, fun announce => absurd announce silent⟩

/-! ## Whatever arrives -/

/-- A frame that asks for no reset. -/
theorem says_accept (a : Agent L) {header : Header} (stream : StreamId) (payload : Octets)
    (hk : FrameKind.ofCode? header.kind ≠ some .agentReset) :
    Says Emission.Routine a (a.accept header stream payload) := by
  have reported : ∀ b : Agent L, Says Emission.Routine a b →
      Says Emission.Routine a ((b.reportGap stream header.seq).remember header.seq) :=
    fun b said => (said.trans (b.says_reportGap stream header.seq)).remember header.seq
  unfold accept
  simp only
  split
  · next reset => exact absurd reset hk
  · exact (a.says_answerSync stream payload).remember header.seq
  · split
    · exact .quiet rfl rfl rfl
    · split
      · split
        · exact .quiet rfl rfl rfl
        · exact reported _ (a.says_sendPayload_routine (by decide) stream [])
      · exact reported a (.quiet rfl rfl rfl)
      · exact reported _ (a.says_sendPayload_routine (by decide) stream [])

theorem says_counted (a : Agent L) : Says P a a.counted := .quiet rfl rfl rfl

/-- When a frame asks for a reset, an agent reports the frames that were lost before it, and starts
over. -/
theorem receive_reset (a : Agent L) {octets : Octets} {header : Header} {stream : StreamId}
    {payload : Octets} (sound : Incoming.ofOctets octets = .frame header stream payload)
    (hk : FrameKind.ofCode? header.kind = some .agentReset) :
    a.receive (some octets) = (a.counted.reportGap stream header.seq).restart := by
  simp only [receive, sound, accept, hk]
  rfl

/-- The number that an agent has used last when it starts over for a frame: that of its report, if
it reports that frames were lost before. -/
def lastBefore (a : Agent L) (octets : Octets) : Option SeqNum :=
  match Incoming.ofOctets octets with
  | .frame header stream _ => (a.counted.reportGap stream header.seq).outbound.lastSent
  | _ => a.outbound.lastSent

/-- What an agent says when it starts over for a frame: some frames under the numbers so far, and
some under new ones. -/
structure StartsOver (a : Agent L) (octets : Octets) (before after : List Emission) : Prop where
  utters : Utters Emission.Addressed a (a.receive (some octets))
    (before.map .say ++ .renew :: after.map .say)
  ends : ∃ t, Tells a.outbound (before.map .say) t ∧ t.lastSent = a.lastBefore octets
  begins : Tells .fresh (after.map .say) (a.receive (some octets)).outbound
  announced : a.config.announce = true → a.running = true → FrameLink.Ready a.link →
    ∃ e, after = [e] ∧ e.kind = .agentStart

theorem startsOver_receive (a : Agent L) {octets : Octets}
    (hk : kindIn octets = some .agentReset) :
    ∃ before after, StartsOver a octets before after := by
  obtain ⟨header, stream, payload, sound, kind⟩ := exists_frame_of_kindIn hk
  have restarts := a.receive_reset sound kind
  have last : a.lastBefore octets =
      (a.counted.reportGap stream header.seq).outbound.lastSent := by
    simp only [lastBefore, sound]
  have aside : Aside a (a.counted.reportGap stream header.seq) := by
    have counted := Aside.within a a.outbound a.inbound a.stats.countReceived a.receiving
    exact counted.trans (reportGap_aside _ stream header.seq)
  obtain ⟨before, reported⟩ := a.says_counted.trans
    ((a.counted.says_reportGap stream header.seq).mono fun _ => Emission.Routine.addressed)
  obtain ⟨after, restarted, announced⟩ := (a.counted.reportGap stream header.seq).utters_restart
  rw [← restarts] at restarted
  refine ⟨before, after, reported.trans restarted, ⟨_, reported.tells, last.symm⟩, ?_, ?_⟩
  · cases restarted.tells with
    | renew rest => exact rest
  · intro announce running ready
    exact announced (aside.config ▸ announce) (aside.running.trans running) (aside.ready ready)

/-- The frames that an agent may send when `octets` arrive and ask for no reset. -/
def MayAnswer (octets : Octets) (e : Emission) : Prop := e.Routine ∨ e.Echoes octets

theorem says_receive (a : Agent L) {octets : Octets} (hk : kindIn octets ≠ some .agentReset) :
    Says (MayAnswer octets) a (a.receive (some octets)) := by
  have noticed : ∀ (b : Agent L) (kind : FrameKind) (stream : UInt8) (seq : SeqNum),
      b.link = a.link → b.outbound = a.outbound → b.stats.sent = a.stats.sent →
      (∀ seq fits, MayAnswer octets ⟨kind, seq, stream, [], fits⟩) →
      Says (MayAnswer octets) a ((b.notify kind stream).remember seq) :=
    fun b kind stream seq link outbound sent may =>
      ((Says.quiet link outbound sent).trans (b.says_notify kind stream may)).remember seq
  simp only [receive]
  split
  · exact .quiet rfl rfl rfl
  · next header found =>
    refine noticed _ .invalidStream header.stream header.seq rfl rfl rfl fun _ _ => ?_
    exact .inr ⟨rfl, rfl, header, found, rfl⟩
  · next header stream found =>
    refine noticed _ .error header.stream header.seq rfl rfl rfl fun _ _ => ?_
    exact .inl ⟨Incoming.stream_lt_of_overLength found, by simp⟩
  · next header stream payload found =>
    have other : FrameKind.ofCode? header.kind ≠ some .agentReset := by
      simpa [kindIn, found] using hk
    exact (a.says_counted.trans (a.counted.says_accept stream payload other)).mono fun _ => .inl

/-- A frame that an agent sends in answer announces no start. -/
theorem MayAnswer.other {octets : Octets} {e : Emission} (may : MayAnswer octets e) :
    e.kind ≠ .agentStart := by
  rcases may with routine | echo
  · exact routine.other
  · rw [echo.kind]
    decide

theorem says_deliver (h : a.deliver = some b) : Says Emission.Routine a b := by
  unfold deliver at h
  split at h
  · cases h
  · next command _ =>
    have reported : ∀ c : Agent L, Says Emission.Routine a c → Says Emission.Routine a
        ((c.reportGap command.stream command.seq).remember command.seq) :=
      fun c said => (said.trans (c.says_reportGap _ _)).remember command.seq
    simp only at h
    split at h
    · cases h
    · cases h
      exact reported _ (Says.trans (b := { a with receiving := none }) (.quiet rfl rfl rfl)
        (says_sendPayload_routine _ (by decide) command.stream []))
    · cases h
      exact reported _ (.quiet rfl rfl rfl)

/-! ## A step of an agent -/

namespace Host

/-- Takes steps one after the other, if each of them can be taken. -/
def perform (incoming : List Octets) (h : Host L) (actions : List Action) : Option (Host L) :=
  actions.foldlM (fun h action => h.act incoming action) h

variable {h h' : Host L} {incoming : List Octets}

theorem says_advance (mild : h.Mild) {i : Nat} (ha : h.advance i = some h') :
    Says P h.endpoint h'.endpoint ∧ h'.heard = h.heard := by
  unfold advance at ha
  split at ha
  · cases ha
  · next t ht =>
    split at ha
    · cases ha
    · obtain ⟨t', -, rfl⟩ := Option.map_eq_some_iff.mp ha
      obtain ⟨⟨serving, slots, workers, eq⟩, -⟩ :=
        (mild t (List.mem_of_getElem? ht)).step h.endpoint t.caller
      have link := congrArg Agent.link eq
      have outbound := congrArg Agent.outbound eq
      have sent := congrArg (LinkStats.sent ∘ Agent.stats) eq
      exact ⟨.quiet link outbound sent, rfl⟩

/-- Unless the owner announces the agent, what it sends of its own accord announces no start. -/
theorem says_act_routine (mild : h.Mild) {action : Action}
    (ha : h.act incoming action = some h') (hears : action ≠ .hear)
    (announces : action ≠ .announce) :
    Says Emission.Routine h.endpoint h'.endpoint ∧ h'.heard = h.heard := by
  cases action with
  | hear => exact absurd rfl hears
  | announce => exact absurd rfl announces
  | event header args =>
    cases ha
    exact ⟨h.endpoint.says_sendPayload_routine (by decide) StreamId.control _, rfl⟩
  | advance i => exact says_advance mild ha
  | pass =>
    obtain ⟨a, delivered, rfl⟩ := Option.map_eq_some_iff.mp ha
    exact ⟨says_deliver delivered, rfl⟩
  | takeUp i =>
    obtain ⟨w, a, -, -, taken, rfl⟩ := act_takeUp ha
    obtain ⟨slots, workers, log, rfl⟩ := takeUp_eq taken
    exact ⟨.quiet rfl rfl rfl, rfl⟩
  | handle i result =>
    obtain ⟨id, stream, invocation, -, rfl⟩ := act_handle ha
    exact ⟨.quiet rfl rfl rfl, rfl⟩
  | answer i =>
    obtain ⟨id, stream, payload, -, rfl⟩ := act_answer ha
    have answered : Says Emission.Routine h.endpoint
        (h.endpoint.sendPayload .response stream.toOctet payload).2 :=
      h.endpoint.says_sendPayload_routine (by decide) stream payload
    exact ⟨answered.trans (.quiet rfl rfl rfl), rfl⟩
  | _ =>
    cases ha
    exact ⟨.quiet rfl rfl rfl, rfl⟩

/-- Whoever makes a step, no frame but the answer to what arrives is on a stream that does not
exist. -/
theorem says_act (mild : h.Mild) {action : Action} (ha : h.act incoming action = some h')
    (hears : action ≠ .hear) :
    Says Emission.Addressed h.endpoint h'.endpoint ∧ h'.heard = h.heard := by
  by_cases announces : action = .announce
  · subst announces
    cases ha
    exact ⟨h.endpoint.says_sendPayload_addressed .agentStart StreamId.control [], rfl⟩
  · exact (says_act_routine mild ha hears announces).imp_left (·.mono fun _ => (·.addressed))

theorem taken_act (mild : h.Mild) {action : Action} (ha : h.act incoming action = some h') :
    FrameLink.taken h.endpoint.link <+: FrameLink.taken h'.endpoint.link := by
  by_cases hears : action = .hear
  · subst hears
    obtain ⟨octets, -, -, rfl⟩ := act_hear ha
    by_cases hk : kindIn octets = some .agentReset
    · obtain ⟨before, after, S⟩ := h.endpoint.startsOver_receive hk
      exact ⟨_, S.utters.taken.symm⟩
    · obtain ⟨es, u⟩ := h.endpoint.says_receive hk
      exact ⟨_, u.taken.symm⟩
  · obtain ⟨⟨es, u⟩, -⟩ := says_act mild ha hears
    exact ⟨_, u.taken.symm⟩

theorem heard_le_act (mild : h.Mild) {action : Action} (ha : h.act incoming action = some h') :
    h.heard ≤ h'.heard := by
  by_cases hears : action = .hear
  · subst hears
    obtain ⟨octets, -, -, rfl⟩ := act_hear ha
    exact Nat.le_succ _
  · exact Nat.le_of_eq (says_act mild ha hears).2.symm

/-- A start is announced only by the owner, or when a request to reset is heard. -/
theorem unannounced_act (mild : h.Mild) {action : Action} (ha : h.act incoming action = some h')
    (announces : action ≠ .announce)
    (resets : action = .hear →
      ∀ octets, incoming[h.heard]? = some octets → kindIn octets ≠ some .agentReset) :
    ∃ new, FrameLink.taken h'.endpoint.link = FrameLink.taken h.endpoint.link ++ new ∧
      ∀ octets ∈ new, kindIn octets ≠ some .agentStart := by
  by_cases hears : action = .hear
  · subst hears
    obtain ⟨octets, next, -, rfl⟩ := act_hear ha
    exact (h.endpoint.says_receive (resets rfl octets next)).unannounced fun _ => MayAnswer.other
  · exact (says_act_routine mild ha hears announces).1.unannounced fun _ => Emission.Routine.other

end Host
end Agent
end CommandLink
