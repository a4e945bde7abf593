import Mathlib.Data.List.Infix
import CommandLink.Proofs.Controller.Host

/-! # Everything that a controller sends

Callers make a controller send, and so may the callback that runs when the agent starts. Whoever it
is, an attempt changes the sending half as `Speech` says and leaves its outcome behind: a caller's
in `Host.attempts`, the callback's in the controller's log. Sync requests moreover have a form: they
travel on the control stream, and their token is never 0. -/

namespace CommandLink

namespace Controller

variable {L : Type}

/-! ## Tokens -/

theorem newToken_ne_zero (c : Controller L) : c.newToken.1 ≠ 0 := by
  unfold newToken
  simp only
  split
  · decide
  · next h => exact h

/-- The buffer of a sync request holds its token, which is not 0. -/
structure SyncAttempt.Genuine (attempt : SyncAttempt) : Prop where
  token : attempt.request.token ≠ 0
  data : attempt.payload.data = attempt.request.encode

def Call.Genuine : Call → Prop
  | .syncClear attempt | .syncPublish attempt | .syncTransmit attempt => attempt.Genuine
  | _ => True

/-- Every sync request under way is genuine. -/
def Host.Genuine (h : Host L) : Prop := ∀ t ∈ h.threads, t.call.Genuine

theorem Call.genuine_expire {call : Call} {timeout : Duration} {next : Call}
    (h : call.expire timeout = .next next) : next.Genuine := by
  cases call <;> cases h
  trivial

theorem Call.genuine_call (errand : Errand) : errand.call.Genuine := by
  cases errand <;> trivial

variable [FrameLink L]

theorem Call.Genuine.step {call : Call} (H : call.Genuine) (c : Controller L) {next : Call}
    (h : (call.step c).2 = .next next) : next.Genuine := by
  cases call with
  | syncPrepare timeout =>
    simp only [Call.step] at h
    split at h
    · split at h
      · next b hb =>
        cases h
        have empty : b.data = [] := by
          rcases c.newToken.2.reserve_cases SyncRequest.size with ⟨e, he, -⟩ | ⟨b', hb', hd⟩
          · rw [he] at hb
            cases hb
          · rw [hb'] at hb
            cases hb
            exact hd
        exact ⟨c.newToken_ne_zero, by rw [Buffer.data_append, empty, List.nil_append]⟩
      · cases h
    · cases h
  | syncClear attempt =>
    cases h
    exact H
  | syncPublish attempt =>
    cases h
    exact H
  | _ =>
    simp only [Call.step] at h
    (repeat' split at h) <;> cases h <;> trivial

/-! ## What is said -/

/-- What is not a sync says no sync request. -/
theorem Speech.soundSync {c c' : Controller L} {attempts : List Attempt} {posts : List Post}
    (H : Speech c c' attempts posts) (h : ∀ a ∈ attempts, a.message ≠ .sync) :
    ∀ p ∈ posts, p.SoundSync := by
  intro p hp hk
  cases H with
  | said m q hm =>
    have here := h _ (List.mem_singleton_self _)
    cases List.mem_singleton.mp hp
    have kind := hm.kind
    rw [hk] at kind
    cases m with
    | sync => exact absurd rfl here
    | _ => cases kind
  | _ => exact (List.not_mem_nil hp).elim

/-- A sync request travels on the control stream with what its buffer holds. -/
theorem sendSync_carries (c : Controller L) (b : Buffer) :
    ∃ posts, Speech c (c.sendSync b).2 [⟨.sync, (c.sendSync b).1⟩] posts ∧
      ∀ p ∈ posts, p.stream = StreamId.control ∧ p.payload = b.data := by
  rcases sendFrame_cases
    { c with outbound := c.outbound.commit (c.outbound.lastSent.getD SeqNum.first) } .syncRequest
    (c.outbound.lastSent.getD SeqNum.first) StreamId.control b with
    ⟨e, link, h, he, ht⟩ | ⟨fits, link, h, ht⟩
  · rw [sendSync, h]
    exact ⟨[], .lost .sync he ht rfl rfl, fun p hp => (List.not_mem_nil hp).elim⟩
  · rw [sendSync, h]
    refine ⟨_, .said .sync ⟨.syncRequest, c.outbound.lastSent.getD SeqNum.first,
      StreamId.control, b.data, fits⟩ rfl rfl ht rfl rfl, fun p hp => ?_⟩
    cases List.mem_singleton.mp hp
    exact ⟨rfl, rfl⟩

theorem Call.Genuine.speech {call : Call} (H : call.Genuine) (c : Controller L) :
    ∃ posts, Speech c (call.step c).1 (call.attempts c) posts ∧ ∀ p ∈ posts, p.SoundSync := by
  cases call with
  | syncTransmit attempt =>
    have H : attempt.Genuine := H
    obtain ⟨posts, speech, said⟩ := c.sendSync_carries attempt.payload
    have sound : ∀ p ∈ posts, p.SoundSync := fun p hp _ =>
      ⟨(said p hp).1, attempt.request, H.token, (said p hp).2.trans H.data⟩
    rw [step_syncTransmit]
    exact ⟨posts, speech, sound⟩
  | transmit command timeout =>
    obtain ⟨posts, speech⟩ := Call.step_speech c (.transmit command timeout)
    refine ⟨posts, speech, speech.soundSync fun a ha => ?_⟩
    cases List.mem_singleton.mp ha
    exact nofun
  | _ =>
    obtain ⟨posts, speech⟩ := Call.step_speech c _
    exact ⟨posts, speech, speech.soundSync fun a ha => (List.not_mem_nil ha).elim⟩

/-! ## The callback that runs when the agent starts -/

theorem Speech.congr {c c' d d' : Controller L} {attempts : List Attempt} {posts : List Post}
    (H : Speech c c' attempts posts)
    (h : d.link = c.link ∧ d.outbound = c.outbound ∧ d.stats.sent = c.stats.sent)
    (h' : d'.link = c'.link ∧ d'.outbound = c'.outbound ∧ d'.stats.sent = c'.stats.sent) :
    Speech d d' attempts posts := by
  cases H with
  | silent link outbound sent =>
    exact .silent (by rw [h.1, h'.1, link]) (by rw [h.2.1, h'.2.1, outbound])
      (by rw [h.2.2, h'.2.2, sent])
  | spared m he link outbound sent =>
    exact .spared m he (by rw [h.1, h'.1, link]) (by rw [h.2.1, h'.2.1, outbound])
      (by rw [h.2.2, h'.2.2, sent])
  | lost m he link outbound sent =>
    exact .lost m he (by rw [h.1, h'.1, link]) (by rw [h.2.1, h'.2.1, outbound])
      (by rw [h.2.2, h'.2.2, sent])
  | said m p hm hs link outbound sent =>
    exact .said m p hm (by rw [h.2.1, hs]) (by rw [h.1, h'.1, link])
      (by rw [h.2.1, h'.2.1, outbound]) (by rw [h.2.2, h'.2.2, sent])

/-- The command that the callback sends when the agent starts. -/
def hookCommand (c : Controller L) : Option Command := c.onStart.bind StartHook.command

/-- `c'` follows from `c` by callbacks. What they attempted to send is the command of the start
callback, and its outcome is in the log. -/
structure CallsBack (c c' : Controller L) (attempts : List Attempt) (posts : List Post)
    (told : List Callback) : Prop where
  speech : Speech c c' attempts posts
  log : c'.log = c.log ++ told
  onStart : c'.onStart = c.onStart
  outcome : ∀ a ∈ attempts, Callback.startCommand a.outcome ∈ told ∧
    ∃ command, c.hookCommand = some command ∧ a.message = .command command

theorem CallsBack.silent (c c' : Controller L) (hl : c'.link = c.link)
    (ho : c'.outbound = c.outbound) (hs : c'.stats.sent = c.stats.sent)
    (hook : c'.onStart = c.onStart) {told : List Callback} (log : c'.log = c.log ++ told) :
    CallsBack c c' [] [] told :=
  ⟨.silent (by rw [hl]) ho hs, log, hook, fun _ h => (List.not_mem_nil h).elim⟩

theorem CallsBack.congr {c c' d d' : Controller L} {attempts : List Attempt} {posts : List Post}
    {told : List Callback} (H : CallsBack c c' attempts posts told)
    (h : d.link = c.link ∧ d.outbound = c.outbound ∧ d.stats.sent = c.stats.sent)
    (h' : d'.link = c'.link ∧ d'.outbound = c'.outbound ∧ d'.stats.sent = c'.stats.sent)
    (hook : d.onStart = c.onStart) (hook' : d'.onStart = c'.onStart)
    (log : d.log = c.log) (log' : d'.log = c'.log) : CallsBack d d' attempts posts told :=
  ⟨H.speech.congr h h', by rw [log, log', H.log], by rw [hook, hook', H.onStart], fun a ha => by
    rw [hookCommand, hook]
    exact H.outcome a ha⟩

theorem CallsBack.not_sync {c c' : Controller L} {attempts : List Attempt} {posts : List Post}
    {told : List Callback} (H : CallsBack c c' attempts posts told) :
    ∀ a ∈ attempts, a.message ≠ .sync := by
  intro a ha
  obtain ⟨-, command, -, e⟩ := H.outcome a ha
  exact fun sync => nomatch e.symm.trans sync

theorem agentStarted_callsBack (c : Controller L) :
    ∃ attempts posts told, CallsBack c c.agentStarted attempts posts told := by
  unfold agentStarted
  simp only
  split
  · refine ⟨[], [], [], ?_⟩
    exact .silent c _ (by rfl) (by rfl) (by rfl) (by rfl) (List.append_nil _).symm
  · split
    · refine ⟨[], [], [.agentStarted c.handshake.started], ?_⟩
      exact .silent c _ (by rfl) (by rfl) (by rfl) (by rfl) (by rfl)
    · next command _ =>
      generalize hd : ({ c with handshake := c.handshake.started } : Controller L).record
        (.agentStarted c.handshake.started) = d
      have same : c.link = d.link ∧ c.outbound = d.outbound ∧ c.stats.sent = d.stats.sent := by
        subst hd
        exact ⟨rfl, rfl, rfl⟩
      obtain ⟨posts, speech⟩ := d.send_speech command
      obtain ⟨link, outbound, sent, h⟩ := d.send_eq command
      refine ⟨_, posts, [.agentStarted c.handshake.started, .startCommand (d.send command).1],
        speech.congr same ⟨rfl, rfl, rfl⟩, ?_, ?_, fun a ha => ?_⟩
      · rw [record, h, ← hd]
        simp [record]
      · rw [record, h, ← hd]
        rfl
      · cases List.mem_singleton.mp ha
        exact ⟨by simp, command, by simp [hookCommand, *], rfl⟩

theorem dispatch_callsBack (c : Controller L) (kind : Option FrameKind) (stream : StreamId)
    (payload : Octets) :
    ∃ attempts posts told, CallsBack c (c.dispatch kind stream payload) attempts posts told := by
  unfold dispatch
  split
  · obtain ⟨told, h⟩ := c.dispatchEvent_eq stream payload
    refine ⟨[], [], told, ?_⟩
    rw [h]
    exact .silent c _ (by rfl) (by rfl) (by rfl) (by rfl) (by rfl)
  · exact c.agentStarted_callsBack
  · obtain ⟨slot, h⟩ := c.acceptSync_eq payload
    refine ⟨[], [], [], ?_⟩
    rw [h]
    exact .silent c _ (by rfl) (by rfl) (by rfl) (by rfl) (List.append_nil _).symm
  · exact ⟨[], [], [], .silent c c rfl rfl rfl rfl (List.append_nil _).symm⟩

/-- What the receive path says and logs. -/
theorem receive_callsBack (c : Controller L) (octets : Octets) :
    ∃ attempts posts told, CallsBack c (c.receive (some octets)) attempts posts told := by
  have silent : ∀ c' : Controller L, c'.link = c.link → c'.outbound = c.outbound →
      c'.stats.sent = c.stats.sent → c'.onStart = c.onStart → c'.log = c.log →
      ∃ attempts posts told, CallsBack c c' attempts posts told :=
    fun c' hl ho hs hook log =>
      ⟨[], [], [], .silent c c' hl ho hs hook (by rw [log, List.append_nil])⟩
  simp only [receive]
  split
  · next header stream payload _ =>
    unfold accept
    simp only
    split
    · exact silent _ rfl rfl rfl rfl rfl
    · split
      · exact silent _ rfl rfl rfl rfl rfl
      · obtain ⟨attempts, posts, told, H⟩ :=
          ({ c with stats := c.stats.countReceived } : Controller L).dispatch_callsBack
            (FrameKind.ofCode? header.kind) stream payload
        refine ⟨attempts, posts, told, H.congr ⟨rfl, rfl, rfl⟩ ⟨rfl, rfl, ?_⟩ rfl rfl rfl rfl⟩
        simp only [finish]
        split <;> rfl
  · exact silent _ rfl rfl rfl rfl rfl

/-! ## Hosts -/

/-- Calls leave the log to the receive path. -/
theorem Call.step_log (c : Controller L) (call : Call) : (call.step c).1.log = c.log := by
  cases call with
  | transmit command timeout =>
    obtain ⟨link, outbound, sent, eq⟩ := c.send_eq command
    rw [step_transmit, eq]
  | syncTransmit attempt =>
    obtain ⟨link, outbound, sent, eq⟩ := c.sendSync_eq attempt.payload
    rw [step_syncTransmit, eq]
  | _ => simp only [Call.step] <;> (repeat' split) <;> rfl

namespace Host

/-- Nothing that callers or callbacks have attempted to send since `h₀` has failed. -/
structure Unfailing (h₀ h : Host L) : Prop where
  attempts : ∀ a ∈ h.attempts.drop h₀.attempts.length, a.outcome = .ok ()
  callbacks : ∀ result, Callback.startCommand result ∈ h.endpoint.log.drop h₀.endpoint.log.length →
    result = .ok ()

omit [FrameLink L] in
/-- What has not failed over a longer time has not failed before, nor after. -/
theorem Unfailing.before {h₀ h h' : Host L} (H : Unfailing h₀ h')
    (tried₀ : h₀.attempts <+: h.attempts) (log₀ : h₀.endpoint.log <+: h.endpoint.log)
    (tried : h.attempts <+: h'.attempts) (log : h.endpoint.log <+: h'.endpoint.log) :
    Unfailing h₀ h ∧ Unfailing h h' :=
  ⟨⟨fun a ha => H.attempts a ((List.IsPrefix.drop tried _).subset ha),
    fun result hr => H.callbacks result ((List.IsPrefix.drop log _).subset hr)⟩,
    ⟨fun a ha => H.attempts a (List.drop_subset_drop_left _ tried₀.length_le ha),
      fun result hr => H.callbacks result (List.drop_subset_drop_left _ log₀.length_le hr)⟩⟩

/-- What one step has attempted to send, with everything on record. -/
structure Tries (h h' : Host L) (attempts : List Attempt) (posts : List Post) : Prop where
  speech : Speech h.endpoint h'.endpoint attempts posts
  sound : ∀ p ∈ posts, p.SoundSync
  tried : ∃ new, h'.attempts = h.attempts ++ new
  log : ∃ told, h'.endpoint.log = h.endpoint.log ++ told
  ok : Unfailing h h' → ∀ a ∈ attempts, a.outcome = .ok ()

theorem Tries.spoke {h h' : Host L} {attempts : List Attempt} {posts : List Post}
    (speech : Speech h.endpoint h'.endpoint attempts posts) (sound : ∀ p ∈ posts, p.SoundSync)
    (tried : h'.attempts = h.attempts ++ attempts) (log : h'.endpoint.log = h.endpoint.log) :
    Tries h h' attempts posts where
  speech := speech
  sound := sound
  tried := ⟨attempts, tried⟩
  log := ⟨[], by rw [log, List.append_nil]⟩
  ok H a ha := H.attempts a (by rwa [tried, List.drop_left])

omit [FrameLink L] in
theorem Genuine.set {h : Host L} (G : h.Genuine) {t u : Thread} {i : Nat}
    (ht : h.threads[i]? = some t) {progress : Call.Result} (htake : t.take progress = some u)
    (onward : ∀ call, progress = .next call → call.Genuine) :
    ∀ v ∈ h.threads.set i u, v.call.Genuine := by
  intro v hv
  rcases List.mem_or_eq_of_mem_set hv with hv | rfl
  · exact G v hv
  · rcases Thread.take_cases htake with ⟨result, -, rfl⟩ | ⟨call, hcall, rfl⟩
    · exact G t (List.mem_of_getElem? ht)
    · exact onward call hcall

theorem act_tries {incoming : List Octets} {h h' : Host L} {action : Action} (G : h.Genuine)
    (ha : h.act incoming action = some h') :
    h'.Genuine ∧ ∃ attempts posts, Tries h h' attempts posts := by
  have unsound : ∀ {c c' : Controller L} {m : Message} {r posts},
      Speech c c' [⟨m, r⟩] posts → m ≠ .sync → ∀ p ∈ posts, p.SoundSync :=
    fun speech hm => speech.soundSync fun a ha => List.mem_singleton.mp ha ▸ hm
  have nothing : ∀ p ∈ ([] : List Post), p.SoundSync := fun _ hp => (List.not_mem_nil hp).elim
  cases action with
  | send command =>
    obtain ⟨posts, speech⟩ := h.endpoint.send_speech command
    obtain ⟨link, outbound, sent, eq⟩ := h.endpoint.send_eq command
    have log := congrArg Controller.log eq
    cases ha
    exact ⟨G, _, posts, .spoke speech (unsound speech nofun) rfl log⟩
  | reset =>
    obtain ⟨posts, speech⟩ := h.endpoint.resetAgent_speech
    obtain ⟨link, outbound, sent, handshake, eq⟩ := h.endpoint.resetAgent_eq
    have log := congrArg Controller.log eq
    cases ha
    exact ⟨G, _, posts, .spoke speech (unsound speech nofun) rfl log⟩
  | begin errand =>
    cases ha
    refine ⟨fun t ht => ?_, [], [], .spoke (.none rfl rfl rfl) nothing (List.append_nil _).symm rfl⟩
    rcases mem_or_eq_of_mem_concat ht with ht | rfl
    · exact G t ht
    · exact Call.genuine_call errand
  | advance i =>
    obtain ⟨t, u, ht, -, htake, rfl⟩ := act_advance ha
    have genuine := G t (List.mem_of_getElem? ht)
    obtain ⟨posts, speech, sound⟩ := genuine.speech h.endpoint
    exact ⟨G.set ht htake fun call hcall => genuine.step h.endpoint hcall, _, posts,
      .spoke speech sound rfl (t.call.step_log h.endpoint)⟩
  | expire i =>
    obtain ⟨t, limit, u, ht, -, -, htake, rfl⟩ := act_expire ha
    exact ⟨G.set ht htake fun call hcall => Call.genuine_expire hcall, [], [],
      .spoke (.none rfl rfl rfl) nothing (List.append_nil _).symm rfl⟩
  | hear =>
    obtain ⟨octets, -, -, rfl⟩ := act_hear ha
    obtain ⟨attempts, posts, told, H⟩ := h.endpoint.receive_callsBack octets
    refine ⟨G, attempts, posts, H.speech, H.speech.soundSync H.not_sync,
      ⟨[], (List.append_nil _).symm⟩, ⟨told, H.log⟩, fun ok a ha => ok.callbacks _ ?_⟩
    show _ ∈ (h.endpoint.receive (some octets)).log.drop h.endpoint.log.length
    rw [H.log, List.drop_left]
    exact (H.outcome a ha).1
  | pass =>
    obtain ⟨c, hc, rfl⟩ := Option.map_eq_some_iff.mp ha
    obtain ⟨response, -, -, rfl⟩ := deliver_cases hc
    exact ⟨G, [], [], .spoke (.silent rfl rfl rfl) nothing (List.append_nil _).symm rfl⟩
  | _ =>
    cases ha
    exact ⟨G, [], [], .spoke (.none rfl rfl rfl) nothing (List.append_nil _).symm rfl⟩

end Host
end Controller
end CommandLink
