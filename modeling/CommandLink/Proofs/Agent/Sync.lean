import CommandLink.Proofs.Agent.Host

/-! # How an agent answers sync requests

Each sound sync request is answered with one frame on the control stream, which holds the token of
the request and the number that the agent saw last before it. No other frame of an agent is an
answer to a sync request. -/

namespace CommandLink
namespace Agent

/-- The payload of the answer to a sync request, if the agent remembers `r`. -/
def syncReply (r : Inbound) (request : SyncRequest) : Octets :=
  SyncResponse.encode ⟨request.token, r.lastSeen, protocolVersion⟩

/-- The payload of the answer to a frame, if the frame is a sync request. -/
def syncReplyTo (r : Inbound) (p : Post) : Option Octets :=
  if p.kind = .syncRequest then (SyncRequest.decode p.payload).toOption.map (syncReply r) else none

/-- The payloads of the answers to the sync requests among frames, if the agent remembers `r` before
the first of them. -/
def syncReplies (r : Inbound) : List Post → List Octets
  | [] => []
  | p :: rest => (syncReplyTo r p).toList ++ syncReplies (Discipline.agent.after r p) rest

theorem syncReplies_concat (r : Inbound) (ps : List Post) (p : Post) :
    syncReplies r (ps ++ [p]) =
      syncReplies r ps ++ (syncReplyTo (ps.foldl Discipline.agent.after r) p).toList := by
  induction ps generalizing r with
  | nil => simp [syncReplies]
  | cons q ps ih => simp [syncReplies, ih]

theorem syncReplyTo_of_sound {r : Inbound} {p : Post} (hk : p.kind = .syncRequest)
    {request : SyncRequest} (ht : request.token ≠ 0) (hp : p.payload = request.encode) :
    syncReplyTo r p = some (syncReply r request) := by
  have decoded : SyncRequest.decode p.payload = .ok request := by
    rw [hp, ← List.append_nil request.encode]
    exact SyncRequest.decode_encode_append request ht []
  rw [syncReplyTo, if_pos hk, decoded]
  rfl

/-- Every sound sync request is answered once. -/
theorem length_syncReplies (r : Inbound) {ps : List Post} (sound : ∀ p ∈ ps, p.SoundSync) :
    (syncReplies r ps).length = ps.countP (·.kind = .syncRequest) := by
  induction ps generalizing r with
  | nil => rfl
  | cons p ps ih =>
    have rest := ih (Discipline.agent.after r p) fun q hq => sound q (List.mem_cons_of_mem p hq)
    rw [syncReplies, List.length_append, rest, List.countP_cons]
    by_cases hk : p.kind = .syncRequest
    · obtain ⟨-, request, ht, hp⟩ := sound p List.mem_cons_self hk
      simp [syncReplyTo_of_sound hk ht hp, hk, Nat.add_comm]
    · simp [syncReplyTo, hk]

/-- What the answers to sync requests among an agent's frames hold. -/
def syncsIn (posts : List Post) : List (StreamId × Octets) :=
  (posts.filter (·.kind = .syncResponse)).map fun p => (p.stream, p.payload)

theorem syncsIn_append (ps qs : List Post) : syncsIn (ps ++ qs) = syncsIn ps ++ syncsIn qs := by
  rw [syncsIn, List.filter_append, List.map_append]
  rfl

theorem syncsIn_of_kinds {posts : List Post} (h : ∀ p ∈ posts, p.kind ≠ .syncResponse) :
    syncsIn posts = [] := by
  rw [syncsIn, List.filter_eq_nil_iff.mpr fun p hp => by simpa using h p hp]
  rfl

theorem ne_syncResponse_of_utterance {kind : FrameKind} (h : Utterance kind) :
    kind ≠ .syncResponse := by
  rintro rfl
  cases h

theorem ne_syncResponse_of_reply {heard kind : FrameKind} {lost : Prop}
    (h : Reply heard lost kind) (hk : heard ≠ .syncRequest) : kind ≠ .syncResponse := by
  rintro rfl
  cases h with
  | syncResponse h => exact hk h

variable {L : Type} [FrameLink L]

/-- An agent that runs, on a link that takes every frame, answers a sync request and nothing else
with a sync response. -/
theorem receive_syncs {a : Agent L} (running : a.running = true)
    (ready : FrameLink.Ready a.link) {p : Post} (sound : p.SoundSync) :
    ∃ posts, Speech (Reply p.kind (Discipline.agent.verdict a.inbound p = .gap)) a
        (a.receive (some p.octets)) posts ∧
      syncsIn posts = (syncReplyTo a.inbound p).toList.map (StreamId.control, ·) := by
  by_cases hk : p.kind = .syncRequest
  · obtain ⟨hs, request, ht, hp⟩ := sound hk
    have answered : a.receive (some p.octets) =
        ((a.counted.sendPayload .syncResponse p.stream.toOctet
          (syncReply a.inbound request)).2).remember p.seq := by
      have decoded := SyncRequest.decode_encode_append request ht []
      rw [List.append_nil] at decoded
      simp only [receive, Incoming.ofOctets_octets, accept, Post.ofCode?_header, Post.seq_header,
        hk, answerSync, hp, SyncRequest.length_encode, if_true, decoded]
      rfl
    have fits : (syncReply a.inbound request).length ≤ Frame.maxPayload := by
      rw [syncReply, SyncResponse.length_encode]
      decide
    have counted : Smooth (· = .syncResponse) a a.counted [] := .refl rfl rfl rfl
    have sent := sendPayload_smooth_of_ready (a := a.counted) ready running .syncResponse p.stream
      fits
    have remembered : Smooth (· = .syncResponse)
        (a.counted.sendPayload .syncResponse p.stream.toOctet (syncReply a.inbound request)).2
        (((a.counted.sendPayload .syncResponse p.stream.toOctet
          (syncReply a.inbound request)).2).remember p.seq) [] := .refl rfl rfl rfl
    have speech := ((counted.trans sent).trans remembered).toSpeech
    rw [← answered] at speech
    refine ⟨_, speech.mono fun _ e => e ▸ .syncResponse hk, ?_⟩
    rw [syncReplyTo_of_sound hk ht hp, hs]
    rfl
  · obtain ⟨posts, speech, -⟩ := a.receive_speech p
    refine ⟨posts, speech, ?_⟩
    rw [syncsIn_of_kinds fun q hq => ne_syncResponse_of_reply (speech.kinds q hq) hk, syncReplyTo,
      if_neg hk]
    rfl

end Agent
end CommandLink
