import CommandLink.Proofs.Agent.Emissions

/-! # The numbers of an agent's frames

A frame that fails to leave takes no number with it, at whatever point it fails. So the frames that
the link has taken since the agent began its numbers carry 0, 1, 2 and so on, modulo 16, with no
number left out and none used twice, and the count of sent frames is the count of frames that the
link has taken (`Agent.Host.numbered`). -/

namespace CommandLink

namespace Tells

variable {t u : Outbound} {es : List Emission}

/-- Each frame that a sender says has the number that is as far from the first as the frame is. -/
theorem seq_getElem? (H : Tells t (es.map .say) u) {k : Nat} {e : Emission}
    (he : es[k]? = some e) : e.seq.val = (t.peek.val + k) % 16 := by
  induction es generalizing t k with
  | nil => cases he
  | cons e' es ih =>
    cases H with
    | say next rest =>
      cases k with
      | zero =>
        cases he
        rw [next]
        omega
      | succ k =>
        have here := ih rest (by simpa using he)
        rw [Outbound.peek_commit, SeqNum.val_next, next] at here
        omega

theorem val_peek (H : Tells t (es.map .say) u) :
    u.peek.val = (t.peek.val + es.length) % 16 := by
  induction es generalizing t with
  | nil =>
    cases H
    simp only [List.length_nil]
    omega
  | cons e es ih =>
    cases H with
    | say next rest =>
      rw [ih rest, Outbound.peek_commit, SeqNum.val_next, next, List.length_cons]
      omega

end Tells

theorem Emission.decode_octets (e : Emission) : Header.decode e.octets = .ok e.header :=
  Header.decode_encode_append e.header (FrameKind.code_lt e.kind) e.payload

namespace Agent

variable {L : Type} [FrameLink L]

/-- How many frames the link has taken when an agent begins its numbers anew for a frame: those so
far, and the report that frames were lost before this one. -/
def renewedAt (a : Agent L) (octets : Octets) : Option Nat :=
  match Incoming.ofOctets octets with
  | .frame header stream _ =>
    if FrameKind.ofCode? header.kind = some .agentReset then
      some (FrameLink.taken (a.counted.reportGap stream header.seq).link).length
    else none
  | _ => none

/-- An agent that has begun its numbers when its link had taken `n` frames, and has said `es` since
then. -/
structure Numbered (n : Nat) (a : Agent L) (es : List Emission) : Prop where
  taken : ∃ front, FrameLink.taken a.link = front ++ es.map Emission.octets ∧ front.length = n
  tells : Tells .fresh (es.map .say) a.outbound
  sent : a.stats.sent = (FrameLink.taken a.link).length

variable {n : Nat} {a b : Agent L} {es : List Emission} {P : Emission → Prop}

theorem Numbered.says (H : Numbered n a es) (said : Says P a b) : ∃ es', Numbered n b es' := by
  obtain ⟨es', u⟩ := said
  obtain ⟨front, taken, length⟩ := H.taken
  have all : FrameLink.taken b.link = FrameLink.taken a.link ++ es'.map Emission.octets := by
    rw [u.taken, spoken, emissions_map_say]
  refine ⟨es ++ es', ⟨front, ?_, length⟩, ?_, ?_⟩
  · rw [all, taken, List.map_append, List.append_assoc]
  · rw [List.map_append]
    exact H.tells.append u.tells
  · rw [u.sent, H.sent, emissions_map_say, all, List.length_append, List.length_map]

/-- An agent that starts over begins its numbers behind all that the link has taken. -/
theorem Numbered.restart (H : Numbered n a es) :
    ∃ es', Numbered (FrameLink.taken a.link).length a.restart es' := by
  obtain ⟨es', u, -⟩ := a.utters_restart
  have all : FrameLink.taken a.restart.link =
      FrameLink.taken a.link ++ es'.map Emission.octets := by
    rw [u.taken, spoken, emissions_renew, emissions_map_say]
  refine ⟨es', ⟨_, all, rfl⟩, ?_, ?_⟩
  · cases u.tells with
    | renew rest => exact rest
  · rw [u.sent, H.sent, emissions_renew, emissions_map_say, all, List.length_append,
      List.length_map]

theorem Numbered.receive (H : Numbered n a es) (octets : Octets) :
    ∃ es', Numbered ((a.renewedAt octets).getD n) (a.receive (some octets)) es' := by
  by_cases hk : kindIn octets = some .agentReset
  · obtain ⟨header, stream, payload, sound, kind⟩ := exists_frame_of_kindIn hk
    obtain ⟨es', reported⟩ := H.says (P := Emission.Routine)
      (a.says_counted.trans (a.counted.says_reportGap stream header.seq))
    rw [a.receive_reset sound kind, renewedAt, sound]
    simp only [kind, if_true, Option.getD_some]
    exact reported.restart
  · have unbroken : a.renewedAt octets = none := by
      unfold renewedAt
      split
      · next header stream payload sound =>
        rw [if_neg fun kind => hk (by simp [kindIn, sound, kind])]
      · rfl
    rw [unbroken]
    exact H.says (a.says_receive hk)

theorem numbered_start {link : L} (clean : FrameLink.taken link = []) (config : AgentConfig) :
    ∃ es, Numbered 0 (start link config).2 es := by
  have nothing : Numbered 0 (fresh link config) [] :=
    ⟨⟨[], clean, rfl⟩, .nil _, by simp [fresh, clean, LinkStats.zero]⟩
  exact nothing.says (says_start link config)

theorem Numbered.number (H : Numbered n a es) {k : Nat} {octets : Octets}
    (h : (FrameLink.taken a.link)[n + k]? = some octets) :
    ∃ header, Header.decode octets = .ok header ∧ header.seq.val = k % 16 := by
  obtain ⟨front, taken, rfl⟩ := H.taken
  rw [taken, List.getElem?_append_right (Nat.le_add_right _ _), Nat.add_sub_cancel_left,
    List.getElem?_map] at h
  obtain ⟨e, he, rfl⟩ := Option.map_eq_some_iff.mp h
  have seq : e.seq.val = (0 + k) % 16 := H.tells.seq_getElem? he
  rw [Nat.zero_add] at seq
  exact ⟨e.header, e.decode_octets, seq⟩

/-- The number that the next frame will have. -/
theorem Numbered.peek (H : Numbered n a es) :
    n ≤ (FrameLink.taken a.link).length ∧
      a.outbound.peek.val = ((FrameLink.taken a.link).length - n) % 16 := by
  obtain ⟨front, taken, rfl⟩ := H.taken
  have peek : a.outbound.peek.val = (0 + es.length) % 16 := H.tells.val_peek
  rw [Nat.zero_add] at peek
  rw [taken, List.length_append, List.length_map, Nat.add_sub_cancel_left]
  exact ⟨Nat.le_add_right _ _, peek⟩

theorem sendPayload_of_error {kind : FrameKind} {stream : UInt8} {payload : Octets}
    {e : EndpointError} (h : a.sendPayload kind stream payload = (.error e, b)) :
    b.outbound = a.outbound ∧ b.stats = a.stats ∧
      FrameLink.taken b.link = FrameLink.taken a.link := by
  rcases a.sendPayload_sends kind stream payload with ⟨_, link, sent, taken⟩ | ⟨-, link, sent, -⟩
  · rw [sent] at h
    cases h
    exact ⟨rfl, rfl, taken⟩
  · rw [sent] at h
    cases h

namespace Host

variable {h h' : Host L} {incoming : List Octets} {actions : List Action}

/-- Where an action lets the numbers begin anew, if it does. -/
def renewal? (incoming : List Octets) (h : Host L) : Action → Option Nat
  | .hear => (incoming[h.heard]?).bind h.endpoint.renewedAt
  | _ => none

/-- Where the numbers have begun last when a run is over, among the frames that the link has taken,
if they had begun at `n` before it. -/
def begunAt (incoming : List Octets) (n : Nat) (h : Host L) : List Action → Nat
  | [] => n
  | action :: actions =>
    match h.act incoming action with
    | some h' => h'.begunAt incoming ((h.renewal? incoming action).getD n) actions
    | none => n

theorem numbered_act (mild : h.Mild) {action : Action} (ha : h.act incoming action = some h')
    (H : Numbered n h.endpoint es) :
    ∃ es', Numbered ((h.renewal? incoming action).getD n) h'.endpoint es' := by
  by_cases hears : action = .hear
  · subst hears
    obtain ⟨octets, next, -, rfl⟩ := act_hear ha
    rw [renewal?, next]
    exact H.receive octets
  · have unbroken : h.renewal? incoming action = none := by
      cases action with
      | hear => exact absurd rfl hears
      | _ => rfl
    rw [unbroken]
    exact H.says (says_act mild ha hears).1

theorem numbered_perform (mild : h.Mild) (H : Numbered n h.endpoint es)
    (run : h.perform incoming actions = some h') :
    ∃ es', Numbered (h.begunAt incoming n actions) h'.endpoint es' := by
  induction actions generalizing h n es with
  | nil =>
    cases run
    exact ⟨es, H⟩
  | cons action actions ih =>
    rw [perform, List.foldlM_cons] at run
    obtain ⟨g, ha, rest⟩ := Option.bind_eq_some_iff.mp run
    obtain ⟨es', H'⟩ := numbered_act mild ha H
    simp only [begunAt, ha]
    exact ih (act_effect mild ha).2 H' rest

/-- An agent from its start, in whatever order its owner, its workers and its receive path take
their steps, whatever arrives, and whichever of its frames fail to leave. Of the frames that the
link has taken since the agent began its numbers, at its start or at the latest request to reset,
frame `k` carries the number `k` modulo 16, and so will the next one. As many frames are counted as
sent as the link has taken. A failure to send, for whatever reason, changes none of this. -/
theorem numbered {link : L} (clean : FrameLink.taken link = []) (config : AgentConfig)
    (run : (ofAgent (start link config).2).perform incoming actions = some h) :
    let n := (ofAgent (start link config).2).begunAt incoming 0 actions
    (∀ k octets, (FrameLink.taken h.endpoint.link)[n + k]? = some octets →
      ∃ header, Header.decode octets = .ok header ∧ header.seq.val = k % 16) ∧
    n ≤ (FrameLink.taken h.endpoint.link).length ∧
    h.endpoint.outbound.peek.val = ((FrameLink.taken h.endpoint.link).length - n) % 16 ∧
    h.endpoint.stats.sent = (FrameLink.taken h.endpoint.link).length ∧
    ∀ kind stream payload e a, h.endpoint.sendPayload kind stream payload = (.error e, a) →
      a.outbound = h.endpoint.outbound ∧ a.stats = h.endpoint.stats ∧
        FrameLink.taken a.link = FrameLink.taken h.endpoint.link := by
  intro n
  obtain ⟨es, began⟩ := numbered_start clean config
  obtain ⟨es', H⟩ := numbered_perform (fun _ ht => (List.not_mem_nil ht).elim) began run
  exact ⟨fun k octets => H.number, H.peek.1, H.peek.2, H.sent,
    fun kind stream payload e a => sendPayload_of_error⟩

/-- A link that refuses the second frame and the fifth. -/
def refusing : ScriptedLink := ⟨[false, true, false, false, true], []⟩

/-- A frame with the number 3, and behind it a request to reset with the number 5. -/
def gapThenReset : List Octets := [[0x33, 0, 0, 0], [0x45, 0, 0, 0]]

def eventsAround : List Action :=
  [.event ⟨2, 1⟩ [], .event ⟨2, 1⟩ [], .hear, .hear, .event ⟨2, 1⟩ [], .announce]

/-- The link refuses the first event and, behind the report of the gap, the announcement that the
agent has started over. -/
theorem numbered_gapThenReset :
    ∃ h : Host ScriptedLink,
      (ofAgent (start refusing ⟨"1.0", true⟩).2).perform gapThenReset eventsAround = some h ∧
      h.endpoint.link.frames = [[0x50, 0, 0, 0], [0x21, 0, 4, 0, 2, 1, 0, 0], [0x92, 0, 0, 0],
        [0x20, 0, 4, 0, 2, 1, 0, 0], [0x51, 0, 0, 0]] ∧
      (ofAgent (start refusing ⟨"1.0", true⟩).2).begunAt gapThenReset 0 eventsAround = 3 ∧
      h.endpoint.outbound.peek.val = 2 ∧ h.endpoint.stats.sent = 5 := by
  obtain ⟨h, run, frames, begun⟩ : ∃ h : Host ScriptedLink,
      (ofAgent (start refusing ⟨"1.0", true⟩).2).perform gapThenReset eventsAround = some h ∧
      h.endpoint.link.frames = [[0x50, 0, 0, 0], [0x21, 0, 4, 0, 2, 1, 0, 0], [0x92, 0, 0, 0],
        [0x20, 0, 4, 0, 2, 1, 0, 0], [0x51, 0, 0, 0]] ∧
      (ofAgent (start refusing ⟨"1.0", true⟩).2).begunAt gapThenReset 0 eventsAround = 3 :=
    ⟨_, rfl, rfl, rfl⟩
  have clean : FrameLink.taken refusing = [] := rfl
  obtain ⟨-, -, next, sent, -⟩ := numbered clean ⟨"1.0", true⟩ run
  have taken : FrameLink.taken h.endpoint.link = _ := frames
  rw [begun, taken] at next
  rw [taken] at sent
  exact ⟨h, run, frames, begun, next, sent⟩

end Host
end Agent
end CommandLink
