import CommandLink.Proofs.Agent.Routing

/-! # Agents that their owners have set up

Before the first frame the owner of an agent opens and closes streams, one call after the other
(`Agent.Prepared`). Whatever is open then, the slots are empty, those of the open streams take
commands, and each open stream has one worker, which waits; every other worker has stopped. -/

namespace CommandLink
namespace Agent

/-- A call runs to its end, on an agent whose workers do nothing but stop. -/
inductive Completes [Datalink L] : Agent L → Call → Agent L → Prop
  | done {a b : Agent L} {call : Call} {result : Except EndpointError Answer}
      (step : call.step a none = (b, .done result)) : Completes a call b
  | next {a b c : Agent L} {call call' : Call} (step : call.step a none = (b, .next call'))
      (rest : Completes b call' c) : Completes a call c
  | stop {a b c : Agent L} {call : Call} {i : Nat} {w : Worker} (worker : a.workers[i]? = some w)
      (waits : w.phase = .waiting) (step : a.takeUp w = some b) (rest : Completes b call c) :
      Completes a call c

/-- An agent after calls that open and close streams. -/
inductive Prepared [Datalink L] (link : L) (config : AgentConfig) : Agent L → Prop
  | start : Prepared link config (Agent.start link config).2
  | call {a b : Agent L} (before : Prepared link config a) (errand : Errand)
      (completes : Completes a errand.call b) : Prepared link config b

variable {L : Type} {a b : Agent L} {leaving : Option WorkerId}

/-- The workers at work are those of the open streams, and the one that leaves. -/
structure Staffed (a : Agent L) (leaving : Option WorkerId) : Prop where
  numbered : ∀ (i : Nat) w, a.workers[i]? = some w → w.id = i
  served : ∀ stream i, a.serving.get stream = some i →
    ∃ w, a.workers[i]? = some w ∧ w.stream = stream ∧ w.phase ≠ .stopped
  serves : ∀ (i : Nat) w, a.workers[i]? = some w → w.phase ≠ .stopped →
    a.serving.get w.stream = some i ∨ leaving = some i

/-- No command is on its way, and workers wait. -/
structure Poised (a : Agent L) (leaving : Option WorkerId) : Prop extends Staffed a leaving where
  empty : ∀ stream, (a.slots.get stream).item = none
  roomy : ∀ stream, a.isOpen stream = true → (a.slots.get stream).closed = false
  idle : ∀ (i : Nat) w, a.workers[i]? = some w → w.phase = .waiting ∨ w.phase = .stopped

/-- Only the table and the workers matter. -/
theorem Staffed.congr (S : a.Staffed leaving) (serving : b.serving = a.serving)
    (workers : b.workers = a.workers) : b.Staffed leaving := by
  constructor
  · rw [workers]
    exact S.numbered
  · rw [serving, workers]
    exact S.served
  · rw [serving, workers]
    exact S.serves

theorem Poised.congr (P : a.Poised leaving) (serving : b.serving = a.serving)
    (slots : b.slots = a.slots) (workers : b.workers = a.workers) : b.Poised leaving := by
  refine ⟨P.toStaffed.congr serving workers, ?_, ?_, ?_⟩
  · rw [slots]
    exact P.empty
  · intro stream opened
    rw [isOpen, serving] at opened
    rw [slots]
    exact P.roomy stream opened
  · rw [workers]
    exact P.idle

theorem isOpen_iff {stream : StreamId} :
    a.isOpen stream = true ↔ ∃ i, a.serving.get stream = some i :=
  Option.isSome_iff_exists

theorem isOpen_of_serving {stream : StreamId} {i : WorkerId}
    (h : a.serving.get stream = some i) : a.isOpen stream = true :=
  isOpen_iff.mpr ⟨i, h⟩

theorem getElem?_setPhase (H : ∀ (i : Nat) w, a.workers[i]? = some w → w.id = i) (i : WorkerId)
    (phase : WorkerPhase) (j : Nat) :
    (a.setPhase i phase).workers[j]? =
      a.workers[j]?.map fun w => if j = i then { w with phase := phase } else w := by
  simp only [setPhase, List.getElem?_map]
  cases hw : a.workers[j]? with
  | none => rfl
  | some w => simp only [Option.map_some, H j w hw]

theorem getElem?_setPhase_self (H : ∀ (i : Nat) w, a.workers[i]? = some w → w.id = i)
    {i : WorkerId} {w : Worker} (hw : a.workers[i]? = some w) (phase : WorkerPhase) :
    (a.setPhase i phase).workers[i]? = some { w with phase := phase } := by
  rw [getElem?_setPhase H, hw, Option.map_some, if_pos rfl]

theorem numbered_setPhase (H : ∀ (i : Nat) w, a.workers[i]? = some w → w.id = i) (i : WorkerId)
    (phase : WorkerPhase) (j : Nat) (w : Worker)
    (hw : (a.setPhase i phase).workers[j]? = some w) : w.id = j := by
  rw [getElem?_setPhase H, Option.map_eq_some_iff] at hw
  obtain ⟨v, hv, rfl⟩ := hw
  have := H j v hv
  split <;> exact this

/-- A worker that goes on to another phase, or stops because it leaves. -/
theorem Staffed.setPhase (S : a.Staffed leaving) {i : WorkerId} {w : Worker}
    (hw : a.workers[i]? = some w) (active : w.phase ≠ .stopped) {phase : WorkerPhase}
    (stays : phase = .stopped → ∀ stream, a.serving.get stream ≠ some i) :
    (a.setPhase i phase).Staffed leaving := by
  have workers := getElem?_setPhase S.numbered i phase
  constructor
  · exact numbered_setPhase S.numbered i phase
  · intro stream j hj
    obtain ⟨v, hv, hs, hp⟩ := S.served stream j hj
    rw [workers, hv]
    refine ⟨_, rfl, ?_⟩
    split
    · next e =>
      refine ⟨hs, fun stopped => stays stopped stream (e ▸ hj)⟩
    · exact ⟨hs, hp⟩
  · intro j u hu hp
    rw [workers, Option.map_eq_some_iff] at hu
    obtain ⟨v, hv, rfl⟩ := hu
    by_cases e : j = i
    · subst e
      rw [hw, Option.some.injEq] at hv
      subst hv
      rw [if_pos rfl]
      exact S.serves j w hw active
    · rw [if_neg e] at hp ⊢
      exact S.serves j v hv hp

/-- Where a call that opens or closes a stream stands. -/
inductive Call.Stage (a : Agent L) : Call → Option WorkerId → Prop
  | openFind : Stage a .openFind none
  | openStart (stream : StreamId) : Stage a (.openStart stream) none
  | closeTake (stream : StreamId) : Stage a (.closeTake stream) none
  | closeSlot {stream : StreamId} {i : WorkerId} (h : a.serving.get stream = none) :
      Stage a (.closeSlot stream i) (some i)
  | join (i : WorkerId) : Stage a (.join [i] .finish) (some i)

theorem Poised.startWorker (P : a.Poised none) {stream : StreamId}
    (h : a.startWorker stream = .ok b) : b.Poised none := by
  unfold Agent.startWorker at h
  split at h
  · cases h
  · next hopen =>
    have free : a.serving.get stream = none := by simpa [isOpen] using hopen
    simp only [Except.ok.injEq] at h
    subst h
    refine ⟨⟨?_, ?_, ?_⟩, ?_, ?_, ?_⟩
    · intro i w hw
      rcases getElem?_concat_cases hw with hw | ⟨rfl, rfl⟩
      · exact P.numbered i w hw
      · rfl
    · intro r i hi
      simp only [StreamTable.get_set] at hi
      split at hi
      · next e =>
        cases hi
        exact ⟨⟨a.workers.length, stream, .waiting⟩, by simp, e, by simp⟩
      · obtain ⟨w, hw, hs, hp⟩ := P.served r i hi
        exact ⟨w, by rw [List.getElem?_append_left (List.getElem?_eq_some_iff.mp hw).1, hw], hs, hp⟩
    · intro i w hw hp
      refine .inl ?_
      rcases getElem?_concat_cases hw with hw | ⟨rfl, rfl⟩
      · have serves := (P.serves i w hw hp).resolve_right (Option.some_ne_none _).symm
        have ne : stream ≠ w.stream := by
          rintro rfl
          rw [free] at serves
          cases serves
        rw [StreamTable.get_set_of_ne _ ne]
        exact serves
      · exact StreamTable.get_set_self _ _ _
    · intro r
      have empty := P.empty r
      simp only [StreamTable.modify, StreamTable.get_set]
      split
      · next e => exact e ▸ empty
      · exact empty
    · intro r ho
      simp only [StreamTable.modify, StreamTable.get_set]
      split
      · rfl
      · next ne =>
        simp only [isOpen, StreamTable.get_set_of_ne _ ne] at ho
        exact P.roomy r ho
    · intro i w hw
      rcases getElem?_concat_cases hw with hw | ⟨rfl, rfl⟩
      · exact P.idle i w hw
      · exact .inl rfl

theorem Poised.closeTake (P : a.Poised none) {stream : StreamId} {worker : WorkerId}
    (h : a.serving.get stream = some worker) :
    Poised { a with serving := a.serving.set stream none } (some worker) := by
  refine ⟨⟨P.numbered, ?_, ?_⟩, P.empty, ?_, P.idle⟩
  · intro r i hi
    simp only [StreamTable.get_set] at hi
    split at hi
    · cases hi
    · exact P.served r i hi
  · intro i w hw hp
    have serves := (P.serves i w hw hp).resolve_right (Option.some_ne_none _).symm
    by_cases hs : stream = w.stream
    · rw [← hs, h] at serves
      exact .inr serves
    · exact .inl (by rw [StreamTable.get_set_of_ne _ hs]; exact serves)
  · intro r ho
    simp only [isOpen, StreamTable.get_set] at ho
    split at ho
    · cases ho
    · exact P.roomy r ho

theorem Poised.closeSlot (P : a.Poised leaving) {stream : StreamId}
    (h : a.serving.get stream = none) :
    Poised { a with slots := a.slots.modify stream Slot.close } leaving := by
  refine ⟨⟨P.numbered, P.served, P.serves⟩, ?_, ?_, P.idle⟩
  · intro r
    simp only [StreamTable.modify, StreamTable.get_set]
    split
    · rfl
    · exact P.empty r
  · intro r ho
    have ne : stream ≠ r := by
      rintro rfl
      simp [isOpen, h] at ho
    simp only [StreamTable.modify, StreamTable.get_set_of_ne _ ne]
    exact P.roomy r ho

theorem worker?_eq (H : ∀ (i : Nat) w, a.workers[i]? = some w → w.id = i) {i : WorkerId}
    {w : Worker} (hw : a.workers[i]? = some w) : a.worker? i = some w := by
  unfold worker?
  cases found : a.workers.find? (·.id == i) with
  | none =>
    have := List.find?_eq_none.mp found w (List.mem_of_getElem? hw)
    simp [H i w hw] at this
  | some v =>
    obtain ⟨j, hv⟩ := List.getElem?_of_mem (List.mem_of_find?_eq_some found)
    have id : v.id = i := by simpa using List.find?_some found
    have same : j = i := (H j v hv).symm.trans id
    rw [← hw, ← same, hv]

theorem hasStopped_iff (H : ∀ (i : Nat) w, a.workers[i]? = some w → w.id = i) {i : WorkerId}
    {w : Worker} (hw : a.workers[i]? = some w) : a.hasStopped i = true ↔ w.phase = .stopped := by
  simp only [hasStopped, worker?_eq H hw, beq_iff_eq]

theorem Poised.left {i : WorkerId} (P : a.Poised (some i)) (h : a.hasStopped i = true) :
    a.Poised none := by
  refine ⟨⟨P.numbered, P.served, fun j w hw hp => ?_⟩, P.empty, P.roomy, P.idle⟩
  rcases P.serves j w hw hp with serves | hl
  · exact .inl serves
  · cases hl
    exact absurd ((hasStopped_iff P.numbered hw).mp h) hp

theorem Poised.stop (P : a.Poised leaving) {i : Nat} {w : Worker} (hw : a.workers[i]? = some w)
    (waits : w.phase = .waiting) (h : a.takeUp w = some b) :
    b = a.setPhase i .stopped ∧ b.Poised leaving := by
  have none_waits : ∀ body, (a.slots.get w.stream).item ≠ some body := by simp [P.empty]
  rcases takeUp_cases h fun body hb => absurd hb (none_waits body) with
    ⟨_, -, hb, -⟩ | ⟨-, closed, rfl⟩
  · exact absurd hb (none_waits _)
  · rw [P.numbered i w hw]
    refine ⟨rfl, P.toStaffed.setPhase hw (by simp [waits]) ?_, P.empty, P.roomy, ?_⟩
    · intro _ stream hs
      obtain ⟨v, hv, rfl, -⟩ := P.served stream i hs
      rw [hw, Option.some.injEq] at hv
      rw [hv, P.roomy _ (isOpen_of_serving hs)] at closed
      cases closed
    · intro j u hu
      rw [getElem?_setPhase P.numbered, Option.map_eq_some_iff] at hu
      obtain ⟨v, hv, rfl⟩ := hu
      split
      · exact .inr rfl
      · exact P.idle j v hv

/-! ## Calls -/

/-- Streams may have been opened and closed; the rest of the agent is as it was. -/
def SameApart (a b : Agent L) : Prop :=
  ∃ serving slots workers,
    b = { a with serving := serving, slots := slots, workers := workers }

theorem SameApart.trans {c : Agent L} (h : SameApart a b) (h' : SameApart b c) :
    SameApart a c := by
  obtain ⟨_, _, _, rfl⟩ := h
  obtain ⟨_, _, _, rfl⟩ := h'
  exact ⟨_, _, _, rfl⟩

section
variable [Datalink L]

/-- Where a step leaves a call that opens or closes a stream. -/
def Call.Leaves (b : Agent L) : Call.Result → Prop
  | .done _ => b.Poised none
  | .next call => ∃ leaving, call.Stage b leaving ∧ b.Poised leaving
  | .blocked => True

theorem Call.Stage.step {call : Call} (S : call.Stage a leaving) (P : a.Poised leaving) :
    SameApart a (call.step a none).1 ∧
      Call.Leaves (call.step a none).1 (call.step a none).2 := by
  have same : SameApart a a := ⟨_, _, _, rfl⟩
  cases S with
  | openFind =>
    simp only [Call.step]
    split
    · next stream _ => exact ⟨same, none, .openStart stream, P⟩
    · exact ⟨same, P⟩
  | openStart stream =>
    simp only [Call.step]
    split
    · next a' h =>
      refine ⟨?_, P.startWorker h⟩
      unfold Agent.startWorker at h
      split at h
      · cases h
      · cases h
        exact ⟨_, _, _, rfl⟩
    · exact ⟨same, P⟩
  | closeTake stream =>
    simp only [Call.step]
    split
    · exact ⟨same, P⟩
    · split
      · next worker hserving =>
        exact ⟨⟨_, _, _, rfl⟩, some worker, .closeSlot (StreamTable.get_set_self _ _ _),
          P.closeTake hserving⟩
      · exact ⟨same, P⟩
  | @closeSlot stream worker hserving =>
    exact ⟨⟨_, _, _, rfl⟩, some worker, .join worker, P.closeSlot hserving⟩
  | join worker =>
    simp only [Call.step, List.all_cons, List.all_nil, Bool.and_true]
    split
    · next h => exact ⟨same, P.left (by simpa using h)⟩
    · exact ⟨same, trivial⟩

theorem Completes.poised {call : Call} (C : Completes a call b) (S : call.Stage a leaving)
    (P : a.Poised leaving) : SameApart a b ∧ b.Poised none := by
  induction C generalizing leaving with
  | done step =>
    have H := S.step P
    rwa [step] at H
  | next step rest ih =>
    have H := S.step P
    rw [step] at H
    obtain ⟨same, leaving', S', P'⟩ := H
    obtain ⟨same', poised⟩ := ih S' P'
    exact ⟨same.trans same', poised⟩
  | stop worker waits step rest ih =>
    obtain ⟨rfl, P'⟩ := P.stop worker waits step
    have S' : ∀ {a : Agent L} {call i}, Call.Stage a call leaving →
        Call.Stage (a.setPhase i .stopped) call leaving := by
      intro a call i S
      cases S with
      | openFind => exact .openFind
      | openStart stream => exact .openStart stream
      | closeTake stream => exact .closeTake stream
      | closeSlot h => exact .closeSlot h
      | join i => exact .join i
    obtain ⟨same, poised⟩ := ih (S' S) P'
    exact ⟨SameApart.trans ⟨_, _, _, rfl⟩ same, poised⟩

omit [Datalink L] in
theorem Call.Stage.errand (a : Agent L) (errand : Errand) : errand.call.Stage a none := by
  cases errand with
  | openStream => exact .openFind
  | closeStream stream => exact .closeTake stream

omit [Datalink L] in
theorem poised_fresh (link : L) (config : AgentConfig) : (fresh link config).Poised none := by
  have only : ∀ (i : Nat) w, (fresh link config).workers[i]? = some w →
      i = 0 ∧ w = ⟨0, StreamId.control, .waiting⟩ := by
    intro i w hw
    rcases getElem?_concat_cases (l := []) hw with hw | hw
    · cases hw
    · exact hw
  refine ⟨⟨?_, ?_, ?_⟩, fun _ => ?_, fun _ _ => ?_, ?_⟩
  · intro i w hw
    obtain ⟨rfl, rfl⟩ := only i w hw
    rfl
  · intro stream i hi
    simp only [fresh, StreamTable.get_set, StreamTable.get_fill] at hi
    split at hi
    · next e =>
      cases hi
      exact ⟨⟨0, StreamId.control, .waiting⟩, rfl, e, by simp⟩
    · cases hi
  · intro i w hw _
    obtain ⟨rfl, rfl⟩ := only i w hw
    exact .inl (StreamTable.get_set_self _ _ _)
  · simp [fresh, Slot.empty]
  · simp [fresh, Slot.empty]
  · intro i w hw
    obtain ⟨rfl, rfl⟩ := only i w hw
    exact .inl rfl

end

variable [FrameLink L]

theorem start_eq (link : L) (config : AgentConfig) :
    ∃ link' outbound sent, (start link config).2 =
      { fresh link config with
        link := link', outbound := outbound
        stats := { (fresh link config).stats with sent := sent } } := by
  unfold start
  simp only
  split
  · exact (fresh link config).sendPayload_eq .agentStart StreamId.control []
  · exact ⟨_, _, _, rfl⟩

/-- Whatever its owner has opened and closed, a prepared agent is ready for its first frame. -/
theorem Prepared.poised {link : L} {config : AgentConfig} (H : Prepared link config a) :
    SameApart (Agent.start link config).2 a ∧ a.Poised none := by
  induction H with
  | start =>
    refine ⟨⟨_, _, _, rfl⟩, ?_⟩
    obtain ⟨link', outbound, sent, h⟩ := start_eq link config
    rw [h]
    exact (poised_fresh link config).congr rfl rfl rfl
  | call before errand completes ih =>
    obtain ⟨same, poised⟩ := completes.poised (.errand _ errand) ih.2
    exact ⟨ih.1.trans same, poised⟩

end Agent
end CommandLink
