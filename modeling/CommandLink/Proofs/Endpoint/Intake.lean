import CommandLink.Endpoint.Slot
import CommandLink.Proofs.Endpoint.Ear
import CommandLink.Proofs.Endpoint.Lists
import CommandLink.Proofs.Wire.Passage

/-! # The receive path of an endpoint, with its slots drained

Both ends of a link take in a frame, act upon it at once or hold its payload until the slot of its
stream has room, and only then turn to the next frame. `ReceivePath` is what they have in common.
`Intake` is an endpoint with those who empty its slots: `Intake.act` is one step of either, in
whatever order. What was taken from the slot of a stream, what is in it, and what is on its way into
it are together what the endpoint has held for that stream, in order (`Intake.reached`). A run of
such steps ends, and where it cannot go on, nothing is left to be heard, passed on or taken
(`Intake.rests`). -/

namespace CommandLink

/-! ## Ears for frames that are not exempt -/

/-- Takes in a frame that the receiver does not exempt, and passes it on if need be. -/
def Ear.absorb (e : Ear) (seq : SeqNum) : Ear :=
  { e with
    inbound := e.inbound.record seq
    received := e.received + 1
    repeats := if e.inbound.isRepeat seq then e.repeats + 1 else e.repeats
    gaps := if e.inbound.isRepeat seq then e.gaps
      else if e.inbound.isGap seq then e.gaps + 1 else e.gaps }

namespace Reception

/-- What has become of the ear `e` after `n` frames. -/
def ear (r : Reception) (e : Ear) (n : Nat) : Ear :=
  { e with
    inbound := r.inbound
    received := e.received + n, repeats := e.repeats + r.repeats, gaps := e.gaps + r.gaps }

theorem ear_hear (r : Reception) (f : SoundFrame) (e : Ear) (n : Nat) :
    (r.hear f).ear e (n + 1) = (r.ear e n).absorb f.seq := by
  by_cases again : r.inbound.isRepeat f.seq = true
  · simp [hear, ear, Ear.absorb, again, Nat.add_assoc]
  · by_cases gap : r.inbound.isGap f.seq = true <;>
      simp [hear, ear, Ear.absorb, again, gap, Nat.add_assoc]

theorem kept_hear (r : Reception) (f : SoundFrame) :
    (r.hear f).kept = if r.inbound.isRepeat f.seq then r.kept else r.kept ++ [f] := by
  unfold hear
  split <;> rfl

end Reception

/-! ## Receive paths -/

/-- An endpoint that receives. -/
class ReceivePath (E : Type) where
  slots : E → StreamTable (Slot Octets)
  setSlots : E → StreamTable (Slot Octets) → E
  /-- What is on its way into a slot. -/
  pending : E → Option (StreamId × Octets)
  receive : E → Octets → E
  /-- Passes on what is pending, if it can. -/
  deliver : E → Option E
  slots_setSlots (e : E) (slots' : StreamTable (Slot Octets)) : slots (setSlots e slots') = slots'
  pending_setSlots (e : E) (slots' : StreamTable (Slot Octets)) :
    pending (setSlots e slots') = pending e
  slots_receive (e : E) (octets : Octets) : slots (receive e octets) = slots e
  deliver_cases {e e' : E} : deliver e = some e' → ∃ stream body,
    pending e = some (stream, body) ∧ pending e' = none ∧
      (((slots e).get stream).closed = true ∧ slots e' = slots e ∨
        ((slots e).get stream).closed = false ∧ ((slots e).get stream).item = none ∧
          slots e' = (slots e).set stream { (slots e).get stream with item := some body })
  deliver_of_room {e : E} {stream : StreamId} {body : Octets} :
    pending e = some (stream, body) → ((slots e).get stream).item = none →
      ∃ e', deliver e = some e'

structure Intake (E : Type) where
  endpoint : E
  heard : Nat
  /-- What was taken from the slots, in order. -/
  drained : List (StreamId × Octets)

namespace Intake

inductive Move
  /-- The receive path takes the next frame. -/
  | hear
  /-- The receive path passes on what it holds. -/
  | pass
  /-- Someone takes what is in the slot of a stream. -/
  | drain (stream : StreamId)

variable {E : Type}

/-- An endpoint of which nothing has been asked yet. -/
def ofEndpoint (e : E) : Intake E := ⟨e, 0, []⟩

variable [ReceivePath E]

open ReceivePath

/-- One step, when the frames `arrivals` arrive. -/
def act (arrivals : List Octets) (d : Intake E) : Move → Option (Intake E)
  | .hear =>
    if (pending d.endpoint).isSome then none
    else
      (arrivals[d.heard]?).map fun octets =>
        { d with endpoint := receive d.endpoint octets, heard := d.heard + 1 }
  | .pass => (deliver d.endpoint).map fun e => { d with endpoint := e }
  | .drain stream =>
    let slot := (slots d.endpoint).get stream
    match slot.pop slot.cancels with
    | .taken body slot' =>
      some { d with
        endpoint := setSlots d.endpoint ((slots d.endpoint).set stream slot')
        drained := d.drained ++ [(stream, body)] }
    | _ => none

/-- Takes steps one after the other, if each of them can be taken. -/
def perform (arrivals : List Octets) (d : Intake E) (moves : List Move) : Option (Intake E) :=
  moves.foldlM (act arrivals) d

variable {arrivals : List Octets} {d d' : Intake E}

theorem act_hear (h : d.act arrivals .hear = some d') :
    ∃ octets, arrivals[d.heard]? = some octets ∧ pending d.endpoint = none ∧
      d' = { d with endpoint := receive d.endpoint octets, heard := d.heard + 1 } := by
  simp only [act] at h
  split at h
  · cases h
  · next free =>
    obtain ⟨octets, hnext, rfl⟩ := Option.map_eq_some_iff.mp h
    exact ⟨octets, hnext, by simpa using free, rfl⟩

theorem act_drain {stream : StreamId} (h : d.act arrivals (.drain stream) = some d') :
    ∃ body, ((slots d.endpoint).get stream).item = some body ∧
      d' = { d with
        endpoint := setSlots d.endpoint ((slots d.endpoint).set stream
          { (slots d.endpoint).get stream with item := none })
        drained := d.drained ++ [(stream, body)] } := by
  simp only [act, Slot.pop] at h
  cases hi : ((slots d.endpoint).get stream).item with
  | some body =>
    rw [hi] at h
    cases h
    exact ⟨body, rfl, rfl⟩
  | none =>
    rw [hi] at h
    simp only at h
    split at h
    · next hpop =>
      split at hpop
      · cases hpop
      · split at hpop <;> cases hpop
    · cases h

/-! ## Nothing is lost on the way into a slot -/

/-- What a list of items on streams holds for one of them. -/
def on (stream : StreamId) (items : List (StreamId × Octets)) : List Octets :=
  items.filterMap fun item => if item.1 = stream then some item.2 else none

/-- What has been held for a stream and taken from its slot or not. -/
def reached (d : Intake E) (stream : StreamId) : List Octets :=
  on stream d.drained ++ ((slots d.endpoint).get stream).item.toList ++
    on stream (pending d.endpoint).toList

/-- No step opens or closes a slot. -/
theorem closed_act {move : Move} (h : d.act arrivals move = some d') (stream : StreamId) :
    ((slots d'.endpoint).get stream).closed = ((slots d.endpoint).get stream).closed := by
  have set : ∀ (s : StreamId) (item : Option Octets), (((slots d.endpoint).set s
      { (slots d.endpoint).get s with item := item }).get stream).closed =
        ((slots d.endpoint).get stream).closed := by
    intro s item
    by_cases hs : s = stream
    · subst hs
      simp
    · rw [StreamTable.get_set_of_ne _ hs]
  cases move with
  | hear =>
    obtain ⟨octets, -, -, rfl⟩ := act_hear h
    rw [slots_receive]
  | pass =>
    obtain ⟨e, he, rfl⟩ := Option.map_eq_some_iff.mp h
    obtain ⟨s, body, -, -, ⟨-, hs⟩ | ⟨-, -, hs⟩⟩ := deliver_cases he
    · rw [hs]
    · rw [hs, set s (some body)]
  | drain s =>
    obtain ⟨body, -, rfl⟩ := act_drain h
    rw [slots_setSlots, set s none]

/-- What is held for a stream comes behind what has been held for it before. -/
theorem reached_hear (h : d.act arrivals .hear = some d') (stream : StreamId) :
    d'.reached stream = d.reached stream ++ on stream (pending d'.endpoint).toList := by
  obtain ⟨octets, -, free, rfl⟩ := act_hear h
  simp [reached, slots_receive, free, on]

/-- What is held for an open slot gets into it, and what is in it is taken. -/
theorem reached_act {move : Move} (h : d.act arrivals move = some d') (hm : move ≠ .hear)
    {stream : StreamId} (ho : ((slots d.endpoint).get stream).closed = false) :
    d'.reached stream = d.reached stream := by
  cases move with
  | hear => exact absurd rfl hm
  | pass =>
    obtain ⟨e, he, rfl⟩ := Option.map_eq_some_iff.mp h
    obtain ⟨s, body, hp, free, ⟨hc, hs⟩ | ⟨hc, hi, hs⟩⟩ := deliver_cases he
    · have other : s ≠ stream := by
        rintro rfl
        rw [ho] at hc
        cases hc
      simp [reached, hs, hp, free, on, other]
    · by_cases hstream : s = stream
      · subst hstream
        simp [reached, hs, hp, free, on, hi]
      · simp [reached, hs, hp, free, on, hstream, StreamTable.get_set_of_ne _ hstream]
  | drain s =>
    obtain ⟨body, hi, rfl⟩ := act_drain h
    by_cases hstream : s = stream
    · subst hstream
      simp [reached, slots_setSlots, pending_setSlots, hi, on]
    · simp [reached, slots_setSlots, pending_setSlots, on, hstream,
        StreamTable.get_set_of_ne _ hstream]

/-! ## Runs -/

/-- What each frame that is heard and every other step preserve holds of the frames heard. -/
theorem takes {T : List SoundFrame → Intake E → Prop} {fs : List SoundFrame} {e : E}
    (hear : ∀ {heard f d d'}, f ∈ fs → T heard d →
      (fs.map SoundFrame.octets)[d.heard]? = some f.octets →
      d.act (fs.map SoundFrame.octets) .hear = some d' → T (heard ++ [f]) d')
    (move : ∀ {heard d d' move}, move ≠ .hear → T heard d →
      d.act (fs.map SoundFrame.octets) move = some d' → T heard d')
    (start : T [] (ofEndpoint e)) {moves : List Move}
    (run : (ofEndpoint e).perform (fs.map SoundFrame.octets) moves = some d) :
    T (fs.take d.heard) d := by
  refine foldlM_preserves (I := fun d => T (fs.take d.heard) d) ?_ run (by exact start)
  intro d m d' here h
  cases m with
  | hear =>
    obtain ⟨octets, next, -, e⟩ := act_hear h
    obtain ⟨f, hf, rfl⟩ := Option.map_eq_some_iff.mp ((List.getElem?_map ..).symm.trans next)
    rw [show d'.heard = d.heard + 1 by rw [e], take_succ_of_getElem? hf]
    exact hear (List.mem_of_getElem? hf) here next h
  | pass =>
    have same : d'.heard = d.heard := by
      obtain ⟨_, -, rfl⟩ := Option.map_eq_some_iff.mp h
      rfl
    exact same ▸ move (by exact nofun) here h
  | drain stream =>
    have same : d'.heard = d.heard := by
      obtain ⟨_, -, rfl⟩ := act_drain h
      rfl
    exact same ▸ move (by exact nofun) here h

/-! ## Runs end -/

/-- The steps that are left. -/
def effort (arrivals : List Octets) (d : Intake E) : Nat :=
  3 * (arrivals.length - d.heard) + 2 * (pending d.endpoint).toList.length +
    (slots d.endpoint).total (·.item.toList.length)

theorem effort_act {move : Move} (h : d.act arrivals move = some d') :
    d'.effort arrivals < d.effort arrivals := by
  cases move with
  | hear =>
    obtain ⟨octets, hnext, free, rfl⟩ := act_hear h
    have more := lt_length_of_getElem? hnext
    have held : (pending (receive d.endpoint octets)).toList.length ≤ 1 := Option.length_toList_le
    simp only [effort, slots_receive, free, Option.toList_none, List.length_nil]
    omega
  | pass =>
    obtain ⟨e, he, rfl⟩ := Option.map_eq_some_iff.mp h
    obtain ⟨s, body, hp, free, ⟨-, hs⟩ | ⟨-, hi, hs⟩⟩ := deliver_cases he
    · simp [effort, hs, hp, free]
    · have sum := StreamTable.total_set (fun slot : Slot Octets => slot.item.toList.length)
        (slots d.endpoint) s { (slots d.endpoint).get s with item := some body }
      simp only [hi, Option.toList_none, List.length_nil, Option.toList_some,
        List.length_singleton] at sum
      simp only [effort, hs, hp, free, Option.toList_none, List.length_nil, Option.toList_some,
        List.length_singleton]
      omega
  | drain s =>
    obtain ⟨body, hi, rfl⟩ := act_drain h
    have sum := StreamTable.total_set (fun slot : Slot Octets => slot.item.toList.length)
      (slots d.endpoint) s { (slots d.endpoint).get s with item := none }
    simp only [hi, Option.toList_none, List.length_nil, Option.toList_some,
      List.length_singleton] at sum
    simp only [effort, slots_setSlots, pending_setSlots]
    omega

/-- A run has no more steps than are left at its start. -/
theorem length_le_of_perform {moves : List Move} (run : d.perform arrivals moves = some d') :
    moves.length ≤ d.effort arrivals := by
  have bound := foldlM_measure (I := fun _ => True) (m := effort arrivals)
    (fun _ h => ⟨trivial, effort_act h⟩) run trivial
  omega

/-- Where no step can be taken, nothing is left. -/
theorem rests (h : ∀ move, d.act arrivals move = none) :
    pending d.endpoint = none ∧ arrivals.length ≤ d.heard ∧
      ∀ stream, ((slots d.endpoint).get stream).item = none := by
  have empty : ∀ stream, ((slots d.endpoint).get stream).item = none := by
    intro stream
    have stuck := h (.drain stream)
    cases hi : ((slots d.endpoint).get stream).item with
    | none => rfl
    | some body => simp [act, Slot.pop, hi] at stuck
  have free : pending d.endpoint = none := by
    cases hp : pending d.endpoint with
    | none => rfl
    | some item =>
      obtain ⟨stream, body⟩ := item
      obtain ⟨e, he⟩ := deliver_of_room hp (empty stream)
      have stuck := h .pass
      simp [act, he] at stuck
  have stuck := h .hear
  simp only [act, free, Option.isSome_none, Bool.false_eq_true, if_false, Option.map_eq_none_iff,
    List.getElem?_eq_none_iff] at stuck
  exact ⟨free, stuck, empty⟩

end Intake
end CommandLink
