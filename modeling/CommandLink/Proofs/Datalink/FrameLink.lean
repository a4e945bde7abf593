import CommandLink.Proofs.Datalink.SerialFifo
import CommandLink.Proofs.Wire.Post

/-! # Links as queues of frames

What the proofs about endpoints ask of a datalink: that it keeps the frames it has taken, in order,
and that a failed transmit leaves no trace among them. A link that is ready promises moreover that
it takes every frame of a permitted length, and stays ready. Both ends of a pair of serial links see
each other so (`PacketLink`); `ScriptedLink` fails when it is told to. -/

namespace CommandLink

/-- A datalink with a record of the frames that it has taken. -/
class FrameLink (L : Type) extends Datalink L where
  taken : L → List Octets
  /-- The link takes frames from now on. -/
  Ready : L → Prop
  /-- The room that the link itself needs in front of a frame. -/
  overhead : Nat
  data_reserve {l : L} {header payload : Nat} {b : Buffer} :
    Datalink.reserve l header payload = some b → b.data = []
  taken_of_ok {l l' : L} {b : Buffer} {n : Nat} :
    Datalink.transmit l b = (.ok n, l') → taken l' = taken l ++ [b.data]
  taken_of_error {l l' : L} {b : Buffer} {e : LinkError} :
    Datalink.transmit l b = (.error e, l') → taken l' = taken l
  reserve_of_ready {l : L} : Ready l → ∀ header payload : Nat,
    ∃ b, Datalink.reserve l header payload = some b ∧ header + overhead ≤ b.start
  transmit_of_ready {l : L} {b : Buffer} : Ready l → b.data.length ≤ Frame.maxSize →
    overhead ≤ b.start → ∃ n l', Datalink.transmit l b = (.ok n, l') ∧ Ready l'

/-- The link takes no frame any more, and trying does nothing to it. -/
def Datalink.Deaf {L : Type} [Datalink L] (l : L) : Prop :=
  ∀ b, ∃ e, Datalink.transmit l b = (.error e, l)

/-- Stopping a link sends nothing. -/
def FrameLink.StopsQuietly (L : Type) [FrameLink L] : Prop :=
  ∀ l : L, FrameLink.taken (Datalink.stop l) = FrameLink.taken l

/-! ## The serial link -/

/-- A serial link with the frames whose packets are on its byte stream. By
`SerialLink.receiveAll_postAll` the peer receives these frames. -/
structure PacketLink where
  link : SerialLink
  frames : List Octets
  written_eq : link.written = frames.flatMap (SerialLink.wire link.config)

namespace PacketLink

/-- A link before its first packet. -/
def ofConfig (config : SerialLink.Config) : PacketLink := ⟨SerialLink.ofConfig config, [], rfl⟩

theorem written_transmit {l : SerialLink} {frames : List Octets} {b : Buffer} {n : Nat}
    (hw : l.written = frames.flatMap (SerialLink.wire l.config)) (h : (l.transmit b).1 = .ok n) :
    (l.transmit b).2.written =
      (frames ++ [b.data]).flatMap (SerialLink.wire (l.transmit b).2.config) := by
  rcases l.transmit_cases b with ⟨e, he⟩ | ho
  · rw [he] at h
    cases h
  · rw [ho]
    simp [hw]

def transmit (l : PacketLink) (b : Buffer) : Except LinkError Nat × PacketLink :=
  match h : (l.link.transmit b).1 with
  | .ok n => (.ok n, ⟨(l.link.transmit b).2, l.frames ++ [b.data],
      written_transmit l.written_eq h⟩)
  | .error e => (.error e, l)

instance : Datalink PacketLink where
  reserve l := l.link.reserve
  transmit := transmit
  stop l := ⟨l.link.stop, l.frames, l.written_eq⟩

/-- The link takes every frame that an endpoint can send. -/
structure Ready (l : PacketLink) : Prop where
  running : l.link.running = true
  unbroken : l.link.broken = none
  maxFrame : Frame.maxSize ≤ l.link.config.maxFrame

theorem transmit_of_ok {l l' : PacketLink} {b : Buffer} {n : Nat}
    (h : l.transmit b = (.ok n, l')) : l'.frames = l.frames ++ [b.data] := by
  unfold transmit at h
  split at h
  · cases h
    rfl
  · cases h

theorem transmit_of_error {l l' : PacketLink} {b : Buffer} {e : LinkError}
    (h : l.transmit b = (.error e, l')) : l' = l := by
  unfold transmit at h
  split at h
  · cases h
  · cases h
    rfl

theorem Ready.transmit {l : PacketLink} (H : l.Ready) {b : Buffer}
    (hb : b.data.length ≤ Frame.maxSize) (hs : Packet.maxOverhead ≤ b.start) :
    ∃ n l', l.transmit b = (.ok n, l') ∧ l'.Ready := by
  have ok := SerialLink.transmit_ok H.running H.unbroken (Nat.le_trans hb H.maxFrame) hs
  unfold PacketLink.transmit
  split
  · exact ⟨_, _, rfl, by constructor <;> simp [ok, H.running, H.unbroken, H.maxFrame]⟩
  · next e he =>
    rw [ok] at he
    cases he

/-- A link that is stopped takes nothing. -/
theorem deaf_stop (l : PacketLink) : Datalink.Deaf (Datalink.stop l) := by
  intro b
  refine ⟨.shutdown, ?_⟩
  show transmit _ b = _
  unfold transmit
  split
  · next n h => cases h
  · next e h =>
    cases h
    rfl

instance : FrameLink PacketLink where
  taken := frames
  Ready := Ready
  overhead := Packet.maxOverhead
  data_reserve h := by
    cases h
    exact Buffer.data_alloc _ _
  taken_of_ok := transmit_of_ok
  taken_of_error h := congrArg frames (transmit_of_error h)
  reserve_of_ready _ _ _ := ⟨_, rfl, Nat.le_refl _⟩
  transmit_of_ready H := H.transmit

theorem stopsQuietly : FrameLink.StopsQuietly PacketLink := fun _ => rfl

end PacketLink

/-! ## A link that fails on demand -/

/-- A link in memory. Each transmit takes the first entry of the script: `true` lets it fail. Behind
the end of the script nothing fails. -/
structure ScriptedLink where
  script : List Bool
  frames : List Octets

namespace ScriptedLink

def transmit (l : ScriptedLink) (b : Buffer) : Except LinkError Nat × ScriptedLink :=
  match l.script with
  | true :: rest => (.error .disconnected, { l with script := rest })
  | fails => (.ok b.data.length, ⟨fails.tail, l.frames ++ [b.data]⟩)

instance : Datalink ScriptedLink where
  reserve _ header payload := some (Buffer.alloc header payload)
  transmit := transmit
  stop l := l

instance : FrameLink ScriptedLink where
  taken := frames
  Ready l := l.script = []
  overhead := 0
  data_reserve h := by
    cases h
    exact Buffer.data_alloc _ _
  taken_of_ok {l l' b n} h := by
    simp only [Datalink.transmit, transmit] at h
    split at h
    · cases h
    · cases h
      rfl
  taken_of_error {l l' b e} h := by
    simp only [Datalink.transmit, transmit] at h
    split at h
    · cases h
      rfl
    · cases h
  reserve_of_ready _ _ _ := ⟨_, rfl, Nat.le_refl _⟩
  transmit_of_ready {l b} h _ _ := ⟨b.data.length, ⟨[], l.frames ++ [b.data]⟩, by
    simp [Datalink.transmit, transmit, h], rfl⟩

end ScriptedLink
end CommandLink
