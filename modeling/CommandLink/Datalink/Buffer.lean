import CommandLink.Datalink.Error

/-! # Packet buffers and the links that take them

A buffer is a region of data inside its storage, with free room on either side. Layers on the way
out put their headers into the room in front; layers on the way in strip theirs. Seen from outside
a buffer is three things: the free room in front, the data, and the free room behind. Each
operation comes with a lemma for each of the three. A `Datalink` provides buffers and sends them. -/

namespace CommandLink

structure Buffer where
  storage : Octets
  start : Nat
  stop : Nat
  start_le_stop : start ≤ stop
  stop_le_length : stop ≤ storage.length

namespace Buffer

/-- The data of a buffer. -/
def data (b : Buffer) : Octets := (b.storage.take b.stop).drop b.start

/-- Octets that can still be put in front. -/
def roomAtStart (b : Buffer) : Nat := b.start

/-- Octets that can be appended before the storage grows. -/
def roomAtEnd (b : Buffer) : Nat := b.storage.length - b.stop

/-- No data, with room for a header in front and for `capacity` octets behind it. -/
def alloc (headroom capacity : Nat) : Buffer where
  storage := List.replicate (headroom + capacity) 0
  start := headroom
  stop := headroom
  start_le_stop := Nat.le_refl _
  stop_le_length := by simp

/-- The given data, without room on either side. -/
def ofOctets (octets : Octets) : Buffer where
  storage := octets
  start := 0
  stop := octets.length
  start_le_stop := Nat.zero_le _
  stop_le_length := Nat.le_refl _

/-- Data behind the data. The storage grows if the room behind is too small. -/
def append (b : Buffer) (octets : Octets) : Buffer where
  storage := b.storage.take b.stop ++ octets ++ b.storage.drop (b.stop + octets.length)
  start := b.start
  stop := b.stop + octets.length
  start_le_stop := Nat.le_add_right_of_le b.start_le_stop
  stop_le_length := by
    have := b.stop_le_length
    simp only [List.length_append, List.length_take, List.length_drop]
    omega

/-- Data in front of the data. The room in front has to hold it. -/
def prepend (b : Buffer) (octets : Octets) : Except LinkError Buffer :=
  if h : octets.length ≤ b.start then
    .ok {
      storage := b.storage.take (b.start - octets.length) ++ octets ++ b.storage.drop b.start
      start := b.start - octets.length
      stop := b.stop
      start_le_stop := Nat.le_trans (Nat.sub_le _ _) b.start_le_stop
      stop_le_length := by
        have := b.start_le_stop
        have := b.stop_le_length
        simp only [List.length_append, List.length_take, List.length_drop]
        omega }
  else .error (.insufficientHeadroom octets.length b.start)

/-- Cuts `n` octets off the front, if the data is that long. -/
def removeStart (b : Buffer) (n : Nat) : Option (Octets × Buffer) :=
  if h : n ≤ b.stop - b.start then
    some (b.data.take n, {
      storage := b.storage
      start := b.start + n
      stop := b.stop
      start_le_stop := by have := b.start_le_stop; omega
      stop_le_length := b.stop_le_length })
  else none

/-- Cuts `n` octets off the back, if the data is that long. -/
def removeEnd (b : Buffer) (n : Nat) : Option (Octets × Buffer) :=
  if h : n ≤ b.stop - b.start then
    some (b.data.drop (b.stop - b.start - n), {
      storage := b.storage
      start := b.start
      stop := b.stop - n
      start_le_stop := by have := b.start_le_stop; omega
      stop_le_length := Nat.le_trans (Nat.sub_le _ _) b.stop_le_length })
  else none

/-- Keeps at most `n` octets of the data. -/
def truncate (b : Buffer) (n : Nat) : Buffer :=
  if h : n < b.stop - b.start then {
    storage := b.storage
    start := b.start
    stop := b.start + n
    start_le_stop := Nat.le_add_right _ _
    stop_le_length := by have := b.stop_le_length; omega }
  else b

/-- A buffer described by its room in front and its length. -/
def debugText (b : Buffer) : String :=
  "Mmbuf \x7b headroom: " ++ toString b.start ++ ", len: " ++ toString b.data.length ++ " \x7d"

@[simp] theorem length_data (b : Buffer) : b.data.length = b.stop - b.start := by
  have := b.stop_le_length
  simp [data]
  omega

@[simp] theorem data_alloc (headroom capacity : Nat) : (alloc headroom capacity).data = [] := by
  simp [data, alloc]

@[simp] theorem data_ofOctets (octets : Octets) : (ofOctets octets).data = octets := by
  simp [data, ofOctets]

@[simp] theorem data_append (b : Buffer) (octets : Octets) :
    (b.append octets).data = b.data ++ octets := by
  have h₁ := b.start_le_stop
  have h₂ := b.stop_le_length
  have hl : (b.storage.take b.stop ++ octets).length = b.stop + octets.length := by simp; omega
  simp only [data, append]
  rw [List.take_left' hl, List.drop_append_of_le_length (by simp; omega)]

theorem data_prepend {b b' : Buffer} {octets : Octets} (h : b.prepend octets = .ok b') :
    b'.data = octets ++ b.data ∧ b'.start + octets.length = b.start ∧
      b'.roomAtEnd = b.roomAtEnd := by
  have h₁ := b.start_le_stop
  have h₂ := b.stop_le_length
  unfold prepend at h
  split at h
  · next hle =>
    cases h
    refine ⟨?_, by simp only; omega, ?_⟩
    · have hl : (b.storage.take (b.start - octets.length)).length = b.start - octets.length := by
        simp
        omega
      have ht : octets.take (b.stop - (b.start - octets.length)) = octets :=
        List.take_of_length_le (by omega)
      have hn : b.stop - (b.start - octets.length) - octets.length = b.stop - b.start := by omega
      simp only [data, List.append_assoc, List.drop_take]
      rw [List.drop_left' hl, List.take_append, ht, hn]
    · simp [roomAtEnd]
      omega
  · cases h

end Buffer

/-! ## What an endpoint asks of its datalink -/

/-- The operations of a datalink. A link is a value: transmitting and stopping return the link as
they leave it. -/
class Datalink (L : Type) where
  /-- A buffer with room for a header in front and a payload behind it. -/
  reserve : L → (header payload : Nat) → Option Buffer
  /-- Sends the data of a buffer. The result counts the octets handed to the transport. -/
  transmit : L → Buffer → Except LinkError Nat × L
  /-- Ends reception for good. -/
  stop : L → L

end CommandLink
