import CommandLink.Datalink.Packet
import CommandLink.Proofs.Datalink.BufferLemmas

/-! # Opening what was assembled

The packet that one role assembles from a frame is a sound data packet for the other role, and
holds that frame (`Packet.decode_layout`), with a checksum or without. The checksum that is checked
is the one computed from the frame itself, so nothing is asked of the checksum but that it is a
function. -/

namespace CommandLink

@[simp] theorem LinkRole.peer_peer (role : LinkRole) : role.peer.peer = role := by
  cases role <;> rfl

namespace Packet

/-- The octets of a frame's packet. -/
def layout (crc : Bool) (role : LinkRole) (frame : Octets) : Octets :=
  if crc then
    checkedHeader :: match role with
      | .controller => checksumOctets frame ++ frame
      | .agent => frame ++ checksumOctets frame
  else plainHeader :: frame

@[simp] theorem length_checksumOctets (frame : Octets) :
    (checksumOctets frame).length = checksumSize := rfl

theorem layout_ne_nil (crc : Bool) (role : LinkRole) (frame : Octets) :
    layout crc role frame ≠ [] := by
  unfold layout
  split <;> simp

/-- A frame and its checksum in the order in which an end of the given role sends them. -/
def arrange (sender : LinkRole) (sum frame : Octets) : Octets :=
  match sender with
  | .controller => sum ++ frame
  | .agent => frame ++ sum

theorem length_arrange (sender : LinkRole) (sum frame : Octets) :
    (arrange sender sum frame).length = sum.length + frame.length := by
  cases sender with
  | controller => exact List.length_append
  | agent => rw [arrange, List.length_append, Nat.add_comm]

theorem layout_true (sender : LinkRole) (frame : Octets) :
    layout true sender frame = checkedHeader :: arrange sender (checksumOctets frame) frame := by
  cases sender <;> rfl

/-- The octets that assembling adds to a frame. -/
def overhead (crc : Bool) : Nat := if crc then headerSize + checksumSize else headerSize

theorem length_layout (crc : Bool) (sender : LinkRole) (frame : Octets) :
    (layout crc sender frame).length = frame.length + overhead crc := by
  cases crc with
  | false => rfl
  | true =>
    rw [layout_true, List.length_cons, length_arrange, length_checksumOctets, overhead, headerSize]
    simp only [if_true]
    omega

theorem overhead_le (crc : Bool) : overhead crc ≤ maxOverhead := by
  cases crc <;> decide

theorem length_layout_le (crc : Bool) (role : LinkRole) (frame : Octets) :
    (layout crc role frame).length ≤ frame.length + maxOverhead := by
  rw [length_layout]
  exact Nat.add_le_add_left (overhead_le crc) _

/-! ## Assembling -/

theorem data_of_addChecksum {b b' : Buffer} {role : LinkRole}
    (h : addChecksum b role = .ok b') :
    checkedHeader :: b'.data = layout true role b.data := by
  cases role with
  | controller => simp [layout, (Buffer.data_prepend h).1]
  | agent =>
    cases h
    simp [layout]

/-- However a packet was assembled, these are its octets. -/
theorem data_of_assemble {b b' : Buffer} {crc : Bool} {role : LinkRole}
    (h : assemble b crc role = .ok b') : b'.data = layout crc role b.data := by
  unfold assemble at h
  cases crc with
  | false => simpa [layout] using (Buffer.data_prepend h).1
  | true =>
    simp only [if_true] at h
    split at h
    · next b₁ hb₁ =>
      rw [← data_of_addChecksum hb₁]
      exact (Buffer.data_prepend h).1
    · cases h

/-- The octets that assembling puts in front of a frame. -/
def headroom (crc : Bool) (role : LinkRole) : Nat :=
  match crc, role with
  | true, .controller => headerSize + checksumSize
  | _, _ => headerSize

theorem headroom_le (crc : Bool) (role : LinkRole) : headroom crc role ≤ maxOverhead := by
  cases crc <;> cases role <;> decide

/-- A buffer is assembled exactly if there is room in front for what is put there. -/
theorem assemble_ok_iff (b : Buffer) (crc : Bool) (role : LinkRole) :
    (∃ b', assemble b crc role = .ok b') ↔ headroom crc role ≤ b.start := by
  cases crc with
  | false => exact b.prepend_ok_iff [plainHeader]
  | true =>
    cases role with
    | agent => exact (b.append (checksumOctets b.data)).prepend_ok_iff [checkedHeader]
    | controller =>
      simp only [assemble, addChecksum, if_true]
      constructor
      · rintro ⟨b', hb⟩
        split at hb
        · next b₁ sum =>
          have first := (Buffer.data_prepend sum).2.1
          have second := (Buffer.data_prepend hb).2.1
          rw [length_checksumOctets] at first
          rw [List.length_singleton] at second
          simp only [headroom, headerSize]
          omega
        · cases hb
      · intro room
        simp only [headroom, headerSize] at room
        obtain ⟨b₁, sum, -, start⟩ := b.prepend_ok (checksumOctets b.data)
          (by rw [length_checksumOctets]; omega)
        rw [length_checksumOctets] at start
        rw [sum]
        apply (b₁.prepend_ok_iff [checkedHeader]).mpr
        rw [List.length_singleton]
        omega

/-- A buffer with room for header and checksum in front is assembled. -/
theorem assemble_ok {b : Buffer} (h : maxOverhead ≤ b.start) (crc : Bool) (role : LinkRole) :
    ∃ b', assemble b crc role = .ok b' :=
  (assemble_ok_iff b crc role).mpr (Nat.le_trans (headroom_le crc role) h)

/-! ## Opening -/

/-- The checksum is where the peer's role puts it. -/
theorem checkChecksum_of_data {b : Buffer} {role : LinkRole} {frame : Octets}
    (h : checkedHeader :: b.data = layout true role frame) :
    ∃ b', checkChecksum b role.peer = some b' ∧ b'.data = frame := by
  cases role with
  | controller =>
    have hd : b.data = checksumOctets frame ++ frame := by simpa [layout] using h
    obtain ⟨b', hb, hf⟩ := Buffer.removeStart_of_data _ _ hd
    rw [length_checksumOctets] at hb
    exact ⟨b', by simp [checkChecksum, LinkRole.peer, hb, hf], hf⟩
  | agent =>
    have hd : b.data = frame ++ checksumOctets frame := by simpa [layout] using h
    obtain ⟨b', hb, hf⟩ := Buffer.removeEnd_of_data _ _ hd
    rw [length_checksumOctets] at hb
    exact ⟨b', by simp [checkChecksum, LinkRole.peer, hb, hf], hf⟩

/-- The other role finds the frame in its packet. -/
theorem decode_layout (crc : Bool) (role : LinkRole) (frame : Octets) :
    (decode (layout crc role frame) role.peer).map Buffer.data = some frame := by
  cases crc with
  | true =>
    obtain ⟨rest, hrest⟩ : ∃ rest, layout true role frame = checkedHeader :: rest := ⟨_, rfl⟩
    obtain ⟨b, hb, hd⟩ := Buffer.removeStart_of_data [checkedHeader] rest
      (show (Buffer.ofOctets (layout true role frame)).data = _ by simp [hrest])
    obtain ⟨b', hc, hf⟩ := checkChecksum_of_data (by rw [hd, hrest] : checkedHeader :: b.data = _)
    have hb : (Buffer.ofOctets (layout true role frame)).removeStart headerSize =
        some ([checkedHeader], b) := hb
    simp [decode, hb, checkedHeader, hc, hf]
  | false =>
    obtain ⟨b, hb, hd⟩ := Buffer.removeStart_of_data [plainHeader] frame
      (show (Buffer.ofOctets (layout false role frame)).data = _ by simp [layout])
    have hb : (Buffer.ofOctets (layout false role frame)).removeStart headerSize =
        some ([plainHeader], b) := hb
    simp [decode, hb, plainHeader, hd]

end Packet
end CommandLink
