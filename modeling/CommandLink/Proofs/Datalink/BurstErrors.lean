import CommandLink.Proofs.Datalink.Crc16Register
import CommandLink.Proofs.Datalink.PacketFormat

/-! # Damage that the checksum catches

A frame that differs from another in bits no further apart than the register is wide has another
checksum (`Crc16.checksum_ne_of_burst`): the bits before leave the register the same, the burst
makes it differ, and the bits behind keep it so. Therefore no receiver takes a checked packet whose
frame was hit by one burst, nor one whose checksum alone was hit (`Packet.decode_damaged`). -/

namespace CommandLink

/-- The strings differ, and only within a window of at most `n` bits. -/
def Burst (n : Nat) (sent received : Octets) : Prop :=
  ∃ front before after back : List Bool,
    Octets.bits sent = front ++ before ++ back ∧ Octets.bits received = front ++ after ++ back ∧
    before.length = after.length ∧ before.length ≤ n ∧ before ≠ after

namespace Crc16

theorem checksum_ne_of_burst {sent received : Octets} (B : Burst 16 sent received) :
    checksum sent ≠ checksum received := by
  obtain ⟨front, before, after, back, hs, hr, same, fits, differ⟩ := B
  intro equal
  have registers : register sent = register received := congrArg UInt16.toBitVec equal
  rw [register_eq_foldl, register_eq_foldl, hs, hr, List.foldl_append, List.foldl_append,
    List.foldl_append, List.foldl_append] at registers
  exact foldl_feed_ne same fits differ _ (foldl_feed_injective back registers)

end Crc16

namespace Packet

theorem checksum_of_checksumOctets {frame frame' : Octets}
    (same : checksumOctets frame = checksumOctets frame') :
    Crc16.checksum frame = Crc16.checksum frame' := by
  obtain ⟨low, high⟩ := List.cons.inj same
  rw [← Octets.word16_ofWord16 (Crc16.checksum frame), low, (List.cons.inj high).1,
    Octets.word16_ofWord16]

/-- The checksum's place and its length tell it from the frame. -/
theorem arrange_inj {sender : LinkRole} {sum sum' frame frame' : Octets}
    (size : sum.length = sum'.length)
    (same : arrange sender sum frame = arrange sender sum' frame') :
    sum = sum' ∧ frame = frame' := by
  cases sender with
  | controller => exact List.append_inj same size
  | agent =>
    obtain ⟨frames, sums⟩ := List.append_inj' same size
    exact ⟨sums, frames⟩

/-- Damage to a packet with a checksum that leaves its header and its length as they were: one burst
of at most sixteen bits in the frame, or any other octets in the checksum's place. -/
inductive Damaged (sender : LinkRole) : (sent received : Octets) → Prop
  | frame {header : UInt8} {sum frame frame' : Octets} (size : sum.length = checksumSize)
      (burst : Burst 16 frame frame') :
      Damaged sender (header :: arrange sender sum frame) (header :: arrange sender sum frame')
  | checksum {header : UInt8} {sum sum' frame : Octets} (size : sum.length = checksumSize)
      (size' : sum'.length = checksumSize) (differ : sum' ≠ sum) :
      Damaged sender (header :: arrange sender sum frame) (header :: arrange sender sum' frame)

/-- A receiver takes no checked packet with another checksum than that of its frame. -/
theorem decode_of_foreign {sender : LinkRole} {sum frame : Octets}
    (size : sum.length = checksumSize) (foreign : sum ≠ checksumOctets frame) :
    decode (checkedHeader :: arrange sender sum frame) sender.peer = none := by
  apply Option.eq_none_iff_forall_ne_some.mpr
  intro found taken
  have C : Carries sender.peer found.data (checkedHeader :: arrange sender sum frame) := by
    apply (decode_eq_some_iff _ sender.peer found.data).mp
    rw [taken, Option.map_some]
  generalize whole : checkedHeader :: arrange sender sum frame = packet at C
  generalize found.data = body at C
  cases C with
  | plain _ flag =>
    obtain ⟨rfl, -⟩ := List.cons.inj whole
    exact absurd flag (by decide)
  | checked =>
    rw [LinkRole.peer_peer] at whole
    obtain ⟨own, rfl⟩ := arrange_inj (size.trans (length_checksumOctets body).symm)
      (List.cons.inj whole).2
    exact foreign own

/-- A checked packet that was damaged on its way is taken by no receiver. -/
theorem decode_damaged {b b' : Buffer} {sender : LinkRole} {received : Octets}
    (made : assemble b true sender = .ok b') (damaged : Damaged sender b'.data received) :
    decode received sender.peer = none := by
  have packet : b'.data = checkedHeader :: arrange sender (checksumOctets b.data) b.data := by
    rw [data_of_assemble made, layout_true]
  have size := length_checksumOctets b.data
  -- The place of the checksum fixes which part of the packet was hit.
  generalize b'.data = sent at packet damaged
  cases damaged with
  | frame size' burst =>
    obtain ⟨rfl, arranged⟩ := List.cons.inj packet
    obtain ⟨rfl, rfl⟩ := arrange_inj (size'.trans size.symm) arranged
    apply decode_of_foreign size
    intro same
    exact Crc16.checksum_ne_of_burst burst (checksum_of_checksumOctets same)
  | checksum size' other differ =>
    obtain ⟨rfl, arranged⟩ := List.cons.inj packet
    obtain ⟨rfl, rfl⟩ := arrange_inj (size'.trans size.symm) arranged
    exact decode_of_foreign other differ

/-- The first and the last bit of a window of sixteen bits flipped in an agent's frame. -/
theorem decode_damaged_window :
    let b := (Buffer.alloc 1 5).append [0x12, 0x34, 0x56]
    let received :=
      checkedHeader :: arrange .agent (checksumOctets [0x12, 0x34, 0x56]) [0x1A, 0x34, 0x46]
    ∃ b', assemble b true .agent = .ok b' ∧ Damaged .agent b'.data received ∧
      decode received LinkRole.agent.peer = none := by
  intro b received
  obtain ⟨b', made⟩ := (assemble_ok_iff b true .agent).mpr (by decide)
  have packet : b'.data =
      checkedHeader :: arrange .agent (checksumOctets [0x12, 0x34, 0x56]) [0x12, 0x34, 0x56] :=
    data_of_assemble made
  have burst : Burst 16 [0x12, 0x34, 0x56] [0x1A, 0x34, 0x46] :=
    ⟨[false, false, false, true],
      [false, false, true, false, false, false, true, true, false, true, false, false,
        false, true, false, true],
      [true, false, true, false, false, false, true, true, false, true, false, false,
        false, true, false, false],
      [false, true, true, false], rfl, rfl, rfl, by decide, by decide⟩
  have damaged : Damaged .agent b'.data received := by
    rw [packet]
    exact .frame (length_checksumOctets _) burst
  exact ⟨b', made, damaged, decode_damaged made damaged⟩

end Packet
end CommandLink
