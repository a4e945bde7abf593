import Mathlib.Data.Nat.Bitwise
import CommandLink.Proofs.Datalink.PacketRoundTrip
import CommandLink.Proofs.Datalink.SlipResync

/-! # The format of a packet

Which octet strings are packets with a given frame (`Packet.Carries`), told by the masks of the
header and the place of the checksum, and that a receiver takes exactly these
(`Packet.decode_eq_some_iff`). A receiver strips from a buffer what it looks for and compares;
what was stripped stood there, so that it can be put back. -/

namespace CommandLink
namespace Packet

/-! ## The format -/

/-- The mask of a header's packet kind. -/
def kindMask : UInt8 := 0x0F

/-- The bit of a header that tells of a checksum. -/
def checksumFlag : UInt8 := 0x80

/-- The packets in which an end of the given role finds a frame. The other bits of the header are
free. -/
inductive Carries (receiver : LinkRole) (frame : Octets) : Octets → Prop
  | plain {header : UInt8} (data : header &&& kindMask = 0) (flag : header &&& checksumFlag = 0) :
      Carries receiver frame (header :: frame)
  | checked {header : UInt8} (data : header &&& kindMask = 0) (flag : header &&& checksumFlag ≠ 0) :
      Carries receiver frame
        (header :: arrange receiver.peer (checksumOctets frame) frame)

/-! ## The header -/

theorem and_kindMask_eq_zero_iff (header : UInt8) :
    header &&& kindMask = 0 ↔ header.toNat % 16 = 0 := by
  have low : header.toNat &&& kindMask.toNat = header.toNat % 16 :=
    Nat.and_two_pow_sub_one_eq_mod header.toNat 4
  rw [← UInt8.toNat_inj, UInt8.toNat_and, low]
  rfl

theorem and_checksumFlag_ne_zero_iff (header : UInt8) :
    header &&& checksumFlag ≠ 0 ↔ 128 ≤ header.toNat := by
  have top : header.toNat &&& checksumFlag.toNat = (header.toNat.testBit 7).toNat * 2 ^ 7 :=
    Nat.and_two_pow header.toNat 7
  have bit : header.toNat.testBit 7 = decide (128 ≤ header.toNat) := by
    have := header.toNat_lt
    rw [Nat.testBit_eq_decide_div_mod_eq, decide_eq_decide]
    omega
  rw [Ne, ← UInt8.toNat_inj, UInt8.toNat_and, top, bit]
  by_cases flagged : 128 ≤ header.toNat <;> simp [flagged]

/-! ## The checksum -/

/-- A receiver accepts what it strips exactly if that is the checksum of the rest. -/
theorem checkChecksum_eq_some_iff (b : Buffer) (receiver : LinkRole) (frame : Octets) :
    (checkChecksum b receiver).map Buffer.data = some frame ↔
      b.data = arrange receiver.peer (checksumOctets frame) frame := by
  constructor
  · intro accepted
    obtain ⟨rest, checked, rfl⟩ := Option.map_eq_some_iff.mp accepted
    cases receiver with
    | controller =>
      simp only [checkChecksum] at checked
      split at checked
      · next sum b' cut =>
        obtain ⟨same, taken⟩ := Option.ite_none_right_eq_some.mp checked
        cases taken
        rw [Buffer.data_of_removeEnd cut, same]
        rfl
      · cases checked
    | agent =>
      simp only [checkChecksum] at checked
      split at checked
      · next sum b' cut =>
        obtain ⟨same, taken⟩ := Option.ite_none_right_eq_some.mp checked
        cases taken
        rw [Buffer.data_of_removeStart cut, same]
        rfl
      · cases checked
  · intro arranged
    have packet : checkedHeader :: b.data = layout true receiver.peer frame := by
      rw [layout_true, arranged]
    obtain ⟨rest, checked, data⟩ := checkChecksum_of_data packet
    rw [LinkRole.peer_peer] at checked
    rw [checked, Option.map_some, data]

/-! ## The packet -/

/-- What becomes of a packet behind its header. -/
theorem decode_cons (header : UInt8) (body : Octets) (receiver : LinkRole) :
    ∃ b : Buffer, b.data = body ∧ decode (header :: body) receiver =
      if header &&& kindMask = 0 then
        if header &&& checksumFlag ≠ 0 then checkChecksum b receiver else some b
      else none := by
  obtain ⟨b, cut, data⟩ := Buffer.removeStart_of_data [header] body
    (Buffer.data_ofOctets (header :: body))
  have cut : (Buffer.ofOctets (header :: body)).removeStart headerSize = some ([header], b) := cut
  refine ⟨b, data, ?_⟩
  simp only [decode, cut, and_kindMask_eq_zero_iff, and_checksumFlag_ne_zero_iff]
  by_cases kind : header.toNat % 16 = 0
  · simp only [kind, if_true]
    split
    · next found => exact found.symm
    · next missing => exact missing.symm
  · simp only [kind, if_false]
    split <;> rfl

/-- A receiver takes a packet exactly if it is a sound data packet, and finds the frame in it. -/
theorem decode_eq_some_iff (packet : Octets) (receiver : LinkRole) (frame : Octets) :
    (decode packet receiver).map Buffer.data = some frame ↔ Carries receiver frame packet := by
  cases packet with
  | nil =>
    constructor
    · intro taken
      cases taken
    · intro C
      cases C
  | cons header body =>
    obtain ⟨b, rfl, decoded⟩ := decode_cons header body receiver
    rw [decoded]
    constructor
    · intro taken
      split at taken
      · next data =>
        split at taken
        · next flag =>
          rw [(checkChecksum_eq_some_iff b receiver frame).mp taken]
          exact .checked data flag
        · next flag =>
          cases taken
          exact .plain data (Decidable.not_not.mp flag)
      · cases taken
    · generalize whole : header :: b.data = packet
      intro C
      cases C with
      | plain data flag =>
        cases whole
        rw [if_pos data, if_neg (not_not_intro flag), Option.map_some]
      | checked data flag =>
        obtain ⟨rfl, arranged⟩ := List.cons.inj whole
        rw [if_pos data, if_pos flag]
        exact (checkChecksum_eq_some_iff b receiver frame).mpr arranged

/-! ## Sending and receiving -/

theorem encode_ok {b : Buffer} {crc : Bool} {sender : LinkRole}
    (room : headroom crc sender ≤ b.start) :
    encode b crc sender = .ok (Slip.encode (layout crc sender b.data)) := by
  obtain ⟨b', made⟩ := (assemble_ok_iff b crc sender).mpr room
  rw [← data_of_assemble made, encode, made]

/-- What a receiver takes for a packet with a frame is what the format says; and a frame that is
sent, with a checksum or without, is one packet on the byte stream, in which the other end finds
that frame. The buffer needs room in front for what is put there, and the decoder room for the
packet. -/
theorem packet_format :
    (∀ (packet : Octets) (receiver : LinkRole) (frame : Octets),
      (decode packet receiver).map Buffer.data = some frame ↔ Carries receiver frame packet) ∧
    ∀ (b : Buffer) (crc : Bool) (sender : LinkRole) (n : Nat),
      headroom crc sender ≤ b.start → b.data.length + overhead crc ≤ n →
      ∃ wire packet, encode b crc sender = .ok wire ∧
        Slip.Decoder.reports ((Slip.Decoder.fresh n).run wire).2 = [.packet packet] ∧
        (decode packet sender.peer).map Buffer.data = some b.data := by
  refine ⟨decode_eq_some_iff, ?_⟩
  intro b crc sender n room fits
  refine ⟨_, layout crc sender b.data, encode_ok room, ?_, decode_layout crc sender b.data⟩
  apply Slip.Decoder.reports_run_encode (layout_ne_nil crc sender b.data)
  rw [length_layout]
  exact fits

/-- A frame of END and ESC from an agent, with no more room than its checked packet needs. -/
theorem packet_format_tight :
    let b := (Buffer.alloc 1 0).append [Slip.endOctet, Slip.escOctet]
    headroom true .agent ≤ b.start ∧ b.data.length + overhead true ≤ 5 ∧
    ∃ wire packet, encode b true .agent = .ok wire ∧
      Slip.Decoder.reports ((Slip.Decoder.fresh 5).run wire).2 = [.packet packet] ∧
      (decode packet .controller).map Buffer.data = some [Slip.endOctet, Slip.escOctet] := by
  intro b
  have room : headroom true .agent ≤ b.start := by decide
  have fits : b.data.length + overhead true ≤ 5 := by decide
  exact ⟨room, fits, packet_format.2 b true .agent 5 room fits⟩

end Packet
end CommandLink
