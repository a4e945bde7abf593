import CommandLink.Proofs.Datalink.PacketFormat
import CommandLink.Proofs.Datalink.SerialFifo

/-! # How long a received frame can be

The receiving half has no limit for frames, only one for packets: its decoder leaves room for a
frame of the longest size with header and checksum. What the checksum does not need the frame may
use. So a frame that came with a checksum is within the limit, and one that came without may be
longer by the octets of a checksum (`SerialLink.length_le_of_carries`), and is handed over
(`SerialLink.overlong_received`) although the sending half would refuse it. The limit holds as far
as the packets without a checksum keep to it (`SerialLink.received_within`). -/

namespace CommandLink
namespace SerialLink

/-! ## Frames and packets -/

/-- The octets that the receiving half takes, up to the read that ends or breaks the byte stream. -/
def taken : List Read → Octets
  | [] => []
  | .failed .interrupted :: rest => taken rest
  | .failed _ :: _ => []
  | .octets [] :: _ => []
  | .octets (b :: bs) :: rest => (b :: bs) ++ taken rest

theorem receiveAll_eq (role : LinkRole) (d : Slip.Decoder) (reads : List Read) :
    receiveAll role d reads = (receive role d (taken reads)).2 := by
  induction reads generalizing d with
  | nil => rfl
  | cons r rest ih =>
    cases r with
    | failed kind =>
      cases kind with
      | interrupted => exact ih d
      | _ => rfl
    | octets read =>
      cases read with
      | nil => rfl
      | cons b bs =>
        have later := ih (receive role d (b :: bs)).1
        rw [taken, receive_append, ← later]
        rfl

/-- The packets that the receiving half finds on the byte stream. -/
def Finds (config : Config) (reads : List Read) (packet : Octets) : Prop :=
  .packet packet ∈ ((decoder config).run (taken reads)).2

theorem Finds.length_le {config : Config} {reads : List Read} {packet : Octets}
    (F : Finds config reads packet) : packet.length ≤ config.maxFrame + Packet.maxOverhead :=
  (Slip.Decoder.within_fresh _).length_le_of_run F

/-- The frames that are handed over are those in the packets. -/
theorem mem_receiveAll_iff {config : Config} {reads : List Read} {frame : Octets} :
    frame ∈ receiveAll config.role (decoder config) reads ↔
      ∃ packet, Finds config reads packet ∧ Packet.Carries config.role frame packet := by
  rw [receiveAll_eq]
  constructor
  · intro received
    obtain ⟨output, brought, decoded⟩ := List.mem_filterMap.mp received
    cases output with
    | packet packet =>
      exact ⟨packet, brought, (Packet.decode_eq_some_iff packet config.role frame).mp decoded⟩
    | _ => cases decoded
  · rintro ⟨packet, F, C⟩
    apply List.mem_filterMap.mpr
    exact ⟨.packet packet, F, (Packet.decode_eq_some_iff packet config.role frame).mpr C⟩

/-! ## The limit -/

/-- The data packets without a checksum keep to the limit for frames. -/
def PlainWithin (config : Config) (reads : List Read) : Prop :=
  ∀ (header : UInt8) (frame : Octets), Finds config reads (header :: frame) →
    header &&& Packet.kindMask = 0 → header &&& Packet.checksumFlag = 0 →
    frame.length ≤ config.maxFrame

/-- A frame is as long as its packet allows, less the header, and less the checksum if there is
one. -/
theorem length_le_of_carries {config : Config} {reads : List Read} {frame packet : Octets}
    (F : Finds config reads packet) (C : Packet.Carries config.role frame packet) :
    frame.length ≤ config.maxFrame ∨
      frame.length ≤ config.maxFrame + Packet.checksumSize ∧
      ∃ header : UInt8, packet = header :: frame ∧ header &&& Packet.kindMask = 0 ∧
        header &&& Packet.checksumFlag = 0 := by
  have fits := F.length_le
  simp only [Packet.maxOverhead, Packet.headerSize, Packet.checksumSize] at fits ⊢
  cases C with
  | plain data flag =>
    rw [List.length_cons] at fits
    exact .inr ⟨by omega, _, rfl, data, flag⟩
  | checked =>
    rw [List.length_cons, Packet.length_arrange, Packet.length_checksumOctets,
      Packet.checksumSize] at fits
    exact .inl (by omega)

/-- The received frames keep to the limit exactly if those in packets without a checksum do. -/
theorem plainWithin_iff (config : Config) (reads : List Read) :
    PlainWithin config reads ↔
      ∀ frame ∈ receiveAll config.role (decoder config) reads, frame.length ≤ config.maxFrame := by
  constructor
  · intro plain frame received
    obtain ⟨packet, F, C⟩ := mem_receiveAll_iff.mp received
    obtain within | ⟨-, header, rfl, data, flag⟩ := length_le_of_carries F C
    · exact within
    · exact plain header frame F data flag
  · intro within header frame F data flag
    apply within frame
    exact mem_receiveAll_iff.mpr ⟨header :: frame, F, .plain data flag⟩

/-- No received frame is longer than the limit and a checksum together. If the data packets without
a checksum keep to the limit, and only then, every received frame does; and then a link with the
same configuration sends each of them. -/
theorem received_within (config : Config) (reads : List Read) :
    (∀ frame ∈ receiveAll config.role (decoder config) reads,
      frame.length ≤ config.maxFrame + Packet.checksumSize) ∧
    (PlainWithin config reads ↔
      ∀ frame ∈ receiveAll config.role (decoder config) reads,
        frame.length ≤ config.maxFrame) ∧
    (PlainWithin config reads →
      ∀ frame ∈ receiveAll config.role (decoder config) reads,
        ∀ d : Draft, d.frame = frame → ∃ n, ((ofConfig config).post d).1 = some (.ok n)) := by
  refine ⟨?_, plainWithin_iff config reads, ?_⟩
  · intro frame received
    obtain ⟨packet, F, C⟩ := mem_receiveAll_iff.mp received
    obtain within | ⟨longer, -⟩ := length_le_of_carries F C
    · exact Nat.le_trans within (Nat.le_add_right ..)
    · exact longer
  · intro plain frame received d same
    have within := (plainWithin_iff config reads).mp plain frame received
    rw [post_ok rfl rfl (same ▸ within)]
    exact ⟨_, rfl⟩

/-- A frame of the longest size in a packet with a checksum, one in a packet without, and a packet
that is too long for the decoder. -/
theorem received_within_full :
    let config : Config := ⟨4, false, .agent⟩
    let reads : List Read :=
      [.octets [0xC0, 0x80, 0x13, 0xC8, 0xDB, 0xDC, 2, 3, 4, 0xC0], .failed .interrupted,
        .octets [0xC0, 0, 1, 2, 3, 4, 0xC0, 0xC0, 0, 1, 2, 3, 4, 5, 6, 7, 0xC0]]
    PlainWithin config reads ∧
    receiveAll config.role (decoder config) reads = [[0xC0, 2, 3, 4], [1, 2, 3, 4]] ∧
    (∀ frame ∈ receiveAll config.role (decoder config) reads, frame.length ≤ 4) ∧
    ∃ n, ((ofConfig config).post ⟨0, 4, [], [0xC0, 2, 3, 4], Nat.le_refl 0⟩).1 = some (.ok n) := by
  intro config reads
  have found : ∀ packet, Finds config reads packet →
      packet = [0x80, 0x13, 0xC8, 0xC0, 2, 3, 4] ∨ packet = [0, 1, 2, 3, 4] := by
    intro packet F
    have outputs : Slip.Decoder.reports ((decoder config).run (taken reads)).2 =
        [.packet [0x80, 0x13, 0xC8, 0xC0, 2, 3, 4], .packet [0, 1, 2, 3, 4],
          .failed (.packetTooLarge 8 7)] := by decide +kernel
    have reported : Slip.Decoder.Output.packet packet ∈
        Slip.Decoder.reports ((decoder config).run (taken reads)).2 :=
      List.mem_filter.mpr ⟨F, by simp⟩
    rw [outputs] at reported
    simpa using reported
  have plain : PlainWithin config reads := by
    intro header frame F _ flag
    obtain checked | short := found _ F
    · cases checked
      exact absurd flag (by decide)
    · cases short
      exact Nat.le_refl 4
  have received : receiveAll config.role (decoder config) reads =
      [[0xC0, 2, 3, 4], [1, 2, 3, 4]] := by decide +kernel
  obtain ⟨-, within, sent⟩ := received_within config reads
  refine ⟨plain, received, within.mp plain, sent plain [0xC0, 2, 3, 4] ?_ _ rfl⟩
  rw [received]
  exact List.mem_cons_self

/-- A frame without checksum that is longer than the limit is handed over, and a link with the same
configuration refuses it. -/
theorem overlong_received :
    let config : Config := ⟨4, false, .agent⟩
    let frame : Octets := [1, 2, 3, 4, 5, 6]
    frame ∈ receiveAll config.role (decoder config) [.octets [0xC0, 0, 1, 2, 3, 4, 5, 6, 0xC0]] ∧
    ¬ frame.length ≤ config.maxFrame ∧
    ((ofConfig config).post ⟨0, 6, [], frame, Nat.le_refl 0⟩).1 =
      some (.error (.packetTooLarge 6 4)) := by
  decide +kernel

end SerialLink
end CommandLink
