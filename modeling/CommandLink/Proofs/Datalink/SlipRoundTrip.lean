import CommandLink.Datalink.Slip

/-! # Decoding what was encoded

A decoder between two packets takes the written form of a packet to that packet, and stands between
two packets again (`Slip.Decoder.run_encode`). The packet must not be empty, since two END octets in
a row delimit nothing, and must not be longer than the decoder accepts. -/

namespace CommandLink
namespace Slip

theorem escape_cases (b : UInt8) :
    (b = endOctet ∧ escape b = [escOctet, escEnd]) ∨
    (b = escOctet ∧ escape b = [escOctet, escEsc]) ∨
    (b ≠ endOctet ∧ b ≠ escOctet ∧ escape b = [b]) := by
  unfold escape
  split
  · next h => exact .inl ⟨h, rfl⟩
  · next h₁ =>
    split
    · next h₂ => exact .inr (.inl ⟨h₂, rfl⟩)
    · next h₂ => exact .inr (.inr ⟨h₁, h₂, rfl⟩)

namespace Decoder

/-! ## One octet -/

/-- A decoder inside a sound packet, or between two packets. -/
structure Collecting (d : Decoder) : Prop where
  escaping : d.escaping = false
  discarding : d.discarding = false

theorem collecting_fresh (n : Nat) : (fresh n).Collecting := ⟨rfl, rfl⟩

/-- The decoder with one more octet of the packet. -/
def hold (d : Decoder) (b : UInt8) : Decoder := { d with held := d.held.push b }

theorem Collecting.hold {d : Decoder} (H : d.Collecting) (b : UInt8) : (d.hold b).Collecting :=
  ⟨H.escaping, H.discarding⟩

theorem store_of_lt {d : Decoder} (h : d.held.size < d.maxLength) (b : UInt8) :
    d.store b = ({ d with held := d.held.push b, escaping := false }, .nothing) := by
  simp [store, h]

theorem Collecting.store {d : Decoder} (H : d.Collecting) (h : d.held.size < d.maxLength)
    (b : UInt8) : d.store b = (d.hold b, .nothing) := by
  rw [store_of_lt h, Decoder.hold, H.escaping.symm]

theorem Collecting.run_escape {d : Decoder} (H : d.Collecting) (h : d.held.size < d.maxLength)
    (b : UInt8) : d.run (escape b) = (d.hold b, List.replicate (escape b).length .nothing) := by
  have escaped : ∀ s, ({ d with escaping := true }.store s) = (d.hold s, .nothing) := by
    intro s
    rw [store_of_lt (by exact h), Decoder.hold, H.escaping.symm]
  obtain ⟨rfl, he⟩ | ⟨rfl, he⟩ | ⟨hend, hesc, he⟩ := escape_cases b
  · have first : d.push escOctet = ({ d with escaping := true }, .nothing) := by
      simp [push, H.escaping, H.discarding, endOctet, escOctet]
    have second : ({ d with escaping := true }.push escEnd) = (d.hold endOctet, .nothing) := by
      rw [← escaped]
      simp [push, H.discarding, endOctet, escEnd]
    rw [he]
    simp only [run, first, second, List.length_cons, List.length_nil, List.replicate]
  · have first : d.push escOctet = ({ d with escaping := true }, .nothing) := by
      simp [push, H.escaping, H.discarding, endOctet, escOctet]
    have second : ({ d with escaping := true }.push escEsc) = (d.hold escOctet, .nothing) := by
      rw [← escaped]
      simp [push, H.discarding, endOctet, escEnd, escEsc]
    rw [he]
    simp only [run, first, second, List.length_cons, List.length_nil, List.replicate]
  · have only : d.push b = (d.hold b, .nothing) := by
      rw [← H.store h]
      simp [push, hend, hesc, H.escaping, H.discarding]
    rw [he]
    simp only [run, only, List.length_cons, List.length_nil, List.replicate]

/-! ## A packet -/

/-- The decoder with more octets of the packet. -/
def holdAll (d : Decoder) (octets : Octets) : Decoder :=
  { d with held := d.held ++ octets.toArray }

theorem holdAll_cons (d : Decoder) (b : UInt8) (octets : Octets) :
    d.holdAll (b :: octets) = (d.hold b).holdAll octets := by
  simp [holdAll, hold]

/-- The written form of octets adds them, as long as there is room. -/
theorem Collecting.run_flatMap_escape {d : Decoder} (H : d.Collecting) (octets : Octets)
    (h : d.held.size + octets.length ≤ d.maxLength) :
    d.run (octets.flatMap escape) =
      (d.holdAll octets, List.replicate (octets.flatMap escape).length .nothing) := by
  induction octets generalizing d with
  | nil => simp [run, holdAll]
  | cons b octets ih =>
    rw [List.length_cons] at h
    have room : (d.hold b).held.size + octets.length ≤ (d.hold b).maxLength := by
      simp only [Decoder.hold, Array.size_push]
      omega
    rw [List.flatMap_cons, run_append, H.run_escape (by omega), ih (H.hold b) room, holdAll_cons,
      List.length_append, ← List.replicate_append_replicate]

theorem Collecting.push_end {d : Decoder} (H : d.Collecting) :
    d.push endOctet =
      (fresh d.maxLength, if d.held.isEmpty then .nothing else .packet d.held.toList) := by
  simp [push, H.discarding, reset]

/-- The written form of a packet brings the packet with its last octet, and nothing before. -/
theorem run_encode {n : Nat} {packet : Octets} (hne : packet ≠ []) (hle : packet.length ≤ n) :
    (fresh n).run (encode packet) =
      (fresh n, List.replicate (1 + (packet.flatMap escape).length) .nothing ++
        [.packet packet]) := by
  have H := collecting_fresh n
  have opening : (fresh n).push endOctet = (fresh n, .nothing) := H.push_end
  have body := H.run_flatMap_escape packet (by simpa [fresh] using hle)
  have held : ((fresh n).holdAll packet).held = packet.toArray := by simp [holdAll, fresh]
  have closing : ((fresh n).holdAll packet).push endOctet = (fresh n, .packet packet) := by
    rw [Collecting.push_end ⟨rfl, rfl⟩, held]
    simp [holdAll, hne, fresh]
  simp only [encode, run, opening, run_append, body, closing, Nat.add_comm 1,
    List.replicate_succ, List.cons_append]

end Decoder
end Slip
end CommandLink
