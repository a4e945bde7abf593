import CommandLink.Proofs.Datalink.SlipGrammar

/-! # A decoder finds its way back at every END

An END leaves a decoder as it was before its first octet, whatever it has taken so far
(`Slip.Decoder.push_end_fst`). So the stream falls apart at its ENDs: what a decoder makes of the
octets between two of them is what a new one makes of them (`Slip.Decoder.run_between`), and that is
one packet, or one error, or nothing (`Slip.Decoder.length_reports_produced_le`), because an error
loses the rest of the stretch and the END of a lost stretch brings nothing. A packet in its written
form begins with an END, and is therefore received after whatever garbage
(`Slip.Decoder.resynchronises`). -/

namespace CommandLink
namespace Slip
namespace Decoder

/-! ## One octet -/

/-- What becomes of a decoder, and what it brings, at one octet. -/
inductive Pushed (d : Decoder) : UInt8 → Decoder × Output → Prop
  /-- An END behind nothing, or behind a lost packet. -/
  | closed (none : d.discarding = true ∨ d.held.isEmpty = true) :
      Pushed d endOctet (d.reset, .nothing)
  /-- An END behind a packet. -/
  | delivered (sound : d.discarding = false) (some : d.held.isEmpty = false) :
      Pushed d endOctet (d.reset, .packet d.held.toList)
  /-- An octet of a lost packet. -/
  | dropped {b : UInt8} (notEnd : b ≠ endOctet) (lost : d.discarding = true) :
      Pushed d b (d, .nothing)
  /-- An ESC. -/
  | escaped {b : UInt8} (notEnd : b ≠ endOctet) (sound : d.discarding = false) :
      Pushed d b ({ d with escaping := true }, .nothing)
  /-- An octet of the packet, or the substitute for one, and there is room. -/
  | stored {b : UInt8} (notEnd : b ≠ endOctet) (sound : d.discarding = false)
      (room : d.held.size < d.maxLength) (octet : UInt8) :
      Pushed d b ({ d with held := d.held.push octet, escaping := false }, .nothing)
  /-- No room, or an ESC in front of an octet that it cannot escape. -/
  | failed {b : UInt8} (notEnd : b ≠ endOctet) (sound : d.discarding = false) (e : LinkError) :
      Pushed d b (d.discard, .failed e)

theorem pushed_store {d : Decoder} {b : UInt8} (notEnd : b ≠ endOctet)
    (sound : d.discarding = false) (octet : UInt8) : Pushed d b (d.store octet) := by
  unfold Decoder.store
  split
  · next room => exact .stored notEnd sound room octet
  · exact .failed notEnd sound _

theorem pushed_push (d : Decoder) (b : UInt8) : Pushed d b (d.push b) := by
  unfold Decoder.push
  split
  · next isEnd =>
    rw [isEnd]
    split
    · next none => exact .closed none
    · next some =>
      obtain ⟨sound, some⟩ := not_or.mp some
      exact .delivered (eq_false_of_ne_true sound) (eq_false_of_ne_true some)
  next notEnd =>
  split
  · next lost => exact .dropped notEnd lost
  next going =>
  have sound : d.discarding = false := eq_false_of_ne_true going
  split
  · split
    · exact pushed_store notEnd sound endOctet
    split
    · exact pushed_store notEnd sound escOctet
    · exact .failed notEnd sound _
  split
  · exact .escaped notEnd sound
  · exact pushed_store notEnd sound b

/-- An END brings no error. -/
theorem push_end_ne_failed (d : Decoder) (e : LinkError) : (d.push endOctet).2 ≠ .failed e := by
  intro failed
  have P := pushed_push d endOctet
  generalize d.push endOctet = after at P failed
  cases P with
  | failed notEnd => exact notEnd rfl
  | _ => cases failed

/-! ## Histories -/

/-- The states of a decoder for packets of at most `n` octets. -/
inductive Reached (n : Nat) : Decoder → Prop
  | fresh : Reached n (.fresh n)
  | push {d : Decoder} (R : Reached n d) (b : UInt8) : Reached n (d.push b).1
  | reset {d : Decoder} (R : Reached n d) : Reached n d.reset

theorem Reached.run {n : Nat} {d : Decoder} (R : Reached n d) (stream : Octets) :
    Reached n (d.run stream).1 := by
  induction stream generalizing d with
  | nil => exact R
  | cons b stream ih => exact ih (R.push b)

/-- A decoder for packets of at most `n` octets that holds no more than it may. -/
structure Within (n : Nat) (d : Decoder) : Prop where
  maxLength : d.maxLength = n
  size_le : d.held.size ≤ n

theorem within_fresh (n : Nat) : Within n (fresh n) := ⟨rfl, Nat.zero_le _⟩

theorem Within.reset {n : Nat} {d : Decoder} (W : Within n d) : Within n d.reset :=
  ⟨W.maxLength, Nat.zero_le _⟩

theorem Within.push {n : Nat} {d : Decoder} (W : Within n d) (b : UInt8) :
    Within n (d.push b).1 := by
  have P := pushed_push d b
  generalize d.push b = after at P
  cases P with
  | closed | delivered => exact W.reset
  | dropped => exact W
  | escaped => exact ⟨W.maxLength, W.size_le⟩
  | stored _ _ room =>
    refine ⟨W.maxLength, ?_⟩
    rw [Array.size_push, ← W.maxLength]
    exact room
  | failed => exact ⟨W.maxLength, Nat.zero_le _⟩

theorem Reached.within {n : Nat} {d : Decoder} (R : Reached n d) : Within n d := by
  induction R with
  | fresh => exact within_fresh n
  | push _ b ih => exact ih.push b
  | reset _ ih => exact ih.reset

/-- A packet is what the decoder held. -/
theorem eq_held_of_push {d : Decoder} {b : UInt8} {packet : Octets}
    (brought : (d.push b).2 = .packet packet) : packet = d.held.toList := by
  have P := pushed_push d b
  generalize d.push b = after at P brought
  cases P with
  | delivered =>
    cases brought
    rfl
  | _ => cases brought

/-- No packet is longer than the decoder may hold. -/
theorem Within.length_le_of_run {n : Nat} {d : Decoder} (W : Within n d) {stream packet : Octets}
    (brought : .packet packet ∈ (d.run stream).2) : packet.length ≤ n := by
  induction stream generalizing d with
  | nil => nomatch brought
  | cons b stream ih =>
    obtain here | later := List.mem_cons.mp brought
    · rw [eq_held_of_push here.symm]
      exact W.size_le
    · exact ih (W.push b) later

/-! ## Reports -/

/-- One if the packet at hand is lost. -/
def losses (d : Decoder) : Nat := if d.discarding then 1 else 0

theorem losses_of_sound {d : Decoder} (sound : d.discarding = false) : d.losses = 0 := by
  simp [losses, sound]

theorem losses_le (d : Decoder) : d.losses ≤ 1 := by
  unfold losses
  split
  · exact Nat.le_refl 1
  · exact Nat.zero_le 1

/-- An octet other than END reports an error exactly if it loses a packet that was not lost. -/
theorem length_reports_push (d : Decoder) {b : UInt8} (notEnd : b ≠ endOctet) :
    (reports [(d.push b).2]).length + d.losses = (d.push b).1.losses := by
  have P := pushed_push d b
  generalize d.push b = after at P
  cases P with
  | closed | delivered => exact absurd rfl notEnd
  | dropped | escaped | stored => exact Nat.zero_add _
  | failed _ sound =>
    rw [losses_of_sound sound]
    rfl

/-- An END brings nothing if the packet at hand is lost, and no more than that packet if not. -/
theorem length_reports_push_end (d : Decoder) :
    (reports [(d.push endOctet).2]).length + d.losses ≤ 1 := by
  have P := pushed_push d endOctet
  generalize d.push endOctet = after at P
  cases P with
  | closed => exact Nat.le_trans (Nat.le_of_eq (Nat.zero_add _)) d.losses_le
  | delivered sound =>
    rw [losses_of_sound sound]
    exact Nat.le_refl 1
  | dropped notEnd | escaped notEnd | stored notEnd | failed notEnd => exact absurd rfl notEnd

/-! ## Stretches -/

/-- Over octets without END there are as many reports as packets get lost. -/
theorem length_reports_run (d : Decoder) {body : Octets} (unbroken : endOctet ∉ body) :
    (reports (d.run body).2).length + d.losses = (d.run body).1.losses := by
  -- The decoder is any, since the first octet may already have lost the packet.
  induction body generalizing d with
  | nil => exact Nat.zero_add _
  | cons b body ih =>
    have first := length_reports_push d (b := b) fun h => unbroken (h ▸ List.mem_cons_self)
    have later := ih (d.push b).1 fun h => unbroken (List.mem_cons_of_mem _ h)
    have split : reports (d.run (b :: body)).2 =
        reports [(d.push b).2] ++ reports ((d.push b).1.run body).2 :=
      reports_append [(d.push b).2] _
    rw [split, List.length_append]
    simp only [Decoder.run]
    omega

/-- What the octets of a stretch and the END behind it bring. -/
def produced (n : Nat) (body : Octets) : List Output := ((fresh n).run (body ++ [endOctet])).2

/-- A stretch brings one packet, or one error, or nothing. -/
theorem length_reports_produced_le (n : Nat) {body : Octets} (unbroken : endOctet ∉ body) :
    (reports (produced n body)).length ≤ 1 := by
  have stretch := length_reports_run (fresh n) unbroken
  have last := length_reports_push_end ((fresh n).run body).1
  rw [produced, run_concat, reports_append, List.length_append]
  rw [losses_of_sound (collecting_fresh n).discarding, Nat.add_zero] at stretch
  omega

/-- What stands behind an END is received as if nothing stood before it. -/
theorem run_end_cons (d : Decoder) (stream : Octets) :
    d.run (endOctet :: stream) = (((fresh d.maxLength).run stream).1,
      (d.push endOctet).2 :: ((fresh d.maxLength).run stream).2) := by
  rw [← push_end_fst]
  rfl

/-- A stretch and its END leave nothing behind. -/
theorem run_concat_end_fst (n : Nat) (body : Octets) :
    ((fresh n).run (body ++ [endOctet])).1 = fresh n := by
  have W := (Reached.fresh (n := n)).run body |>.within
  rw [run_append]
  calc (((fresh n).run body).1.push endOctet).1
      = fresh ((fresh n).run body).1.maxLength := push_end_fst _
    _ = fresh n := by rw [W.maxLength]

/-- The stream falls apart at its ENDs. -/
theorem run_between (d : Decoder) (body later : Octets) :
    (d.run (endOctet :: (body ++ endOctet :: later))).2 =
      (d.push endOctet).2 ::
        (produced d.maxLength body ++ ((fresh d.maxLength).run later).2) := by
  rw [run_end_cons, List.append_cons, run_append, run_concat_end_fst, produced]

/-- A packet in its written form is received behind any garbage. Its first END ends the garbage, and
may bring what stood there. -/
theorem run_encode_behind (d : Decoder) {packet : Octets} (some : packet ≠ [])
    (fits : packet.length ≤ d.maxLength) :
    d.run (encode packet) = (fresh d.maxLength, (d.push endOctet).2 ::
      (List.replicate (packet.flatMap escape).length .nothing ++ [.packet packet])) := by
  rw [encode, run_end_cons, run_concat_end_fst, run_flatMap_escape_end fits, if_neg some]

/-- Between two packets the written form of a packet brings that packet alone. -/
theorem reports_run_encode {n : Nat} {packet : Octets} (some : packet ≠ [])
    (fits : packet.length ≤ n) :
    reports ((fresh n).run (encode packet)).2 = [.packet packet] := by
  rw [run_encode some fits, reports_append, reports_replicate]
  rfl

/-- Wherever a decoder stands, it holds no more than it may; what it makes of a stretch between two
ENDs depends on that stretch alone, and is one packet, or one error, or nothing; and the written
form of a packet that is neither empty nor too long brings no error, brings the packet with its last
octet, and leaves the decoder as it was before its first one. -/
theorem resynchronises {n : Nat} {d : Decoder} (R : Reached n d) :
    d.held.size ≤ n ∧
    (∀ body later : Octets, endOctet ∉ body →
      (d.run (endOctet :: (body ++ endOctet :: later))).2 =
        (d.push endOctet).2 :: (produced n body ++ ((fresh n).run later).2) ∧
      (reports (produced n body)).length ≤ 1) ∧
    ∀ packet : Octets, 1 ≤ packet.length → packet.length ≤ n →
      d.run (encode packet) = (fresh n, (d.push endOctet).2 ::
        (List.replicate (packet.flatMap escape).length .nothing ++ [.packet packet])) ∧
      ∀ e, .failed e ∉ (d.run (encode packet)).2 := by
  obtain ⟨rfl, size_le⟩ := R.within
  refine ⟨size_le, ?_, ?_⟩
  · intro body later unbroken
    exact ⟨run_between d body later, length_reports_produced_le _ unbroken⟩
  · intro packet some fits
    have run := run_encode_behind d (List.length_pos_iff.mp some) fits
    refine ⟨run, ?_⟩
    intro e failed
    rw [run] at failed
    obtain first | failed := List.mem_cons.mp failed
    · exact push_end_ne_failed d e first.symm
    obtain body | last := List.mem_append.mp failed
    · cases List.eq_of_mem_replicate body
    · cases List.mem_singleton.mp last

/-- Garbage that ends behind an ESC in a lost packet, and packets as long as the decoder accepts. -/
theorem resynchronises_littered :
    let d := ((fresh 2).run [0x01, 0x02, 0x03, escOctet]).1
    Reached 2 d ∧ d.discarding = true ∧
    endOctet ∉ [0x41, escOctet, escEnd] ∧
    (d.run (endOctet :: ([0x41, escOctet, escEnd] ++ [endOctet]))).2 =
      [.nothing, .nothing, .nothing, .nothing, .packet [0x41, endOctet]] ∧
    (d.run (encode [escOctet, 0x42])).2.getLast? = some (.packet [escOctet, 0x42]) := by
  intro d
  have R : Reached 2 d := Reached.fresh.run _
  obtain ⟨-, stretches, packets⟩ := resynchronises R
  have unbroken : endOctet ∉ [0x41, escOctet, escEnd] := by decide
  refine ⟨R, rfl, unbroken, ?_, ?_⟩
  · rw [(stretches [0x41, escOctet, escEnd] [] unbroken).1]
    rfl
  · rw [(packets [escOctet, 0x42] (by decide) (by decide)).1]
    rfl

end Decoder
end Slip
end CommandLink
