import CommandLink.Proofs.Datalink.SlipRoundTrip

/-! # What stands between two ENDs

A stretch of the byte stream without END is read from its front: as long as its octets are the
written form of octets it goes on, until it ends, or ends behind an ESC, or has an ESC in front of
an octet that cannot stand there (`Slip.Reading`). A decoder that has just taken an END delivers a
packet at the next one exactly if the stretch between them is the written form of that packet and
the packet is neither empty nor too long, and reports one error for any other stretch that is not
empty (`Slip.Decoder.run_stretch`). Excepted is a stretch that ends behind an ESC with no error
before: its last octet is dropped, and what stands before it is taken for the packet
(`Slip.Decoder.run_danglingEscape`). -/

namespace CommandLink
namespace Slip

/-- How a stretch without END reads: octets in their written form, and what ends them. -/
inductive Reading : Octets → Prop
  | whole (p : Octets) : Reading (p.flatMap escape)
  /-- The stretch ends behind an ESC. -/
  | dangling (p : Octets) : Reading (p.flatMap escape ++ [escOctet])
  /-- An ESC stands in front of an octet that it cannot escape. -/
  | stray (p : Octets) {b : UInt8} (rest : Octets) (notEnd : b ≠ escEnd) (notEsc : b ≠ escEsc) :
      Reading (p.flatMap escape ++ escOctet :: b :: rest)

theorem Reading.cons {body : Octets} (R : Reading body) (b : UInt8) :
    Reading (escape b ++ body) := by
  cases R with
  | whole p => exact .whole (b :: p)
  | dangling p =>
    rw [← List.append_assoc]
    exact .dangling (b :: p)
  | stray p rest notEnd notEsc =>
    rw [← List.append_assoc]
    exact .stray (b :: p) rest notEnd notEsc

theorem escape_of_ne {b : UInt8} (notEnd : b ≠ endOctet) (notEsc : b ≠ escOctet) :
    escape b = [b] := by
  rw [escape, if_neg notEnd, if_neg notEsc]

/-- Every stretch without END reads in one of the three ways. -/
theorem reading_of_unbroken : ∀ body : Octets, endOctet ∉ body → Reading body
  | [], _ => .whole []
  | [b], unbroken => by
    by_cases esc : b = escOctet
    · rw [esc]
      exact .dangling []
    · have plain := escape_of_ne (fun e => unbroken (e ▸ List.mem_singleton_self _)) esc
      have only := (Reading.whole []).cons b
      rwa [plain] at only
  | b :: c :: rest, unbroken => by
    have later : endOctet ∉ c :: rest := fun h => unbroken (List.mem_cons_of_mem _ h)
    by_cases esc : b = escOctet
    · have last : endOctet ∉ rest := fun h => later (List.mem_cons_of_mem _ h)
      rw [esc]
      by_cases isEnd : c = escEnd
      · rw [isEnd]
        exact (reading_of_unbroken rest last).cons endOctet
      by_cases isEsc : c = escEsc
      · rw [isEsc]
        exact (reading_of_unbroken rest last).cons escOctet
      exact .stray [] rest isEnd isEsc
    · have plain := escape_of_ne (fun e => unbroken (e ▸ List.mem_cons_self)) esc
      have longer := (reading_of_unbroken (c :: rest) later).cons b
      rwa [plain] at longer

/-- The written form of octets has no END. -/
theorem endOctet_notMem_flatMap_escape (p : Octets) : endOctet ∉ p.flatMap escape := by
  intro h
  obtain ⟨b, -, hb⟩ := List.mem_flatMap.mp h
  obtain ⟨rfl, he⟩ | ⟨rfl, he⟩ | ⟨hend, -, he⟩ := escape_cases b
  · rw [he] at hb
    exact absurd hb (by decide)
  · rw [he] at hb
    exact absurd hb (by decide)
  · rw [he] at hb
    exact hend (List.mem_singleton.mp hb).symm

namespace Decoder

/-! ## Errors -/

/-- What octets brought, beside nothing. -/
def reports (outputs : List Output) : List Output := outputs.filter (· ≠ .nothing)

@[simp] theorem reports_append (s t : List Output) :
    reports (s ++ t) = reports s ++ reports t := List.filter_append ..

@[simp] theorem reports_replicate (n : Nat) : reports (List.replicate n .nothing) = [] := by
  simp [reports]

/-- Nothing comes of what is dropped. -/
theorem run_of_discarding {d : Decoder} (lost : d.discarding = true) {body : Octets}
    (unbroken : endOctet ∉ body) : d.run body = (d, List.replicate body.length .nothing) := by
  induction body with
  | nil => rfl
  | cons b body ih =>
    have other : b ≠ endOctet := fun e => unbroken (e ▸ List.mem_cons_self)
    have dropped : d.push b = (d, .nothing) := by simp [push, other, lost]
    have later := ih fun h => unbroken (List.mem_cons_of_mem _ h)
    simp only [run, dropped, later, List.length_cons, List.replicate_succ]

/-- A decoder that comes to report an error drops the rest of the stretch, and the END too brings
nothing. -/
structure Fails (d : Decoder) (body : Octets) : Prop where
  discarding : (d.run body).1.discarding = true
  reports : ∃ e, Decoder.reports (d.run body).2 = [.failed e]

theorem Fails.append {d : Decoder} {body : Octets} (F : d.Fails body) {rest : Octets}
    (unbroken : endOctet ∉ rest) : d.Fails (body ++ rest) := by
  have dropped := run_of_discarding F.discarding unbroken
  constructor
  · rw [run_append, dropped]
    exact F.discarding
  · obtain ⟨e, he⟩ := F.reports
    refine ⟨e, ?_⟩
    rw [run_append, dropped, reports_append, he, reports_replicate, List.append_nil]

/-- A decoder that has held octets fails as it would have, had it begun with them. -/
theorem Fails.behind {d d' : Decoder} {n : Nat} {front body : Octets}
    (began : d.run front = (d', List.replicate n .nothing)) (F : d'.Fails body) :
    d.Fails (front ++ body) := by
  constructor
  · rw [run_append, began]
    exact F.discarding
  · obtain ⟨e, he⟩ := F.reports
    refine ⟨e, ?_⟩
    rw [run_append, began, reports_append, he, reports_replicate, List.nil_append]

theorem Fails.last {d d' : Decoder} {b : UInt8} {e : LinkError}
    (pushed : d.push b = (d', .failed e)) (lost : d'.discarding = true) : d.Fails [b] := by
  constructor
  · simp only [run, pushed]
    exact lost
  · refine ⟨e, ?_⟩
    simp only [run, pushed]
    rfl

/-- An ESC waits for the octet that it escapes. -/
theorem Collecting.push_esc {d : Decoder} (H : d.Collecting) :
    d.push escOctet = ({ d with escaping := true }, .nothing) := by
  simp [push, H.escaping, H.discarding, endOctet, escOctet]

theorem Collecting.run_esc {d : Decoder} (H : d.Collecting) :
    d.run [escOctet] = ({ d with escaping := true }, List.replicate 1 .nothing) := by
  simp only [run, H.push_esc, List.replicate]

/-- The error of one octet too many. -/
def overlong (d : Decoder) : LinkError := .packetTooLarge (d.maxLength + 1) d.maxLength

theorem Collecting.fails_escape {d : Decoder} (H : d.Collecting) (full : d.maxLength ≤ d.held.size)
    (b : UInt8) : d.Fails (escape b) := by
  have overflows : ∀ s, d.store s = (d.discard, .failed (overlong d)) := by
    intro s
    rw [Decoder.store, if_neg (Nat.not_lt.mpr full), overlong]
  have escaped : ∀ s, ({ d with escaping := true }.store s) =
      (d.discard, .failed (overlong d)) := by
    intro s
    rw [Decoder.store, if_neg (Nat.not_lt.mpr full), overlong]
    rfl
  obtain ⟨rfl, he⟩ | ⟨rfl, he⟩ | ⟨hend, hesc, he⟩ := escape_cases b
  · have second : ({ d with escaping := true }.push escEnd) =
        (d.discard, .failed (overlong d)) := by
      rw [← escaped endOctet]
      simp [push, H.discarding, endOctet, escEnd]
    rw [he]
    exact Fails.behind H.run_esc (.last second rfl)
  · have second : ({ d with escaping := true }.push escEsc) =
        (d.discard, .failed (overlong d)) := by
      rw [← escaped escOctet]
      simp [push, H.discarding, endOctet, escEnd, escEsc]
    rw [he]
    exact Fails.behind H.run_esc (.last second rfl)
  · have only : d.push b = (d.discard, .failed (overlong d)) := by
      rw [← overflows b]
      simp [push, hend, hesc, H.escaping, H.discarding]
    rw [he]
    exact .last only rfl

/-- A decoder that holds less than it may, and is given more than it may hold, fails. -/
theorem Collecting.fails_of_tooLong {d : Decoder} (H : d.Collecting) (p : Octets)
    (room : d.held.size ≤ d.maxLength) (long : d.maxLength < d.held.size + p.length) :
    d.Fails (p.flatMap escape) := by
  induction p generalizing d with
  | nil =>
    rw [List.length_nil] at long
    omega
  | cons b p ih =>
    rw [List.flatMap_cons]
    by_cases full : d.maxLength ≤ d.held.size
    · apply (H.fails_escape full b).append
      exact endOctet_notMem_flatMap_escape p
    · rw [List.length_cons] at long
      have less : d.held.size < d.maxLength := by omega
      have more : (d.hold b).held.size = d.held.size + 1 := Array.size_push _
      have same : (d.hold b).maxLength = d.maxLength := rfl
      exact .behind (H.run_escape less b) (ih (H.hold b) (by omega) (by omega))

/-- An ESC in front of an octet that it cannot escape. -/
theorem Collecting.fails_stray {d : Decoder} (H : d.Collecting) {b : UInt8}
    (notEnd : b ≠ endOctet) (notSubstitute : b ≠ escEnd ∧ b ≠ escEsc) :
    d.Fails [escOctet, b] := by
  have second : ({ d with escaping := true }.push b) =
      ({ d with escaping := true }.discard, .failed (.invalidEscape b)) := by
    simp [push, notEnd, notSubstitute, H.discarding]
  exact Fails.behind H.run_esc (.last second rfl)

/-! ## Stretches -/

/-- The octets of a stretch and the END behind them. -/
theorem run_concat (d : Decoder) (body : Octets) (b : UInt8) :
    (d.run (body ++ [b])).2 = (d.run body).2 ++ [((d.run body).1.push b).2] := by
  rw [run_append]
  rfl

theorem push_end_of_discarding {d : Decoder} (lost : d.discarding = true) :
    (d.push endOctet).2 = .nothing := by
  simp [push, lost]

/-- A stretch on which the decoder fails brings one error, and the END brings nothing. -/
theorem Fails.run_end {d : Decoder} {body : Octets} (F : d.Fails body) :
    ∃ e, Decoder.reports (d.run (body ++ [endOctet])).2 = [.failed e] := by
  obtain ⟨e, he⟩ := F.reports
  refine ⟨e, ?_⟩
  rw [run_concat, push_end_of_discarding F.discarding, reports_append, he]
  rfl

/-- The written form of octets that fit brings them as a packet, unless there are none. -/
theorem run_flatMap_escape_end {n : Nat} {p : Octets} (fits : p.length ≤ n) :
    ((fresh n).run (p.flatMap escape ++ [endOctet])).2 =
      List.replicate (p.flatMap escape).length .nothing ++
        [if p = [] then .nothing else .packet p] := by
  have body := (collecting_fresh n).run_flatMap_escape p (by simpa [fresh] using fits)
  have held : ((fresh n).holdAll p).held = p.toArray := by simp [holdAll, fresh]
  have last : (((fresh n).holdAll p).push endOctet).2 =
      if p = [] then .nothing else .packet p := by
    rw [Collecting.push_end ⟨rfl, rfl⟩, held]
    simp
  rw [run_concat, body, last]

/-- A decoder that has just taken an END stands between two packets. -/
theorem push_end_fst (d : Decoder) : (d.push endOctet).1 = fresh d.maxLength := by
  simp [push, reset]

/-- Of a stretch that ends behind an ESC what stands before the ESC is taken for the packet. -/
theorem run_dangling_end {n : Nat} {p : Octets} (fits : p.length ≤ n) :
    ((fresh n).run (p.flatMap escape ++ [escOctet] ++ [endOctet])).2 =
      List.replicate ((p.flatMap escape).length + 1) .nothing ++
        [if p = [] then .nothing else .packet p] := by
  have body := (collecting_fresh n).run_flatMap_escape p (by simpa [fresh] using fits)
  have begun := Collecting.push_esc (d := (fresh n).holdAll p) ⟨rfl, rfl⟩
  have last : ({ (fresh n).holdAll p with escaping := true }.push endOctet).2 =
      if p = [] then .nothing else .packet p := by
    simp [push, holdAll, fresh]
  rw [List.append_assoc, run_append, body, List.replicate_succ', List.append_assoc]
  simp only [List.cons_append, List.nil_append, run, begun, last]

/-- A stretch that ends behind an ESC is no written form of octets. -/
theorem flatMap_escape_ne_dangling (p q : Octets) :
    p.flatMap escape ≠ q.flatMap escape ++ [escOctet] := by
  intro same
  let n := p.length + q.length
  have left := (collecting_fresh n).run_flatMap_escape p (by simp [fresh, n])
  have right := (collecting_fresh n).run_flatMap_escape q (by simp [fresh, n])
  have begun := Collecting.run_esc (d := (fresh n).holdAll q) ⟨rfl, rfl⟩
  rw [same, run_append, right, begun] at left
  -- The decoder has just taken an ESC behind the one, and not behind the other.
  have escapes : true = false := congrArg (fun r => r.1.escaping) left
  cases escapes

/-- The stretch is the written form of a packet that is not empty and has `n` octets at most. -/
structure Holds (n : Nat) (packet body : Octets) : Prop where
  written : body = packet.flatMap escape
  nonempty : 1 ≤ packet.length
  fits : packet.length ≤ n

/-- A stretch is refused unless it reads as octets that fit, and nothing or an ESC behind them. -/
theorem fails_of_reading {n : Nat} {body : Octets} (R : Reading body)
    (unwritten : ∀ p : Octets, p.length ≤ n → body ≠ p.flatMap escape)
    (ended : ∀ p : Octets, p.length ≤ n → body ≠ p.flatMap escape ++ [escOctet])
    (unbroken : endOctet ∉ body) : (fresh n).Fails body := by
  have tooLong : ∀ p : Octets, n < p.length → (fresh n).Fails (p.flatMap escape) := by
    intro p long
    apply (collecting_fresh n).fails_of_tooLong p
    · exact Nat.zero_le _
    · simpa [fresh] using long
  cases R with
  | whole p =>
    apply tooLong
    exact Nat.lt_of_not_le fun fits => unwritten p fits rfl
  | dangling p =>
    apply (tooLong p (Nat.lt_of_not_le fun fits => ended p fits rfl)).append
    decide
  | stray p rest notEnd notEsc =>
    rename_i b
    have later : endOctet ∉ escOctet :: b :: rest := fun h =>
      unbroken (List.mem_append_right _ h)
    by_cases fits : p.length ≤ n
    · have body := (collecting_fresh n).run_flatMap_escape p (by simpa [fresh] using fits)
      have stray : ((fresh n).holdAll p).Fails [escOctet, b] := by
        apply Collecting.fails_stray ⟨rfl, rfl⟩
        · intro isEnd
          apply later
          simp [isEnd]
        · exact ⟨notEnd, notEsc⟩
      have last : endOctet ∉ rest := by
        intro h
        apply later
        simp [h]
      exact Fails.behind body (stray.append last)
    · exact (tooLong p (Nat.lt_of_not_le fits)).append later

theorem packet_notMem_of_reports {outputs : List Output} {e : LinkError}
    (only : reports outputs = [.failed e]) (p : Octets) : Output.packet p ∉ outputs := by
  intro h
  have reported : Output.packet p ∈ reports outputs := List.mem_filter.mpr ⟨h, by simp⟩
  rw [only] at reported
  cases List.mem_singleton.mp reported

/-- What a decoder that has just taken an END makes of the octets up to the next one: it delivers a
packet at that END, and nothing before, exactly if they are its written form and it is neither empty
nor too long; if there are none it neither delivers nor reports; and of any others it reports one
error and delivers nothing. They must not be octets in their written form, as many as fit, with
an ESC behind them. -/
theorem run_stretch (d : Decoder) {body : Octets} (unbroken : endOctet ∉ body)
    (ended : ∀ p : Octets, p.length ≤ d.maxLength → body ≠ p.flatMap escape ++ [escOctet]) :
    let outputs := ((d.push endOctet).1.run (body ++ [endOctet])).2
    (∀ p, .packet p ∈ outputs ↔ Holds d.maxLength p body) ∧
    (∀ p, .packet p ∈ outputs → outputs = List.replicate body.length .nothing ++ [.packet p]) ∧
    (body = [] → outputs = [.nothing]) ∧
    (body ≠ [] → (∀ p, ¬ Holds d.maxLength p body) → ∃ e, reports outputs = [.failed e]) := by
  intro outputs
  have whole : ∀ p, body = p.flatMap escape → p.length ≤ d.maxLength →
      outputs =
        List.replicate body.length .nothing ++ [if p = [] then .nothing else .packet p] := by
    intro p written fits
    rw [written, ← run_flatMap_escape_end fits, ← push_end_fst, ← written]
  by_cases reads : ∃ p : Octets, p.length ≤ d.maxLength ∧ body = p.flatMap escape
  · obtain ⟨p, fits, written⟩ := reads
    have brought := whole p written fits
    have delivered : ∀ q, .packet q ∈ outputs → q = p ∧ p ≠ [] := by
      intro q h
      rw [brought] at h
      obtain h | h := List.mem_append.mp h
      · cases List.eq_of_mem_replicate h
      · split at h
        · cases List.mem_singleton.mp h
        · next some => cases List.mem_singleton.mp h; exact ⟨rfl, some⟩
    refine ⟨fun q => ⟨fun h => ?_, fun H => ?_⟩, fun q h => ?_, fun none => ?_,
      fun some alien => ?_⟩
    · obtain ⟨rfl, some⟩ := delivered q h
      exact ⟨written, List.length_pos_iff.mpr some, fits⟩
    · rw [whole q H.written H.fits, if_neg (List.length_pos_iff.mp H.nonempty)]
      exact List.mem_append_right _ (List.mem_singleton_self _)
    · obtain ⟨rfl, some⟩ := delivered q h
      rw [brought, if_neg some]
    · have empty : body = ([] : Octets).flatMap escape := none
      rw [whole [] empty (Nat.zero_le _), none]
      rfl
    · exfalso
      apply alien p
      refine ⟨written, ?_, fits⟩
      apply List.length_pos_iff.mpr
      rintro rfl
      exact some written
  · have refused : (fresh d.maxLength).Fails body := by
      apply fails_of_reading (reading_of_unbroken body unbroken) _ ended unbroken
      intro p fits written
      exact reads ⟨p, fits, written⟩
    obtain ⟨e, only⟩ := refused.run_end
    rw [← push_end_fst] at only
    have silent := packet_notMem_of_reports only
    refine ⟨fun q => ⟨fun h => ?_, fun H => ?_⟩, fun q h => ?_, fun none => ?_, fun _ _ => ?_⟩
    · exact absurd h (silent q)
    · exact absurd ⟨q, H.fits, H.written⟩ reads
    · exact absurd h (silent q)
    · exact absurd ⟨[], Nat.zero_le _, none⟩ reads
    · exact ⟨e, only⟩

/-- A decoder in the middle of a lost packet, and a packet as long as it accepts, with an END. -/
theorem run_stretch_full :
    endOctet ∉ [escOctet, escEnd, 0x42] ∧
    (∀ p : Octets, p.length ≤ 2 → [escOctet, escEnd, 0x42] ≠ p.flatMap escape ++ [escOctet]) ∧
    (((Decoder.mk #[1, 2] 2 true true).push endOctet).1.run
        ([escOctet, escEnd, 0x42] ++ [endOctet])).2 =
      List.replicate 3 .nothing ++ [.packet [endOctet, 0x42]] := by
  have unbroken : endOctet ∉ [escOctet, escEnd, 0x42] := by decide
  have ended : ∀ p : Octets, p.length ≤ 2 →
      [escOctet, escEnd, 0x42] ≠ p.flatMap escape ++ [escOctet] := by
    intro p _ same
    have last : (0x42 : UInt8) = escOctet := by simpa using congrArg List.getLast? same
    exact absurd last (by decide)
  have stretch := run_stretch ⟨#[1, 2], 2, true, true⟩ unbroken ended
  have holds : Holds 2 [endOctet, 0x42] [escOctet, escEnd, 0x42] := ⟨rfl, by decide, by decide⟩
  exact ⟨unbroken, ended, stretch.2.1 _ ((stretch.1 _).mpr holds)⟩

/-- A packet is delivered of a stretch that is no packet's written form. -/
theorem run_danglingEscape :
    endOctet ∉ [0x41, escOctet] ∧
    (((fresh 10).push endOctet).1.run ([0x41, escOctet] ++ [endOctet])).2 =
      [.nothing, .nothing, .packet [0x41]] ∧
    ∀ p, ¬ Holds 10 p [0x41, escOctet] := by
  refine ⟨by decide, ?_, ?_⟩
  · have dangling := run_dangling_end (n := 10) (p := [0x41]) (by decide)
    rw [push_end_fst]
    exact dangling
  · intro p holds
    apply flatMap_escape_ne_dangling p [0x41]
    exact holds.written.symm

end Decoder
end Slip
end CommandLink
