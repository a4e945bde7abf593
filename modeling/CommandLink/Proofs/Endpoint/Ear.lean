import CommandLink.Endpoint.LinkStats
import CommandLink.Proofs.Wire.Numbering

/-! # The receiving half of an endpoint

What an endpoint remembers and counts of the frames that it has received, as a value on its own.
`Ear.hear` takes in one frame: at once, or, if the frame has to be passed on first, with its number
pending until `Ear.pass`. An ear that has heard certain frames (`Ear.Of`) has counted what the
receiver's discipline says of them; so has one that has gone on from another ear (`Ear.Since`). -/

namespace CommandLink

structure Ear where
  inbound : Inbound
  /-- The number of the frame that is being passed on. -/
  pending : Option SeqNum
  received : Nat
  dropped : Nat
  repeats : Nat
  gaps : Nat

namespace Ear

def fresh : Ear := ⟨.fresh, none, 0, 0, 0, 0⟩

/-- The ear of an endpoint with the given counters. -/
def of (inbound : Inbound) (pending : Option SeqNum) (stats : LinkStats) : Ear :=
  ⟨inbound, pending, stats.received, stats.dropped, stats.repeats, stats.gaps⟩

/-- The counters of an endpoint that has sent `sent` frames. -/
def stats (e : Ear) (sent : Nat) : LinkStats := ⟨sent, e.received, e.dropped, e.repeats, e.gaps⟩

/-- Counts a frame and remembers its number. -/
def settle (D : Discipline) (e : Ear) (p : Post) : Ear :=
  { e with
    repeats := if D.verdict e.inbound p = .again then e.repeats + 1 else e.repeats
    gaps := if D.verdict e.inbound p = .gap then e.gaps + 1 else e.gaps
    inbound := D.after e.inbound p }

/-- Takes in a frame. A repeat does not wait. -/
def hear (D : Discipline) (e : Ear) (p : Post) (waits : Bool) : Ear :=
  let e := { e with received := e.received + 1 }
  if waits ∧ D.verdict e.inbound p ≠ .again then { e with pending := some p.seq }
  else e.settle D p

/-- The frame at hand has been passed on. -/
def pass (e : Ear) : Ear :=
  match e.pending with
  | some s =>
    { e with
      pending := none
      gaps := if e.inbound.isGap s then e.gaps + 1 else e.gaps
      inbound := e.inbound.record s }
  | none => e

theorem of_stats (e : Ear) (sent : Nat) : of e.inbound e.pending (e.stats sent) = e := rfl

theorem pending_hear {D : Discipline} {e : Ear} (h : e.pending = none) (p : Post) (waits : Bool) :
    (e.hear D p waits).pending =
      if waits && D.verdict e.inbound p != .again then some p.seq else none := by
  unfold hear
  cases waits with
  | false => simpa [settle] using h
  | true =>
    by_cases hv : D.verdict e.inbound p = .again
    · simpa [settle, hv] using h
    · simp [hv]

@[simp] theorem pass_of_none {e : Ear} (h : e.pending = none) : e.pass = e := by
  simp [pass, h]

@[simp] theorem pending_pass (e : Ear) : e.pass.pending = none := by
  cases h : e.pending <;> simp [pass, h]

/-- Passing the frame on makes up for what taking it in has put off. -/
theorem pass_hear {D : Discipline} {e : Ear} {p : Post} (hpending : e.pending = none)
    {waits : Bool} (hw : waits = true → D.excuses p.kind = false ∧ D.forgets p.kind = false) :
    (e.hear D p waits).pass = e.hear D p false := by
  unfold hear
  simp only
  split
  · next h =>
    obtain ⟨he, hf⟩ := hw h.1
    have gap : D.verdict e.inbound p = .gap ↔ e.inbound.isGap p.seq = true := by
      simp [Discipline.verdict_eq_gap_iff h.2, he]
    simp [pass, settle, Discipline.after, hf, gap, h.2, hpending]
  · simp [pass, settle, hpending]

/-- A count of gaps only grows. -/
theorem gaps_le_hear (D : Discipline) (e : Ear) (p : Post) (waits : Bool) :
    e.gaps ≤ (e.hear D p waits).gaps := by
  unfold hear settle
  simp only
  split
  · exact Nat.le_refl _
  · simp only
    split <;> omega

theorem gaps_le_pass (e : Ear) : e.gaps ≤ e.pass.gaps := by
  unfold pass
  split
  · simp only
    split <;> omega
  · exact Nat.le_refl _

/-! ## Ears that have heard certain frames -/

/-- The ear of an endpoint that has gone on from `e₀` and has received `posts` since. -/
structure Since (D : Discipline) (e₀ e : Ear) (posts : List Post) : Prop where
  inbound : e.pass.inbound = posts.foldl D.after e₀.pass.inbound
  received : e.received = e₀.received + posts.length
  dropped : e.dropped = e₀.dropped
  repeats : e.repeats = e₀.repeats + (D.verdictsFrom e₀.pass.inbound posts).count .again
  gaps : e.pass.gaps = e₀.pass.gaps + (D.verdictsFrom e₀.pass.inbound posts).count .gap

/-- The ear of an endpoint that has received `posts` and nothing else. -/
structure Of (D : Discipline) (e : Ear) (posts : List Post) : Prop where
  inbound : e.pass.inbound = D.afterAll posts
  received : e.received = posts.length
  dropped : e.dropped = 0
  repeats : e.repeats = (D.verdicts posts).count .again
  gaps : e.pass.gaps = (D.verdicts posts).count .gap

variable {D : Discipline} {e₀ e : Ear} {posts : List Post} {p : Post}

theorem of_iff_since : Of D e posts ↔ Since D .fresh e posts := by
  constructor
  · intro H
    exact ⟨H.inbound, by rw [H.received]; exact (Nat.zero_add _).symm, H.dropped,
      by rw [H.repeats]; exact (Nat.zero_add _).symm, by rw [H.gaps]; exact (Nat.zero_add _).symm⟩
  · intro H
    exact ⟨H.inbound, H.received.trans (Nat.zero_add _), H.dropped,
      H.repeats.trans (Nat.zero_add _), H.gaps.trans (Nat.zero_add _)⟩

theorem Since.refl (e : Ear) : Since D e e [] := ⟨rfl, rfl, rfl, rfl, rfl⟩

theorem Of.fresh : Of D .fresh [] := ⟨rfl, rfl, rfl, rfl, rfl⟩

theorem received_pass (e : Ear) : e.pass.received = e.received := by
  unfold pass
  split <;> rfl

theorem dropped_pass (e : Ear) : e.pass.dropped = e.dropped := by
  unfold pass
  split <;> rfl

theorem repeats_pass (e : Ear) : e.pass.repeats = e.repeats := by
  unfold pass
  split <;> rfl

theorem pass_pass (e : Ear) : e.pass.pass = e.pass := pass_of_none (pending_pass e)

/-- It does not matter whether the frame at hand has been passed on. -/
theorem since_pass_iff : Since D e₀ e.pass posts ↔ Since D e₀ e posts := by
  constructor
  · intro H
    exact ⟨by rw [← H.inbound, pass_pass], by rw [← H.received, received_pass],
      by rw [← H.dropped, dropped_pass], by rw [← H.repeats, repeats_pass],
      by rw [← H.gaps, pass_pass]⟩
  · intro H
    exact ⟨by rw [pass_pass, H.inbound], by rw [received_pass, H.received],
      by rw [dropped_pass, H.dropped], by rw [repeats_pass, H.repeats],
      by rw [pass_pass, H.gaps]⟩

theorem of_pass_iff : Of D e.pass posts ↔ Of D e posts := by
  rw [of_iff_since, of_iff_since, since_pass_iff]

/-- Taking in one more frame, whether or not it has to be passed on. -/
theorem Since.hear (H : Since D e₀ e posts) (hpending : e.pending = none) {waits : Bool}
    (hw : waits = true → D.excuses p.kind = false ∧ D.forgets p.kind = false) :
    Since D e₀ (e.hear D p waits) (posts ++ [p]) := by
  rw [← since_pass_iff, pass_hear hpending hw]
  obtain ⟨inbound, received, dropped, repeats, gaps⟩ := H
  rw [pass_of_none hpending] at inbound gaps
  have heard : e.hear D p false = { e with received := e.received + 1 }.settle D p := by
    simp [Ear.hear]
  have settled : (e.hear D p false).pending = none := by rw [heard]; exact hpending
  have judged : D.verdictsFrom e₀.pass.inbound (posts ++ [p]) =
      D.verdictsFrom e₀.pass.inbound posts ++ [D.verdict e.inbound p] := by
    rw [Discipline.verdictsFrom_append, ← inbound]
    rfl
  constructor
  · rw [pass_of_none settled, heard, List.foldl_append, ← inbound]
    rfl
  · simp [heard, settle, received, Nat.add_assoc]
  · rw [heard]
    exact dropped
  · simp only [heard, settle, judged, List.count_append, repeats]
    split
    · next h => simp [h, Nat.add_assoc]
    · next h => simp [h]
  · rw [pass_of_none settled, heard]
    simp only [settle, judged, List.count_append, gaps]
    split
    · next h => simp [h, Nat.add_assoc]
    · next h => simp [h]

theorem Of.hear (H : Of D e posts) (hpending : e.pending = none) {waits : Bool}
    (hw : waits = true → D.excuses p.kind = false ∧ D.forgets p.kind = false) :
    Of D (e.hear D p waits) (posts ++ [p]) :=
  of_iff_since.mpr ((of_iff_since.mp H).hear hpending hw)

/-- An ear that has gone on with nothing but next frames counts neither repeats nor gaps. -/
theorem Since.unblemished (H : Since D e₀ e posts)
    (hs : ∀ v ∈ D.verdictsFrom e₀.pass.inbound posts, v = .next) :
    e.repeats = e₀.repeats ∧ e.pass.gaps = e₀.pass.gaps ∧ e.dropped = e₀.dropped := by
  have none_of : ∀ v, v ≠ .next → (D.verdictsFrom e₀.pass.inbound posts).count v = 0 :=
    fun v hv => List.count_eq_zero.mpr fun h => hv (hs v h)
  exact ⟨by rw [H.repeats, none_of _ (by decide)]; rfl,
    by rw [H.gaps, none_of _ (by decide)]; rfl, H.dropped⟩

/-- An ear that has heard nothing but next frames has counted neither repeats nor gaps. -/
theorem Of.unblemished (H : Of D e posts) (hs : ∀ v ∈ D.verdicts posts, v = .next) :
    e.repeats = 0 ∧ e.gaps = 0 ∧ e.dropped = 0 := by
  obtain ⟨repeats, gaps, dropped⟩ := (of_iff_since.mp H).unblemished hs
  exact ⟨repeats, Nat.eq_zero_of_le_zero (Nat.le_trans e.gaps_le_pass (Nat.le_of_eq gaps)),
    dropped⟩

end Ear
end CommandLink
