import CommandLink.Proofs.Endpoint.Lists
import CommandLink.Wire.Incoming

/-! # A link that loses and repeats frames

A sender numbers its frames one after the other. On the way a frame may be lost or arrive several
times, back to back (`Passage`); the order stays. A receiver that has heard nothing before and
exempts none of the frames (`Reception`) keeps each frame that gets through exactly once, counts the
copies beyond the first as repeats, and counts one gap for each burst of lost frames between two
that get through (`Passage.reception`). Sixteen numbers suffice for that as long as a burst is not
longer than fourteen frames: behind fifteen the next frame would pass for a repeat. -/

namespace CommandLink

/-- A frame as it travels, with what an endpoint makes of its octets. -/
structure SoundFrame where
  octets : Octets
  header : Header
  stream : StreamId
  payload : Octets
  sound : Incoming.ofOctets octets = .frame header stream payload

namespace SoundFrame

def seq (f : SoundFrame) : SeqNum := f.header.seq

def kind (f : SoundFrame) : Option FrameKind := FrameKind.ofCode? f.header.kind

/-- The payload of a frame that is of a kind and on a stream. -/
def payloadOn (kind : FrameKind) (stream : StreamId) (f : SoundFrame) : Option Octets :=
  if f.kind = some kind ∧ f.stream = stream then some f.payload else none

end SoundFrame

/-- A frame on its way. -/
structure Crossing where
  frame : SoundFrame
  /-- The copies that arrive: none if the frame is lost. -/
  copies : Nat

/-- Frames in the order in which they were sent. -/
abbrev Passage := List Crossing

namespace Passage

/-- What arrives, in order. -/
def arrivals (ps : Passage) : List SoundFrame := ps.flatMap fun x => List.replicate x.copies x.frame

/-- The frames that get through. -/
def survivors (ps : Passage) : List SoundFrame :=
  (ps.filter fun x => x.copies ≠ 0).map Crossing.frame

/-- The copies beyond the first. -/
def extras (ps : Passage) : Nat := total (fun x => x.copies - 1) ps

/-- The places at which a burst of lost frames ends with one that gets through. -/
def endings : Passage → Nat
  | x :: y :: rest => (if x.copies = 0 ∧ y.copies ≠ 0 then 1 else 0) + endings (y :: rest)
  | _ => 0

/-- The bursts of lost frames between two frames that get through. -/
def bursts (ps : Passage) : Nat := endings (ps.dropWhile fun x => x.copies = 0)

/-- The numbers follow one another modulo 16, beginning with `first`. -/
def NumberedFrom (first : Nat) (ps : Passage) : Prop :=
  ∀ i x, ps[i]? = some x → x.frame.seq.val = (first + i) % 16

/-- No more than `n` frames in a row are lost. -/
def LosesAtMost (n : Nat) (ps : Passage) : Prop :=
  ∀ run, run <:+: ps → (∀ x ∈ run, x.copies = 0) → run.length ≤ n

theorem numberedFrom_nil (first : Nat) : NumberedFrom first [] := fun _ _ h => nomatch h

theorem numberedFrom_cons {first : Nat} {x : Crossing} {ps : Passage} :
    NumberedFrom first (x :: ps) ↔
      x.frame.seq.val = first % 16 ∧ NumberedFrom (first + 1) ps := by
  constructor
  · intro H
    refine ⟨H 0 x rfl, fun i y hy => ?_⟩
    rw [H (i + 1) y hy]
    congr 1
    omega
  · rintro ⟨here, rest⟩ i y hy
    cases i with
    | zero =>
      cases hy
      exact here
    | succ i =>
      rw [rest i y hy]
      congr 1
      omega

theorem LosesAtMost.of_length {n : Nat} {ps : Passage} (h : ps.length ≤ n) : LosesAtMost n ps :=
  fun _ hrun _ => Nat.le_trans hrun.length_le h

theorem LosesAtMost.of_infix {n : Nat} {ps qs : Passage} (H : LosesAtMost n qs) (h : ps <:+: qs) :
    LosesAtMost n ps := fun run hrun => H run (hrun.trans h)

@[simp] theorem endings_nil : endings [] = 0 := rfl

theorem endings_cons_of_some {x : Crossing} (hx : x.copies ≠ 0) (ps : Passage) :
    endings (x :: ps) = endings ps := by
  cases ps with
  | nil => rfl
  | cons y ps => simp [endings, hx]

/-- A burst, or none, before a frame that gets through. -/
theorem endings_append {lost : Passage} (hl : ∀ x ∈ lost, x.copies = 0) {y : Crossing}
    (hy : y.copies ≠ 0) (ps : Passage) :
    endings (lost ++ y :: ps) = (if lost = [] then 0 else 1) + endings ps := by
  induction lost with
  | nil => simpa using endings_cons_of_some hy ps
  | cons x lost ih =>
    have hx : x.copies = 0 := hl x List.mem_cons_self
    have rest := ih fun z hz => hl z (List.mem_cons_of_mem x hz)
    cases lost with
    | nil =>
      rw [List.nil_append] at rest
      simp [endings, hx, hy, endings_cons_of_some hy]
    | cons z lost =>
      have hz : z.copies = 0 := hl z (List.mem_cons_of_mem x List.mem_cons_self)
      rw [List.cons_append] at rest
      simp [endings, hz, rest]

theorem endings_of_lost {lost : Passage} (hl : ∀ x ∈ lost, x.copies = 0) : endings lost = 0 := by
  induction lost with
  | nil => rfl
  | cons x lost ih =>
    have rest := ih fun z hz => hl z (List.mem_cons_of_mem x hz)
    cases lost with
    | nil => rfl
    | cons z lost =>
      have hz : z.copies = 0 := hl z (List.mem_cons_of_mem x List.mem_cons_self)
      simp [endings, hz, rest]

end Passage

/-! ## A receiver that exempts no frame -/

/-- What a receiver has made of the frames that have arrived. -/
structure Reception where
  inbound : Inbound
  /-- The frames that it has acted upon. -/
  kept : List SoundFrame
  repeats : Nat
  gaps : Nat

namespace Reception

def fresh : Reception := ⟨.fresh, [], 0, 0⟩

def hear (r : Reception) (f : SoundFrame) : Reception :=
  if r.inbound.isRepeat f.seq then
    { r with repeats := r.repeats + 1, inbound := r.inbound.record f.seq }
  else
    { r with
      kept := r.kept ++ [f]
      gaps := if r.inbound.isGap f.seq then r.gaps + 1 else r.gaps
      inbound := r.inbound.record f.seq }

/-- What a receiver has made of frames, if it has heard nothing before. -/
def ofFrames (fs : List SoundFrame) : Reception := fs.foldl hear fresh

@[simp] theorem ofFrames_nil : ofFrames [] = fresh := rfl

@[simp] theorem ofFrames_concat (fs : List SoundFrame) (f : SoundFrame) :
    ofFrames (fs ++ [f]) = (ofFrames fs).hear f := by
  simp [ofFrames]

/-- All copies of the frame heard last are repeats. -/
theorem hear_replicate {r : Reception} {f : SoundFrame} (h : r.inbound = ⟨some f.seq⟩) (n : Nat) :
    (List.replicate n f).foldl hear r = { r with repeats := r.repeats + n } := by
  induction n generalizing r with
  | zero => rfl
  | succ n ih =>
    have again : r.hear f = { r with repeats := r.repeats + 1 } := by
      simp [hear, h, Inbound.isRepeat, Inbound.record]
    have rest := ih (r := { r with repeats := r.repeats + 1 }) h
    rw [List.replicate_succ, List.foldl_cons, again, rest]
    simp only [Nat.add_assoc, Nat.add_comm 1 n]

/-- The copies of a frame that is no repeat. -/
theorem hear_copies {r : Reception} {f : SoundFrame} (h : r.inbound.isRepeat f.seq = false)
    (n : Nat) :
    (List.replicate (n + 1) f).foldl hear r =
      { inbound := ⟨some f.seq⟩
        kept := r.kept ++ [f]
        repeats := r.repeats + n
        gaps := if r.inbound.isGap f.seq then r.gaps + 1 else r.gaps } := by
  have first : r.hear f =
      { r with
        kept := r.kept ++ [f]
        gaps := if r.inbound.isGap f.seq then r.gaps + 1 else r.gaps
        inbound := ⟨some f.seq⟩ } := by
    simp [hear, h, Inbound.record]
  rw [List.replicate_succ, List.foldl_cons, first, hear_replicate rfl]

end Reception

namespace Passage

open Reception

/-- The frames behind one that the receiver has seen under the number `last`. Of the frames since
then, `lost` were lost. -/
theorem hear_arrivals {ps lost : Passage} {r : Reception} {s : SeqNum} {last : Nat}
    (hr : r.inbound = ⟨some s⟩) (hs : s.val = last % 16) (hl : ∀ x ∈ lost, x.copies = 0)
    (short : LosesAtMost 14 (lost ++ ps)) (numbered : NumberedFrom (last + 1 + lost.length) ps) :
    ∃ inbound, ps.arrivals.foldl hear r =
      ⟨inbound, r.kept ++ ps.survivors, r.repeats + ps.extras, r.gaps + endings (lost ++ ps)⟩ := by
  induction ps generalizing lost r s last with
  | nil =>
    refine ⟨r.inbound, ?_⟩
    simp [arrivals, survivors, extras, total, endings_of_lost hl]
  | cons x ps ih =>
    have arrive : arrivals (x :: ps) = List.replicate x.copies x.frame ++ arrivals ps := rfl
    rw [arrive, List.foldl_append]
    by_cases hx : x.copies = 0
    · -- one more frame of the burst
      have hl' : ∀ y ∈ lost ++ [x], y.copies = 0 := by
        intro y hy
        rcases List.mem_append.mp hy with hy | hy
        · exact hl y hy
        · exact List.mem_singleton.mp hy ▸ hx
      have numbered' : NumberedFrom (last + 1 + (lost ++ [x]).length) ps := by
        rw [List.length_append, List.length_singleton, ← Nat.add_assoc]
        exact (numberedFrom_cons.mp numbered).2
      obtain ⟨inbound, h⟩ := ih hr hs hl' (by simpa using short) numbered'
      refine ⟨inbound, ?_⟩
      rw [hx, List.replicate_zero, List.foldl_nil, h]
      simp [survivors, extras, total, hx]
    · -- the burst ends, if there was one
      obtain ⟨n, hn⟩ := Nat.exists_eq_succ_of_ne_zero hx
      have few : lost.length ≤ 14 := short lost (List.prefix_append lost _).isInfix hl
      obtain ⟨seq, tail⟩ := numberedFrom_cons.mp numbered
      have fresh : r.inbound.isRepeat x.frame.seq = false := by
        simp only [hr, Inbound.isRepeat, Option.some_beq_some, beq_eq_false_iff_ne, ne_eq,
          Fin.ext_iff]
        omega
      have gap : r.inbound.isGap x.frame.seq = true ↔ lost ≠ [] := by
        have next : s.next.val = (s.val + 1) % 16 := rfl
        simp only [hr, Inbound.isGap, Inbound.expected, Option.map_some, bne_iff_ne, ne_eq,
          Fin.ext_iff, next, ← List.length_eq_zero_iff]
        omega
      have again :
          last + 1 + lost.length + 1 = (last + 1 + lost.length) + 1 + ([] : Passage).length :=
        rfl
      have none_lost : ∀ y ∈ ([] : Passage), y.copies = 0 := fun y hy => (List.not_mem_nil hy).elim
      obtain ⟨inbound, h⟩ := ih (r := (List.replicate x.copies x.frame).foldl hear r)
        (s := x.frame.seq) (by rw [hn, hear_copies fresh]) seq none_lost
        (short.of_infix ⟨lost ++ [x], [], by simp⟩) (again ▸ tail)
      refine ⟨inbound, ?_⟩
      rw [h, hn, hear_copies fresh, endings_append hl hx]
      by_cases hlost : lost = []
      · simp [hlost, mt gap.mp, survivors, extras, total, hn, Nat.add_assoc]
      · simp [hlost, gap.mpr hlost, survivors, extras, total, hn, Nat.add_assoc]

/-- What a receiver that has heard nothing before makes of a passage. -/
theorem reception {ps : Passage} {first : Nat} (numbered : ps.NumberedFrom first)
    (short : ps.LosesAtMost 14) :
    ∃ inbound, Reception.ofFrames ps.arrivals =
      ⟨inbound, ps.survivors, ps.extras, ps.bursts⟩ := by
  induction ps generalizing first with
  | nil => exact ⟨.fresh, rfl⟩
  | cons x ps ih =>
    have arrive : arrivals (x :: ps) = List.replicate x.copies x.frame ++ arrivals ps := rfl
    rw [ofFrames, arrive, List.foldl_append]
    by_cases hx : x.copies = 0
    · obtain ⟨inbound, h⟩ := ih (numberedFrom_cons.mp numbered).2
        (short.of_infix ⟨[x], [], by simp⟩)
      refine ⟨inbound, ?_⟩
      rw [hx, List.replicate_zero, List.foldl_nil]
      rw [ofFrames] at h
      rw [h]
      simp [survivors, extras, total, bursts, hx]
    · obtain ⟨n, hn⟩ := Nat.exists_eq_succ_of_ne_zero hx
      have unseen : Reception.fresh.inbound.isRepeat x.frame.seq = false := rfl
      have none_lost : ∀ y ∈ ([] : Passage), y.copies = 0 := fun y hy => (List.not_mem_nil hy).elim
      obtain ⟨inbound, h⟩ := hear_arrivals
        (r := (List.replicate x.copies x.frame).foldl hear .fresh) (s := x.frame.seq)
        (by rw [hn, hear_copies unseen]) (numberedFrom_cons.mp numbered).1 none_lost
        (short.of_infix ⟨[x], [], by simp⟩) (numberedFrom_cons.mp numbered).2
      refine ⟨inbound, ?_⟩
      rw [h, hn, hear_copies unseen]
      simp [survivors, extras, total, bursts, hn, endings_cons_of_some, Reception.fresh]

end Passage
end CommandLink
