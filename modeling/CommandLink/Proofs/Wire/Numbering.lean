import CommandLink.Proofs.Wire.Post

/-! # Numbering along a direction of the link

Each receiver judges a frame by its number and by what it has seen last, and each exempts some kinds
of frames. `Discipline` says which; `Discipline.verdict` is the judgement on one frame, and
`Discipline.verdicts` the judgements on all frames of a direction, from its first.

A direction is in step with its sender (`Discipline.InStep`) if none of its frames is a repeat or a
gap, and the receiver, once it has heard them all, remembers either nothing or the number that the
sender used last. A sender keeps in step by giving each frame the next number, and by giving any
number it likes to a frame that the receiver exempts. -/

namespace CommandLink

/-- What a receiver makes of a frame's number. -/
inductive Verdict
  | next
  /-- The number seen last, once more. -/
  | again
  | gap
  deriving DecidableEq

/-- How a receiver treats the kinds of frames. -/
structure Discipline where
  /-- Taken even with the number seen last. -/
  readmits : FrameKind → Bool
  /-- Never taken as a sign of lost frames. -/
  excuses : FrameKind → Bool
  /-- After it the receiver remembers nothing. -/
  forgets : FrameKind → Bool
  readmits_of_forgets : ∀ kind, forgets kind = true → readmits kind = true

namespace SeqNum

theorem val_next (s : SeqNum) : s.next.val = (s.val + 1) % 16 := rfl

theorem next_ne_self (s : SeqNum) : s.next ≠ s := by
  revert s
  decide

end SeqNum

namespace Discipline

/-- What an agent exempts: a sync request repeats the number of the frame before, and a request to
reset is followed whatever its number. -/
def agent : Discipline where
  readmits kind := kind == .agentReset || kind == .syncRequest
  excuses kind := kind == .syncRequest
  forgets kind := kind == .agentReset
  readmits_of_forgets kind h := by simp [eq_of_beq h]

/-- What a controller exempts: an agent that starts begins its numbers anew. -/
def controller : Discipline where
  readmits kind := kind == .agentStart
  excuses kind := kind == .agentStart
  forgets _ := false
  readmits_of_forgets _ h := absurd h (by decide)

def verdict (D : Discipline) (r : Inbound) (p : Post) : Verdict :=
  if r.isRepeat p.seq && !D.readmits p.kind then .again
  else if r.isGap p.seq && !D.excuses p.kind then .gap
  else .next

/-- What a receiver remembers after a frame. -/
def after (D : Discipline) (r : Inbound) (p : Post) : Inbound :=
  if D.forgets p.kind then .fresh else r.record p.seq

/-- What a receiver remembers after frames. -/
def afterAll (D : Discipline) (posts : List Post) : Inbound := posts.foldl D.after .fresh

/-- The judgements on frames by a receiver that remembers `r`. -/
def verdictsFrom (D : Discipline) (r : Inbound) : List Post → List Verdict
  | [] => []
  | p :: rest => D.verdict r p :: D.verdictsFrom (D.after r p) rest

/-- The judgements on the frames of a direction. -/
def verdicts (D : Discipline) (posts : List Post) : List Verdict := D.verdictsFrom .fresh posts

variable (D : Discipline)

@[simp] theorem afterAll_nil : D.afterAll [] = .fresh := rfl

@[simp] theorem afterAll_concat (posts : List Post) (p : Post) :
    D.afterAll (posts ++ [p]) = D.after (D.afterAll posts) p := by
  simp [afterAll]

@[simp] theorem verdicts_nil : D.verdicts [] = [] := rfl

theorem verdictsFrom_append (r : Inbound) (ps qs : List Post) :
    D.verdictsFrom r (ps ++ qs) =
      D.verdictsFrom r ps ++ D.verdictsFrom (ps.foldl D.after r) qs := by
  induction ps generalizing r with
  | nil => rfl
  | cons p ps ih => simp [verdictsFrom, ih]

@[simp] theorem verdicts_concat (posts : List Post) (p : Post) :
    D.verdicts (posts ++ [p]) = D.verdicts posts ++ [D.verdict (D.afterAll posts) p] :=
  D.verdictsFrom_append .fresh posts [p]

@[simp] theorem length_verdicts (posts : List Post) :
    (D.verdicts posts).length = posts.length := by
  suffices H : ∀ r, (D.verdictsFrom r posts).length = posts.length from H _
  induction posts with
  | nil => intro r; rfl
  | cons p posts ih => intro r; simp [verdictsFrom, ih]

/-- A judgement depends on the frames before alone. -/
theorem verdictsFrom_take (r : Inbound) (posts : List Post) (n : Nat) :
    D.verdictsFrom r (posts.take n) = (D.verdictsFrom r posts).take n := by
  induction posts generalizing n r with
  | nil => simp [verdictsFrom]
  | cons p posts ih =>
    cases n with
    | zero => rfl
    | succ n => exact congrArg (D.verdict r p :: ·) (ih (D.after r p) n)

theorem verdicts_take (posts : List Post) (n : Nat) :
    D.verdicts (posts.take n) = (D.verdicts posts).take n :=
  D.verdictsFrom_take .fresh posts n

/-! ## Sender and receiver in step -/

/-- To a receiver that remembers `r` nothing on the way is a repeat or a gap, and the sender's next
number will not be one either. -/
structure InStepFrom (r : Inbound) (posts : List Post) (t : Outbound) : Prop where
  smooth : ∀ v ∈ D.verdictsFrom r posts, v = .next
  joined : (posts.foldl D.after r).lastSeen = none ∨
    (posts.foldl D.after r).lastSeen = t.lastSent

/-- The same to a receiver that has heard nothing before. -/
structure InStep (posts : List Post) (t : Outbound) : Prop where
  smooth : ∀ v ∈ D.verdicts posts, v = .next
  joined : (D.afterAll posts).lastSeen = none ∨ (D.afterAll posts).lastSeen = t.lastSent

variable {D} {posts : List Post} {t : Outbound} {p : Post}

theorem inStep_iff : D.InStep posts t ↔ D.InStepFrom .fresh posts t :=
  ⟨fun H => ⟨H.smooth, H.joined⟩, fun H => ⟨H.smooth, H.joined⟩⟩

theorem InStep.nil (t : Outbound) : D.InStep [] t :=
  ⟨fun _ h => (List.not_mem_nil h).elim, .inl rfl⟩

theorem InStepFrom.concat {r : Inbound} (H : D.InStepFrom r posts t)
    (hv : D.verdict (posts.foldl D.after r) p = .next) (u : Outbound) :
    D.InStepFrom r (posts ++ [p]) (u.commit p.seq) := by
  constructor
  · intro v h
    rw [verdictsFrom_append] at h
    rcases List.mem_append.mp h with h | h
    · exact H.smooth v h
    · exact (List.mem_singleton.mp h).trans hv
  · rw [List.foldl_append]
    simp only [List.foldl_cons, List.foldl_nil, after]
    split
    · exact .inl rfl
    · exact .inr rfl

theorem verdict_of_lastSeen_none {r : Inbound} (h : r.lastSeen = none) (p : Post) :
    D.verdict r p = .next := by
  simp [verdict, Inbound.isRepeat, Inbound.isGap, Inbound.expected, h]

theorem verdict_eq_again_iff {r : Inbound} :
    D.verdict r p = .again ↔ r.isRepeat p.seq = true ∧ D.readmits p.kind = false := by
  unfold verdict
  split
  · next h => simpa using h
  · next h =>
    split <;> simpa using h

theorem verdict_eq_gap_iff {r : Inbound} (h : D.verdict r p ≠ .again) :
    D.verdict r p = .gap ↔ r.isGap p.seq = true ∧ D.excuses p.kind = false := by
  unfold verdict at h ⊢
  split at h
  · exact absurd rfl h
  · next hr =>
    rw [if_neg hr]
    split
    · next hg => simpa using hg
    · next hg => simpa using hg

theorem after_of_again {r : Inbound} (h : D.verdict r p = .again) :
    D.after r p = r.record p.seq := by
  have kept : D.forgets p.kind = false := by
    cases hf : D.forgets p.kind with
    | false => rfl
    | true =>
      have hr := (verdict_eq_again_iff.mp h).2
      rw [D.readmits_of_forgets _ hf] at hr
      cases hr
  simp [after, kept]

theorem verdict_of_exempt (hr : D.readmits p.kind = true) (he : D.excuses p.kind = true)
    (r : Inbound) : D.verdict r p = .next := by
  simp [verdict, hr, he]

theorem verdict_of_next {r : Inbound} {s : SeqNum} (h : r.lastSeen = some s)
    (hp : p.seq = s.next) : D.verdict r p = .next := by
  have ne := s.next_ne_self
  simp [verdict, Inbound.isRepeat, Inbound.isGap, Inbound.expected, h, hp, ne.symm]

/-- A frame with the next number keeps in step. -/
theorem InStepFrom.post {r : Inbound} (H : D.InStepFrom r posts t) (hp : p.seq = t.peek) :
    D.InStepFrom r (posts ++ [p]) (t.commit p.seq) := by
  refine H.concat ?_ t
  cases hs : (posts.foldl D.after r).lastSeen with
  | none => exact verdict_of_lastSeen_none hs p
  | some s =>
    have sent : t.lastSent = some s := by
      rcases H.joined with h | h
      · rw [hs] at h
        cases h
      · rw [← h, hs]
    exact verdict_of_next hs (by simp [hp, Outbound.peek, sent])

/-- An exempt frame keeps in step with any number, if the sender goes on from that number. -/
theorem InStepFrom.exempt {r : Inbound} (H : D.InStepFrom r posts t)
    (hr : D.readmits p.kind = true) (he : D.excuses p.kind = true) (u : Outbound) :
    D.InStepFrom r (posts ++ [p]) (u.commit p.seq) :=
  H.concat (verdict_of_exempt hr he _) u

/-- After an exempt frame sender and receiver are in step, whatever the receiver remembered. -/
theorem InStepFrom.anchor (hr : D.readmits p.kind = true) (he : D.excuses p.kind = true)
    (r : Inbound) (u : Outbound) : D.InStepFrom r [p] (u.commit p.seq) := by
  constructor
  · intro v h
    exact (List.mem_singleton.mp h).trans (verdict_of_exempt hr he r)
  · simp only [List.foldl_cons, List.foldl_nil, after]
    split
    · exact .inl rfl
    · exact .inr rfl

theorem InStep.post (H : D.InStep posts t) (hp : p.seq = t.peek) :
    D.InStep (posts ++ [p]) (t.commit p.seq) :=
  inStep_iff.mpr ((inStep_iff.mp H).post hp)

theorem InStep.exempt (H : D.InStep posts t) (hr : D.readmits p.kind = true)
    (he : D.excuses p.kind = true) (u : Outbound) : D.InStep (posts ++ [p]) (u.commit p.seq) :=
  inStep_iff.mpr ((inStep_iff.mp H).exempt hr he u)

end Discipline

/-! ## What gets past a receiver -/

/-- The items of the frames that are not dropped as repeats. -/
def retained (verdicts : List Verdict) (items : List (Option Octets)) : List Octets :=
  (verdicts.zip items).filterMap fun (v, item) => if v = .again then none else item

theorem retained_concat {vs : List Verdict} {items : List (Option Octets)}
    (h : vs.length = items.length) (v : Verdict) (item : Option Octets) :
    retained (vs ++ [v]) (items ++ [item]) =
      retained vs items ++ (if v = .again then none else item).toList := by
  rw [retained, List.zip_append h, List.filterMap_append]
  cases hi : (if v = .again then none else item) <;> simp [retained, hi]

theorem retained_of_next {vs : List Verdict} {items : List (Option Octets)}
    (h : vs.length = items.length) (smooth : ∀ v ∈ vs, v = .next) :
    retained vs items = items.filterMap id := by
  induction vs generalizing items with
  | nil =>
    rw [List.eq_nil_of_length_eq_zero h.symm]
    rfl
  | cons v vs ih =>
    cases items with
    | nil => cases h
    | cons item items =>
      have here : v = .next := smooth v List.mem_cons_self
      have rest := ih (Nat.succ.inj h) fun u hu => smooth u (List.mem_cons_of_mem v hu)
      rw [retained] at rest ⊢
      rw [List.zip_cons_cons, List.filterMap_cons, List.filterMap_cons, rest, here]
      rfl

theorem mem_of_mem_retained {vs : List Verdict} {items : List (Option Octets)} {x : Octets}
    (h : x ∈ retained vs items) : some x ∈ items := by
  obtain ⟨⟨v, item⟩, hmem, eq⟩ := List.mem_filterMap.mp h
  have here := (List.of_mem_zip hmem).2
  by_cases again : v = .again
  · simp [again] at eq
  · simp only [again, if_false] at eq
    exact eq ▸ here

end CommandLink
