import CommandLink.Wire.Stream

/-! # Lists of which one element changes, and lists of steps

Threads, workers and the cells of a stream table change one at a time. A run is a list of steps,
each of which can be taken where the one before has led. -/

namespace CommandLink

theorem take_succ_of_getElem? {α : Type} {l : List α} {n : Nat} {x : α} (h : l[n]? = some x) :
    l.take (n + 1) = l.take n ++ [x] := by
  rw [List.take_add_one, h]
  rfl

theorem lt_length_of_getElem? {α : Type} {l : List α} {n : Nat} {x : α} (h : l[n]? = some x) :
    n < l.length := (List.getElem?_eq_some_iff.mp h).1

theorem filterMap_eq_map_id {α β : Type} (f : α → Option β) (l : List α) :
    l.filterMap f = (l.map f).filterMap id := by
  rw [List.filterMap_map]
  rfl

theorem filterMap_cons_toList {α β : Type} (f : α → Option β) (x : α) (l : List α) :
    (x :: l).filterMap f = (f x).toList ++ l.filterMap f := by
  cases h : f x <;> simp [h]

theorem filterMap_toList {α β : Type} (f : α → Option β) (o : Option α) :
    o.toList.filterMap f = (o.bind f).toList := by
  cases o with
  | none => rfl
  | some x => rw [Option.toList_some, filterMap_cons_toList, List.filterMap_nil, List.append_nil,
      Option.bind_some]

theorem getElem?_append_of_some {α : Type} {l : List α} {i : Nat} {x : α} (h : l[i]? = some x)
    (r : List α) : (l ++ r)[i]? = some x :=
  (List.getElem?_append_left (lt_length_of_getElem? h)).trans h

theorem getElem?_of_isPrefix {α : Type} {l m : List α} (h : l <+: m) {i : Nat} {x : α}
    (hx : l[i]? = some x) : m[i]? = some x := by
  obtain ⟨r, rfl⟩ := h
  exact getElem?_append_of_some hx r

theorem getElem?_of_mem_suffix {α : Type} {l m : List α} (h : l <:+ m) {x : α} (hx : x ∈ l) :
    ∃ j, m.length - l.length ≤ j ∧ m[j]? = some x := by
  obtain ⟨r, rfl⟩ := h
  obtain ⟨j, hj⟩ := List.mem_iff_getElem?.mp hx
  exact ⟨r.length + j, by simp, by rw [List.getElem?_append_right (by omega)]; simpa using hj⟩

theorem getElem?_concat_cases {α : Type} {l : List α} {x y : α} {i : Nat}
    (h : (l ++ [x])[i]? = some y) : l[i]? = some y ∨ i = l.length ∧ y = x := by
  rw [List.getElem?_append] at h
  split at h
  · exact .inl h
  · next hi =>
    obtain ⟨lt, eq⟩ := List.getElem?_eq_some_iff.mp h
    simp only [List.length_singleton] at lt
    exact .inr ⟨by omega, by simpa using eq.symm⟩

theorem mem_or_eq_of_mem_concat {α : Type} {l : List α} {x y : α} (hy : y ∈ l ++ [x]) :
    y ∈ l ∨ y = x := by
  simpa using hy

theorem eq_of_append_cons_eq_concat {α : Type} {x : α} {ps qs as : List α}
    (h : ps ++ x :: qs = as ++ [x]) (hx : x ∉ as) : ps = as ∧ qs = [] := by
  induction ps generalizing as with
  | nil =>
    cases as with
    | nil => exact ⟨rfl, List.tail_eq_of_cons_eq h⟩
    | cons a as =>
      have head : x = a := List.head_eq_of_cons_eq h
      exact absurd (head ▸ List.mem_cons_self) hx
  | cons p ps ih =>
    cases as with
    | nil =>
      have tail : ps ++ x :: qs = [] := List.tail_eq_of_cons_eq h
      simp at tail
    | cons a as =>
      have head : p = a := List.head_eq_of_cons_eq h
      obtain ⟨rfl, rfl⟩ := ih (List.tail_eq_of_cons_eq h) fun hm => hx (List.mem_cons_of_mem a hm)
      exact ⟨by rw [head], rfl⟩

section
variable {α β : Type} {f : α → Option β} {l : List α} {i : Nat} {t u : α}

theorem eq_take_append_cons (h : l[i]? = some t) : l = l.take i ++ t :: l.drop (i + 1) := by
  obtain ⟨lt, rfl⟩ := List.getElem?_eq_some_iff.mp h
  rw [← List.drop_eq_getElem_cons lt, List.take_append_drop]

theorem set_eq_take_append_cons (h : l[i]? = some t) (u : α) :
    l.set i u = l.take i ++ u :: l.drop (i + 1) := by
  rw [List.set_eq_take_append_cons_drop, if_pos (List.getElem?_eq_some_iff.mp h).1]

theorem filterMap_set_of_none (h : l[i]? = some t) (ht : f t = none) (hu : f u = none) :
    (l.set i u).filterMap f = l.filterMap f := by
  conv => rhs; rw [eq_take_append_cons h]
  rw [set_eq_take_append_cons h, List.filterMap_append, List.filterMap_append,
    List.filterMap_cons_none ht, List.filterMap_cons_none hu]

/-- The last of the elements that count changes. -/
theorem filterMap_set_last (h : l[i]? = some t) {x y : β} (ht : f t = some x) (hu : f u = some y)
    {as : List β} (hl : l.filterMap f = as ++ [x]) (hx : x ∉ as) :
    (l.set i u).filterMap f = as ++ [y] := by
  rw [eq_take_append_cons h, List.filterMap_append, List.filterMap_cons_some ht] at hl
  obtain ⟨front, back⟩ := eq_of_append_cons_eq_concat hl hx
  rw [set_eq_take_append_cons h, List.filterMap_append, List.filterMap_cons_some hu, front, back]

end

/-! ## Runs -/

/-- What every step preserves holds after any number of steps. -/
theorem foldlM_preserves {σ α : Type} {f : σ → α → Option σ} {I : σ → Prop}
    (step : ∀ {s a s'}, I s → f s a = some s' → I s') {s s' : σ} {actions : List α}
    (run : actions.foldlM f s = some s') (h : I s) : I s' := by
  induction actions generalizing s with
  | nil =>
    cases run
    exact h
  | cons a actions ih =>
    rw [List.foldlM_cons] at run
    obtain ⟨t, ht, rest⟩ := Option.bind_eq_some_iff.mp run
    exact ih rest (step h ht)

/-- Where the steps of one sort lower a measure and each of the others raises it by one at most,
there are no more steps of that sort than the measure and the other steps allow. -/
theorem foldlM_balance {σ α : Type} {f : σ → α → Option σ} {I : σ → Prop} {m : σ → Nat}
    {p : α → Bool}
    (step : ∀ {s a s'}, I s → f s a = some s' →
      I s' ∧ (p a = true → m s' < m s) ∧ m s' ≤ m s + 1) {s s' : σ}
    {actions : List α} (run : actions.foldlM f s = some s') (h : I s) :
    actions.countP p + m s' ≤ m s + actions.countP (!p ·) := by
  induction actions generalizing s with
  | nil =>
    cases run
    exact Nat.le_of_eq (Nat.add_comm _ _)
  | cons a actions ih =>
    rw [List.foldlM_cons] at run
    obtain ⟨t, ht, rest⟩ := Option.bind_eq_some_iff.mp run
    obtain ⟨ht', lower, raise⟩ := step h ht
    have later := ih rest ht'
    rw [List.countP_cons, List.countP_cons]
    cases hl : p a with
    | true =>
      have lower := lower hl
      simp only [if_true, Bool.not_true, Bool.false_eq_true, if_false]
      omega
    | false =>
      simp only [Bool.false_eq_true, if_false, Bool.not_false, if_true]
      omega

/-- Where each step lowers a measure, there are no more steps than it allows. -/
theorem foldlM_measure {σ α : Type} {f : σ → α → Option σ} {I : σ → Prop} {m : σ → Nat}
    (step : ∀ {s a s'}, I s → f s a = some s' → I s' ∧ m s' < m s) {s s' : σ}
    {actions : List α} (run : actions.foldlM f s = some s') (h : I s) :
    actions.length + m s' ≤ m s := by
  have bound := foldlM_balance (p := fun _ => true) (fun hs ha => by
    obtain ⟨kept, lower⟩ := step hs ha
    exact ⟨kept, fun _ => lower, by omega⟩) run h
  simpa using bound

/-! ## Sums -/

def total {α : Type} (f : α → Nat) : List α → Nat
  | [] => 0
  | x :: l => f x + total f l

theorem total_set {α : Type} {l : List α} {i : Nat} {x : α} (h : l[i]? = some x) (f : α → Nat)
    (y : α) : total f (l.set i y) + f x = total f l + f y := by
  induction l generalizing i with
  | nil => cases h
  | cons z l ih =>
    cases i with
    | zero =>
      cases h
      simp only [List.set_cons_zero, total]
      omega
    | succ i =>
      have tail := ih h
      simp only [List.set_cons_succ, total]
      omega

theorem total_concat {α : Type} (f : α → Nat) (l : List α) (x : α) :
    total f (l ++ [x]) = total f l + f x := by
  induction l with
  | nil => exact Nat.add_comm _ _
  | cons y l ih =>
    rw [List.cons_append, total, ih, total, Nat.add_assoc]

theorem total_eq_zero {α : Type} {f : α → Nat} {l : List α} (h : ∀ x ∈ l, f x = 0) :
    total f l = 0 := by
  induction l with
  | nil => rfl
  | cons x l ih =>
    rw [total, h x List.mem_cons_self, ih fun y hy => h y (List.mem_cons_of_mem x hy)]

theorem total_map_le {α : Type} {f : α → Nat} {g : α → α} (h : ∀ x, f (g x) ≤ f x) (l : List α) :
    total f (l.map g) ≤ total f l := by
  induction l with
  | nil => exact Nat.le_refl _
  | cons x l ih => exact Nat.add_le_add (h x) ih

namespace StreamTable

theorem get_modify_of_ne {α : Type} (t : StreamTable α) {s r : StreamId} (h : s ≠ r)
    (f : α → α) : (t.modify s f).get r = t.get r :=
  t.get_set_of_ne h _

/-- What a change keeps true of each value is true of each value after the change of one. -/
theorem get_modify_preserves {α : Type} {P : α → Prop} {f : α → α} (hf : ∀ x, P x → P (f x))
    {t : StreamTable α} {s r : StreamId} (h : P (t.get s)) : P ((t.modify r f).get s) := by
  rw [modify, get_set]
  split
  · next same =>
    subst same
    exact hf _ h
  · exact h

def total {α : Type} (f : α → Nat) (t : StreamTable α) : Nat :=
  CommandLink.total f t.cells.toList

theorem total_set {α : Type} (f : α → Nat) (t : StreamTable α) (stream : StreamId) (x : α) :
    (t.set stream x).total f + f (t.get stream) = t.total f + f x := by
  have here : t.cells.toList[stream.val]? = some (t.get stream) := by simp [get]
  rw [total, set, Vector.toList_set]
  exact CommandLink.total_set here f x

theorem total_fill {α : Type} {f : α → Nat} {x : α} (h : f x = 0) : (fill x).total f = 0 :=
  total_eq_zero fun y hy => by
    rw [fill, Vector.toList_replicate] at hy
    rw [List.eq_of_mem_replicate hy, h]

theorem total_map_le {α : Type} {f : α → Nat} {g : α → α} (h : ∀ x, f (g x) ≤ f x)
    (t : StreamTable α) : (t.map g).total f ≤ t.total f := by
  rw [total, map, Vector.toList_map]
  exact CommandLink.total_map_le h _

/-- What does not grow in one cell does not grow in all. -/
theorem total_modify_le {α : Type} {f : α → Nat} {g : α → α} (h : ∀ x, f (g x) ≤ f x)
    (t : StreamTable α) (stream : StreamId) : (t.modify stream g).total f ≤ t.total f := by
  have sum := t.total_set f stream (g (t.get stream))
  have cell := h (t.get stream)
  rw [modify]
  omega

end StreamTable
end CommandLink
