import CommandLink.Octets

/-! # Waiting, and slots

A call on an endpoint is a program counter. One step of it is one stretch between two points where
another thread can come in between.

A slot hands single items from one thread to another. It holds at most one item; who brings an
item waits while the slot is full, and who wants one waits while it is empty. A waiting thread is
a caller that tries again: `push` and `pop` each say what one attempt under the slot's lock comes
to. A closed slot refuses items and ends every wait; a cancellation ends the waits that are under
way, which is why a wait remembers the number of cancellations it began with. -/

namespace CommandLink

/-- What one step of a call comes to. -/
inductive Progress (κ ρ : Type)
  /-- The call returns. -/
  | done (result : ρ)
  /-- The call goes on from here. -/
  | next (call : κ)
  /-- The call waits for another thread, or for its time to run out. -/
  | blocked

structure Slot (α : Type) where
  item : Option α
  closed : Bool
  /-- The cancellations so far. -/
  cancels : Nat

namespace Slot

def empty : Slot α := ⟨none, false, 0⟩

/-- What an attempt to bring an item comes to. -/
inductive Push (α : Type)
  | stored (slot : Slot α)
  /-- The slot is closed; the item goes back. -/
  | refused
  /-- The slot is full; the caller waits. -/
  | full

/-- One attempt to bring an item. -/
def push (s : Slot α) (a : α) : Push α :=
  if s.closed then .refused
  else if s.item.isSome then .full
  else .stored { s with item := some a }

/-- Brings an item only if there is room for it now. -/
def offer (s : Slot α) (a : α) : Option (Slot α) :=
  match s.push a with
  | .stored s' => some s'
  | _ => none

/-- Why a wait ends without an item before its time. -/
inductive Release
  | cancelled
  | closed
  deriving DecidableEq

/-- What an attempt to take the item comes to. -/
inductive Pop (α : Type)
  | taken (item : α) (slot : Slot α)
  | released (reason : Release)
  /-- Nothing yet; the caller waits. -/
  | waiting

/-- One attempt to take the item, in a wait that began when the slot had seen `seen`
cancellations. -/
def pop (s : Slot α) (seen : Nat) : Pop α :=
  match s.item with
  | some a => .taken a { s with item := none }
  | none =>
    if s.closed then .released .closed
    else if s.cancels ≠ seen then .released .cancelled
    else .waiting

/-- Ends the waits under way. -/
def cancel (s : Slot α) : Slot α := { s with cancels := s.cancels + 1 }

/-- Drops the item, if there is one. -/
def clear (s : Slot α) : Slot α := { s with item := none }

/-- Refuses items from now on and drops the one inside. -/
def close (s : Slot α) : Slot α := { s with item := none, closed := true }

/-- Takes items again. -/
def reopen (s : Slot α) : Slot α := { s with closed := false }

/-! ## What an attempt comes to -/

section
variable {α : Type} {s s' : Slot α} {a : α} {seen : Nat}

theorem stored_of_push (h : s.push a = .stored s') :
    s.closed = false ∧ s.item = none ∧ s' = { s with item := some a } := by
  unfold push at h
  split at h
  · cases h
  · next roomy =>
    split at h <;> cases h
    next empty => exact ⟨by simpa using roomy, by simpa using empty, rfl⟩

theorem closed_of_push (h : s.push a = .refused) : s.closed = true := by
  unfold push at h
  split at h
  · next shut => exact shut
  · split at h <;> cases h

theorem full_of_push (h : s.push a = .full) : s.closed = false ∧ s.item.isSome = true := by
  unfold push at h
  split at h
  · cases h
  · next roomy =>
    split at h <;> cases h
    next full => exact ⟨by simpa using roomy, full⟩

theorem stored_of_offer (h : s.offer a = some s') :
    s.closed = false ∧ s.item = none ∧ s' = { s with item := some a } := by
  unfold offer at h
  split at h <;> cases h
  next stored => exact stored_of_push stored

theorem busy_of_offer (h : s.offer a = none) : s.closed = true ∨ s.item.isSome = true := by
  unfold offer at h
  split at h
  · cases h
  · next none =>
    cases hp : s.push a with
    | stored s' => exact absurd hp (none s')
    | refused => exact .inl (closed_of_push hp)
    | full => exact .inr (full_of_push hp).2

theorem taken_of_pop (h : s.pop seen = .taken a s') :
    s.item = some a ∧ s' = { s with item := none } := by
  unfold pop at h
  split at h
  · next inside =>
    cases h
    exact ⟨inside, rfl⟩
  · (repeat' split at h) <;> cases h

theorem released_of_pop {reason : Release} (h : s.pop seen = .released reason) :
    s.closed = true ∧ reason = .closed ∨ s.cancels ≠ seen ∧ reason = .cancelled := by
  unfold pop at h
  split at h
  · cases h
  · split at h
    · next shut =>
      cases h
      exact .inl ⟨shut, rfl⟩
    · split at h <;> cases h
      next late => exact .inr ⟨late, rfl⟩

theorem waiting_of_pop (h : s.pop seen = .waiting) :
    s.item = none ∧ s.closed = false ∧ s.cancels = seen := by
  unfold pop at h
  split at h
  · cases h
  · next empty =>
    split at h
    · cases h
    · next roomy =>
      split at h <;> cases h
      next current => exact ⟨empty, by simpa using roomy, by simpa using current⟩

end

/-! ## Closed slots -/

section
variable {α : Type} {s : Slot α}

/-- Nothing gets in, and nothing is inside. -/
structure Shut (s : Slot α) : Prop where
  closed : s.closed = true
  empty : s.item = none

theorem shut_close (s : Slot α) : s.close.Shut := ⟨rfl, rfl⟩

theorem Shut.cancel (S : s.Shut) : s.cancel.Shut := ⟨S.closed, S.empty⟩

theorem Shut.clear (S : s.Shut) : s.clear.Shut := ⟨S.closed, rfl⟩

theorem Shut.pop (S : s.Shut) (seen : Nat) : s.pop seen = .released .closed := by
  simp [Slot.pop, S.empty, S.closed]

theorem Shut.push (S : s.Shut) (a : α) : s.push a = .refused := by
  simp [Slot.push, S.closed]

theorem Shut.offer (S : s.Shut) (a : α) : s.offer a = none := by
  rw [Slot.offer, S.push]

end

end Slot
end CommandLink
