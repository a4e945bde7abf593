import CommandLink.Wire.Error

/-! # Streams

A link carries 32 logical streams. Stream 0 carries events and control traffic beside its own
commands. `StreamTable` holds one value for each of them. -/

namespace CommandLink

/-- One of the 32 streams of a link. -/
abbrev StreamId := Fin 32

namespace StreamId

/-- The stream of events and control traffic. -/
def control : StreamId := ⟨0, by decide⟩

def ofOctet? (b : UInt8) : Option StreamId :=
  if h : b.toNat < 32 then some ⟨b.toNat, h⟩ else none

/-- The stream with the given id, or an error for an id of 32 or more. -/
def ofOctet (b : UInt8) : Except WireError StreamId :=
  match ofOctet? b with
  | some s => .ok s
  | none => .error (.invalidStream b)

def toOctet (s : StreamId) : UInt8 := UInt8.ofNat s.val

/-- Every stream, in ascending order. -/
def all : List StreamId := List.finRange 32

@[simp] theorem toNat_toOctet (s : StreamId) : (toOctet s).toNat = s.val := by
  have := s.isLt
  simp [toOctet]
  omega

@[simp] theorem ofOctet?_toOctet (s : StreamId) : ofOctet? (toOctet s) = some s := by
  have := s.isLt
  simp [ofOctet?]

theorem ofOctet?_eq_none_iff {b : UInt8} : ofOctet? b = none ↔ 32 ≤ b.toNat := by
  simp [ofOctet?]

@[simp] theorem mem_all (s : StreamId) : s ∈ all := List.mem_finRange s

end StreamId

/-- One value for each stream. -/
structure StreamTable (α : Type) where
  cells : Vector α 32

namespace StreamTable

/-- The same value for every stream. -/
def fill (a : α) : StreamTable α := ⟨Vector.replicate 32 a⟩

def get (t : StreamTable α) (s : StreamId) : α := t.cells[s]

def set (t : StreamTable α) (s : StreamId) (a : α) : StreamTable α := ⟨t.cells.set s a⟩

def modify (t : StreamTable α) (s : StreamId) (f : α → α) : StreamTable α :=
  t.set s (f (t.get s))

def map (f : α → β) (t : StreamTable α) : StreamTable β := ⟨t.cells.map f⟩

@[simp] theorem get_fill (a : α) (s : StreamId) : (fill a).get s = a := by
  simp [fill, get]

@[simp] theorem get_set_self (t : StreamTable α) (s : StreamId) (a : α) :
    (t.set s a).get s = a := by
  simp [set, get]

theorem get_set_of_ne (t : StreamTable α) {s r : StreamId} (h : s ≠ r) (a : α) :
    (t.set s a).get r = t.get r := by
  simp only [set, get, Fin.getElem_fin]
  exact Vector.getElem_set_ne _ _ (fun e => h (Fin.ext e))

theorem get_set (t : StreamTable α) (s r : StreamId) (a : α) :
    (t.set s a).get r = if s = r then a else t.get r := by
  split
  · next h => simp [h]
  · next h => exact get_set_of_ne t h a

@[simp] theorem get_map (f : α → β) (t : StreamTable α) (s : StreamId) :
    (t.map f).get s = f (t.get s) := by
  simp [map, get]

@[simp] theorem map_fill (f : α → β) (a : α) : (fill a).map f = fill (f a) := by
  simp [map, fill]

end StreamTable
end CommandLink
