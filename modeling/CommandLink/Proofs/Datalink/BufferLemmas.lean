import CommandLink.Datalink.Buffer

/-! # Buffers by their data

What a header put in front, and what is cut off on either side, does to the data of a buffer. -/

namespace CommandLink
namespace Buffer

@[simp] theorem start_alloc (headroom capacity : Nat) :
    (alloc headroom capacity).start = headroom := rfl

@[simp] theorem start_append (b : Buffer) (octets : Octets) :
    (b.append octets).start = b.start := rfl

theorem prepend_ok (b : Buffer) (octets : Octets) (h : octets.length ≤ b.start) :
    ∃ b', b.prepend octets = .ok b' ∧ b'.data = octets ++ b.data ∧
      b'.start + octets.length = b.start := by
  obtain ⟨b', hb⟩ : ∃ b', b.prepend octets = .ok b' := by simp [prepend, h]
  have H := data_prepend hb
  exact ⟨b', hb, H.1, H.2.1⟩

theorem removeStart_ok (b : Buffer) (n : Nat) (h : n ≤ b.data.length) :
    ∃ b', b.removeStart n = some (b.data.take n, b') ∧ b'.data = b.data.drop n := by
  rw [length_data] at h
  exact ⟨_, by simp only [removeStart, h, dif_pos]; rfl, by simp [data, Nat.add_comm]⟩

theorem removeEnd_ok (b : Buffer) (n : Nat) (h : n ≤ b.data.length) :
    ∃ b', b.removeEnd n = some (b.data.drop (b.data.length - n), b') ∧
      b'.data = b.data.take (b.data.length - n) := by
  rw [length_data] at h ⊢
  refine ⟨_, by simp only [removeEnd, h, dif_pos]; rfl, ?_⟩
  have := b.stop_le_length
  have := b.start_le_stop
  simp only [data, List.take_drop, List.take_take]
  congr 2
  omega

theorem prepend_ok_iff (b : Buffer) (octets : Octets) :
    (∃ b', b.prepend octets = .ok b') ↔ octets.length ≤ b.start := by
  constructor
  · rintro ⟨b', hb⟩
    have room := (data_prepend hb).2.1
    omega
  · intro room
    obtain ⟨b', hb, -⟩ := b.prepend_ok octets room
    exact ⟨b', hb⟩

/-- What is cut off the front stood there. -/
theorem data_of_removeStart {b b' : Buffer} {n : Nat} {front : Octets}
    (h : b.removeStart n = some (front, b')) : b.data = front ++ b'.data := by
  have long : n ≤ b.data.length := by
    rw [length_data]
    apply Decidable.byContradiction
    intro short
    rw [removeStart, dif_neg short] at h
    cases h
  obtain ⟨rest, cut, data⟩ := b.removeStart_ok n long
  rw [cut] at h
  cases h
  rw [data, List.take_append_drop]

/-- What is cut off the back stood there. -/
theorem data_of_removeEnd {b b' : Buffer} {n : Nat} {back : Octets}
    (h : b.removeEnd n = some (back, b')) : b.data = b'.data ++ back := by
  have long : n ≤ b.data.length := by
    rw [length_data]
    apply Decidable.byContradiction
    intro short
    rw [removeEnd, dif_neg short] at h
    cases h
  obtain ⟨rest, cut, data⟩ := b.removeEnd_ok n long
  rw [cut] at h
  cases h
  rw [data, List.take_append_drop]

theorem removeStart_of_data {b : Buffer} (front rest : Octets) (h : b.data = front ++ rest) :
    ∃ b', b.removeStart front.length = some (front, b') ∧ b'.data = rest := by
  obtain ⟨b', hb, hd⟩ := b.removeStart_ok front.length (by simp [h])
  rw [h] at hb hd
  exact ⟨b', by simpa using hb, by simpa using hd⟩

theorem removeStart_of_short {b : Buffer} {n : Nat} (short : b.data.length < n) :
    b.removeStart n = none := by
  rw [length_data] at short
  exact dif_neg (Nat.not_le.mpr short)

theorem removeEnd_of_data {b : Buffer} (rest back : Octets) (h : b.data = rest ++ back) :
    ∃ b', b.removeEnd back.length = some (back, b') ∧ b'.data = rest := by
  obtain ⟨b', hb, hd⟩ := b.removeEnd_ok back.length (by simp [h])
  rw [h] at hb hd
  exact ⟨b', by simpa using hb, by simpa using hd⟩

end Buffer
end CommandLink
