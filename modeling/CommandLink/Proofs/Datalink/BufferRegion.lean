import CommandLink.Proofs.Datalink.BufferLemmas

/-! # A buffer as a list with room on either side

Three readings of the same edits. A `View` is what a buffer is from outside: the free room in front,
a list of octets, and the free room behind. A `Region` is what it is in memory: a storage and two
positions in it that nothing is known of, so that a slice that reaches outside the storage, or a
region that ends before it starts, fails. A `Buffer` stands between them: from any beginning and
through any edits the region never fails and holds what the buffer holds, and the buffer is seen as
the view (`Buffer.refines_list`). What was left in the storage by earlier edits is never seen. -/

namespace CommandLink
namespace Buffer

/-- What is done with a buffer. -/
inductive Edit
  | append (octets : Octets)
  | prepend (octets : Octets)
  | removeStart (n : Nat)
  | removeEnd (n : Nat)
  | truncate (n : Nat)

/-- What the one who edits is told. -/
inductive Reply
  | done
  | refused (error : LinkError)
  | removed (octets : Octets)
  /-- The data is not as long as what was to be removed. -/
  | short

/-- The edit was not made. -/
def Reply.Failed : Reply → Prop
  | .refused _ | .short => True
  | .done | .removed _ => False

/-- Makes one edit after the other. -/
def editing {σ : Type} (edit : σ → Edit → Reply × σ) (s : σ) : List Edit → List Reply × σ
  | [] => ([], s)
  | e :: es =>
    let (reply, s') := edit s e
    let (replies, s'') := editing edit s' es
    (reply :: replies, s'')

/-- Makes one edit. A buffer that refuses it stays as it is. -/
def edit (b : Buffer) : Edit → Reply × Buffer
  | .append octets => (.done, b.append octets)
  | .prepend octets =>
    match b.prepend octets with
    | .ok b' => (.done, b')
    | .error e => (.refused e, b)
  | .removeStart n =>
    match b.removeStart n with
    | some (front, b') => (.removed front, b')
    | none => (.short, b)
  | .removeEnd n =>
    match b.removeEnd n with
    | some (back, b') => (.removed back, b')
    | none => (.short, b)
  | .truncate n => (.done, b.truncate n)

theorem edit_of_failed {b b' : Buffer} {e : Edit} {reply : Reply} (h : b.edit e = (reply, b'))
    (failed : reply.Failed) : b' = b := by
  cases e with
  | append | truncate =>
    cases h
    exact failed.elim
  | prepend | removeStart | removeEnd =>
    simp only [edit] at h
    split at h <;> cases h
    · exact failed.elim
    · rfl

/-- How a buffer comes about. Its storage exists, so that headroom and capacity add up to a number
of octets that memory holds. -/
inductive Origin
  | alloc (headroom capacity : Nat)
  | ofOctets (octets : Octets)

def Origin.buffer : Origin → Buffer
  | .alloc headroom capacity => Buffer.alloc headroom capacity
  | .ofOctets octets => Buffer.ofOctets octets

/-! ## Seen from outside -/

/-- A list of octets with room on either side. -/
@[ext]
structure View where
  head : Nat
  data : Octets
  tail : Nat

namespace View

def size (v : View) : Nat := v.head + v.data.length + v.tail

/-- Makes one edit. Room that is given up on one side can be used there again. -/
def edit (v : View) : Edit → Reply × View
  | .append octets =>
    (.done, ⟨v.head, v.data ++ octets, v.tail - octets.length⟩)
  | .prepend octets =>
    if octets.length ≤ v.head then
      (.done, ⟨v.head - octets.length, octets ++ v.data, v.tail⟩)
    else (.refused (.insufficientHeadroom octets.length v.head), v)
  | .removeStart n =>
    if n ≤ v.data.length then
      (.removed (v.data.take n), ⟨v.head + n, v.data.drop n, v.tail⟩)
    else (.short, v)
  | .removeEnd n =>
    if n ≤ v.data.length then
      (.removed (v.data.drop (v.data.length - n)),
        ⟨v.head, v.data.take (v.data.length - n), v.tail + n⟩)
    else (.short, v)
  | .truncate n => (.done, ⟨v.head, v.data.take n, v.tail + (v.data.length - n)⟩)

/-- Only data that the room behind does not hold makes the whole larger, and then it takes up all
the room there was. -/
theorem size_edit {v v' : View} {e : Edit} {reply : Reply} (h : v.edit e = (reply, v')) :
    v'.size = v.size ∨
      ∃ octets, e = .append octets ∧ v.tail < octets.length ∧
        v'.size = v.head + v.data.length + octets.length := by
  cases e with
  | append octets =>
    cases h
    simp only [size, List.length_append]
    by_cases fits : octets.length ≤ v.tail
    · exact .inl (by omega)
    · exact .inr ⟨octets, rfl, by omega, by omega⟩
  | truncate n =>
    cases h
    simp only [size, List.length_take]
    exact .inl (by omega)
  | prepend | removeStart | removeEnd =>
    simp only [edit] at h
    split at h <;> cases h
    · simp only [size, List.length_append, List.length_take, List.length_drop]
      exact .inl (by omega)
    · exact .inl rfl

end View

def Origin.view : Origin → View
  | .alloc headroom capacity => ⟨headroom, [], capacity⟩
  | .ofOctets octets => ⟨0, octets, 0⟩

def view (b : Buffer) : View := ⟨b.roomAtStart, b.data, b.roomAtEnd⟩

theorem view_origin (o : Origin) : o.buffer.view = o.view := by
  cases o with
  | alloc headroom capacity =>
    simp only [view, Origin.buffer, data_alloc]
    simp [Origin.view, roomAtStart, roomAtEnd, alloc]
  | ofOctets octets =>
    simp only [view, Origin.buffer, data_ofOctets]
    simp [Origin.view, roomAtStart, roomAtEnd, ofOctets]

theorem size_view (b : Buffer) : b.view.size = b.storage.length := by
  have := b.start_le_stop
  have := b.stop_le_length
  simp only [View.size, view, roomAtStart, length_data, roomAtEnd]
  omega

/-! What each operation does to the view. -/

section
variable {b b' : Buffer} {octets : Octets} {n : Nat}

theorem view_append (b : Buffer) (octets : Octets) :
    (b.append octets).view = ⟨b.view.head, b.view.data ++ octets, b.view.tail - octets.length⟩ := by
  have := b.stop_le_length
  simp only [view, data_append, roomAtStart, start_append, roomAtEnd, View.mk.injEq, true_and]
  simp only [append, List.length_append, List.length_take, List.length_drop]
  omega

theorem view_truncate (b : Buffer) (n : Nat) :
    (b.truncate n).view =
      ⟨b.view.head, b.view.data.take n, b.view.tail + (b.view.data.length - n)⟩ := by
  have := b.start_le_stop
  have := b.stop_le_length
  simp only [view, truncate, length_data]
  split
  · next shorter =>
    simp only [roomAtStart, roomAtEnd, data, View.mk.injEq, true_and]
    constructor
    · rw [List.take_drop, List.take_take, Nat.min_eq_left (by omega)]
    · omega
  · next whole =>
    rw [List.take_of_length_le (by rw [length_data]; omega)]
    simp only [View.mk.injEq, true_and]
    omega

theorem view_of_prepend (h : b.prepend octets = .ok b') :
    octets.length ≤ b.view.head ∧
      b'.view = ⟨b.view.head - octets.length, octets ++ b.view.data, b.view.tail⟩ := by
  have room := (b.prepend_ok_iff octets).mp ⟨b', h⟩
  obtain ⟨data, start, behind⟩ := data_prepend h
  exact ⟨room, View.ext (Nat.eq_sub_of_add_eq start) data behind⟩

theorem error_of_prepend {e : LinkError} (h : b.prepend octets = .error e) :
    b.view.head < octets.length ∧ e = .insufficientHeadroom octets.length b.view.head := by
  unfold prepend at h
  split at h
  · cases h
  · next narrow =>
    cases h
    exact ⟨Nat.lt_of_not_le narrow, rfl⟩

theorem view_of_removeStart {front : Octets} (h : b.removeStart n = some (front, b')) :
    n ≤ b.view.data.length ∧ front = b.view.data.take n ∧
      b'.view = ⟨b.view.head + n, b.view.data.drop n, b.view.tail⟩ := by
  unfold removeStart at h
  split at h
  · next long =>
    cases h
    refine ⟨by simpa only [view, length_data] using long, rfl, View.ext rfl ?_ rfl⟩
    simp only [view, data, List.drop_drop, Nat.add_comm]
  · cases h

theorem short_of_removeStart (h : b.removeStart n = none) : b.view.data.length < n := by
  unfold removeStart at h
  split at h
  · cases h
  · next short => simpa only [view, length_data, Nat.not_le] using short

theorem view_of_removeEnd {back : Octets} (h : b.removeEnd n = some (back, b')) :
    n ≤ b.view.data.length ∧ back = b.view.data.drop (b.view.data.length - n) ∧
      b'.view =
        ⟨b.view.head, b.view.data.take (b.view.data.length - n), b.view.tail + n⟩ := by
  have := b.start_le_stop
  have := b.stop_le_length
  unfold removeEnd at h
  split at h
  · next long =>
    cases h
    refine ⟨by simpa only [view, length_data] using long, ?_, View.ext rfl ?_ ?_⟩
    · simp only [view, length_data]
    · simp only [view, length_data]
      simp only [data, List.take_drop, List.take_take]
      congr 2
      omega
    · simp only [view, roomAtEnd]
      omega
  · cases h

theorem short_of_removeEnd (h : b.removeEnd n = none) : b.view.data.length < n := by
  unfold removeEnd at h
  split at h
  · cases h
  · next short => simpa only [view, length_data, Nat.not_le] using short

end

/-- An edit does to what is seen of a buffer what it does to a list with room on either side. -/
theorem view_edit (b : Buffer) (e : Edit) : b.view.edit e = Prod.map id view (b.edit e) := by
  cases e with
  | append octets => exact congrArg (Prod.mk Reply.done) (b.view_append octets).symm
  | truncate n => exact congrArg (Prod.mk Reply.done) (b.view_truncate n).symm
  | prepend octets =>
    cases h : b.prepend octets with
    | ok b' =>
      obtain ⟨room, after⟩ := view_of_prepend h
      simp only [View.edit, if_pos room, edit, h, ← after, Prod.map, id_eq]
    | error e =>
      obtain ⟨narrow, rfl⟩ := error_of_prepend h
      simp only [View.edit, if_neg (Nat.not_le.mpr narrow), edit, h, Prod.map, id_eq]
  | removeStart n =>
    cases h : b.removeStart n with
    | some cut =>
      obtain ⟨long, front, after⟩ := view_of_removeStart h
      simp only [View.edit, if_pos long, edit, h, ← front, ← after, Prod.map, id_eq]
    | none =>
      have short := short_of_removeStart h
      simp only [View.edit, if_neg (Nat.not_le.mpr short), edit, h, Prod.map, id_eq]
  | removeEnd n =>
    cases h : b.removeEnd n with
    | some cut =>
      obtain ⟨long, back, after⟩ := view_of_removeEnd h
      simp only [View.edit, if_pos long, edit, h, ← back, ← after, Prod.map, id_eq]
    | none =>
      have short := short_of_removeEnd h
      simp only [View.edit, if_neg (Nat.not_le.mpr short), edit, h, Prod.map, id_eq]

/-! ## In memory -/

/-- A storage and the positions between which its data should be. -/
structure Region where
  storage : Octets
  start : Nat
  stop : Nat

/-- How far it is from one position up to another, if it is not behind it. -/
def distance? (first last : Nat) : Option Nat :=
  if first ≤ last then some (last - first) else none

namespace Region

def length? (r : Region) : Option Nat := distance? r.start r.stop

def data? (r : Region) : Option Octets := r.storage.slice? r.start r.stop

def roomAtEnd? (r : Region) : Option Nat := distance? r.stop r.storage.length

/-- The storage with zeros behind it up to a length. -/
def grown (storage : Octets) (length : Nat) : Octets :=
  if storage.length < length then storage ++ List.replicate (length - storage.length) 0 else storage

/-- Makes one edit. It fails where it reaches outside the storage or the region. -/
def edit? (r : Region) : Edit → Option (Reply × Region)
  | .append octets => do
    let stop := r.stop + octets.length
    let storage ← (grown r.storage stop).overwrite? r.stop octets
    return (.done, ⟨storage, r.start, stop⟩)
  | .prepend octets =>
    if r.start < octets.length then
      return (.refused (.insufficientHeadroom octets.length r.start), r)
    else do
      let start ← distance? octets.length r.start
      let storage ← r.storage.overwrite? start octets
      return (.done, ⟨storage, start, r.stop⟩)
  | .removeStart n => do
    if (← r.length?) < n then return (.short, r)
    else
      let front ← r.storage.slice? r.start (r.start + n)
      return (.removed front, ⟨r.storage, r.start + n, r.stop⟩)
  | .removeEnd n => do
    if (← r.length?) < n then return (.short, r)
    else
      let stop ← distance? n r.stop
      let back ← r.storage.slice? stop (stop + n)
      return (.removed back, ⟨r.storage, r.start, stop⟩)
  | .truncate n => do
    if n < (← r.length?) then return (.done, ⟨r.storage, r.start, r.start + n⟩)
    else return (.done, r)

/-- Makes one edit after the other. -/
def editing? (r : Region) : List Edit → Option (List Reply × Region)
  | [] => some ([], r)
  | e :: es => do
    let (reply, r') ← r.edit? e
    let (replies, r'') ← r'.editing? es
    return (reply :: replies, r'')

/-- Gives up the storage but for the data: first what stands behind, then what stands in front. -/
def release? (r : Region) : Option Octets :=
  let kept := r.storage.take r.stop
  (distance? r.start kept.length).map fun _ => kept.drop r.start

end Region

def Origin.region : Origin → Region
  | .alloc headroom capacity => ⟨List.replicate (headroom + capacity) 0, headroom, headroom⟩
  | .ofOctets octets => ⟨octets, 0, octets.length⟩

def region (b : Buffer) : Region := ⟨b.storage, b.start, b.stop⟩

theorem distance?_eq {first last : Nat} (ordered : first ≤ last) :
    distance? first last = some (last - first) := if_pos ordered

theorem region_origin (o : Origin) : o.buffer.region = o.region := by
  cases o <;> rfl

theorem length?_region (b : Buffer) : b.region.length? = some b.data.length := by
  rw [length_data]
  exact distance?_eq b.start_le_stop

theorem data?_region (b : Buffer) : b.region.data? = some b.data :=
  Octets.slice?_eq b.start_le_stop b.stop_le_length

theorem roomAtEnd?_region (b : Buffer) : b.region.roomAtEnd? = some b.roomAtEnd :=
  distance?_eq b.stop_le_length

theorem release?_region (b : Buffer) : b.region.release? = some b.data := by
  have ordered : b.start ≤ (b.storage.take b.stop).length := by
    rw [List.length_take_of_le b.stop_le_length]
    exact b.start_le_stop
  simp only [Region.release?, region, distance?_eq ordered, Option.map_some]
  rfl

/-- Growing makes room for what is appended, and changes nothing in front of it or behind. -/
theorem overwrite?_grown {storage octets : Octets} {stop : Nat} (within : stop ≤ storage.length) :
    (Region.grown storage (stop + octets.length)).overwrite? stop octets =
      some (storage.take stop ++ octets ++ storage.drop (stop + octets.length)) := by
  unfold Region.grown
  split
  · next narrow =>
    rw [Octets.overwrite?_eq, List.take_append_of_le_length within, List.drop_eq_nil_of_le,
      List.drop_eq_nil_of_le]
    · omega
    · simp only [List.length_append, List.length_replicate]
      omega
    · simp only [List.length_append, List.length_replicate]
      omega
  · next wide => exact Octets.overwrite?_eq (Nat.le_of_not_lt wide)

/-- What is cut off the front lies in the storage. -/
theorem slice?_front (b : Buffer) {n : Nat} (long : n ≤ b.stop - b.start) :
    b.region.storage.slice? b.region.start (b.region.start + n) = some (b.data.take n) := by
  have := b.start_le_stop
  have := b.stop_le_length
  simp only [region]
  rw [Octets.slice?_eq (Nat.le_add_right ..) (by omega)]
  simp only [data, List.take_drop, List.take_take]
  congr 3
  omega

/-- What is cut off the back lies in the storage. -/
theorem slice?_back (b : Buffer) {n : Nat} (long : n ≤ b.stop - b.start) :
    b.region.storage.slice? (b.stop - n) (b.stop - n + n) =
      some (b.data.drop (b.stop - b.start - n)) := by
  have := b.start_le_stop
  have := b.stop_le_length
  simp only [region]
  rw [Nat.sub_add_cancel (by omega), Octets.slice?_eq (Nat.sub_le ..) b.stop_le_length]
  simp only [data, List.drop_drop]
  congr 2
  omega

/-- An edit reaches nowhere outside the storage, and leaves the region of the edited buffer. -/
theorem edit?_region (b : Buffer) (e : Edit) :
    b.region.edit? e = some (Prod.map id region (b.edit e)) := by
  have ordered := b.start_le_stop
  have within := b.stop_le_length
  have fits : b.start ≤ b.storage.length := Nat.le_trans ordered within
  have length := b.length?_region
  rw [length_data] at length
  cases e with
  | append octets =>
    simp only [Region.edit?, region, overwrite?_grown within]
    rfl
  | prepend octets =>
    by_cases room : octets.length ≤ b.start
    · have start : distance? octets.length b.region.start = some (b.start - octets.length) :=
        distance?_eq room
      have ends : b.start - octets.length + octets.length ≤ b.region.storage.length := by
        rw [Nat.sub_add_cancel room]
        exact fits
      have put := Octets.overwrite?_eq ends
      rw [Nat.sub_add_cancel room] at put
      simp only [Region.edit?, if_neg (Nat.not_lt.mpr room : ¬ b.region.start < octets.length),
        start, Option.bind_eq_bind, Option.bind_some, put, edit, prepend, dif_pos room]
      rfl
    · simp only [Region.edit?, if_pos (Nat.lt_of_not_le room : b.region.start < octets.length),
        edit, prepend, dif_neg room]
      rfl
  | removeStart n =>
    simp only [Region.edit?, length, Option.bind_eq_bind, Option.bind_some]
    by_cases long : n ≤ b.stop - b.start
    · have cut := b.slice?_front long
      simp only [if_neg (Nat.not_lt.mpr long), cut, edit, removeStart, dif_pos long]
      rfl
    · simp only [if_pos (Nat.lt_of_not_le long), edit, removeStart, dif_neg long]
      rfl
  | removeEnd n =>
    simp only [Region.edit?, length, Option.bind_eq_bind, Option.bind_some]
    by_cases long : n ≤ b.stop - b.start
    · have stop : distance? n b.region.stop = some (b.stop - n) :=
        distance?_eq (Nat.le_trans long (Nat.sub_le ..))
      have cut := b.slice?_back long
      simp only [if_neg (Nat.not_lt.mpr long), stop, Option.bind_some, cut, edit, removeEnd,
        dif_pos long]
      rfl
    · simp only [if_pos (Nat.lt_of_not_le long), edit, removeEnd, dif_neg long]
      rfl
  | truncate n =>
    simp only [Region.edit?, length, Option.bind_eq_bind, Option.bind_some]
    by_cases shorter : n < b.stop - b.start
    · simp only [if_pos shorter, edit, truncate, dif_pos shorter]
      rfl
    · simp only [if_neg shorter, edit, truncate, dif_neg shorter]
      rfl

/-! ## Any number of edits -/

theorem editing_view (b : Buffer) (edits : List Edit) :
    editing View.edit b.view edits = Prod.map id view (editing edit b edits) := by
  induction edits generalizing b with
  | nil => rfl
  | cons e es ih =>
    simp only [editing, view_edit, Prod.map, id_eq, ih]

theorem editing?_region (b : Buffer) (edits : List Edit) :
    b.region.editing? edits = some (Prod.map id region (editing edit b edits)) := by
  induction edits generalizing b with
  | nil => rfl
  | cons e es ih =>
    simp only [Region.editing?, edit?_region, Option.bind_eq_bind, Option.bind_some, Prod.map,
      id_eq, ih, editing]
    rfl

/-- From any beginning and through any edits, a region in memory never fails, keeps its positions in
order and within its storage, and is told what the same edits of a list with room on either side
are told. What it holds and what it gives up is that list, and the list with the room around it is
as long as the storage. An edit that fails changes nothing, and the storage grows only for data that
the room behind does not hold. -/
theorem refines_list (o : Origin) (edits : List Edit) :
    let (replies, v) := editing View.edit o.view edits
    ∃ b, editing edit o.buffer edits = (replies, b) ∧ b.view = v ∧
      o.region.editing? edits = some (replies, b.region) ∧
      (b.region.start ≤ b.region.stop ∧ b.region.stop ≤ b.region.storage.length) ∧
      (b.region.start = v.head ∧ b.region.length? = some v.data.length ∧
        b.region.data? = some v.data ∧ b.region.roomAtEnd? = some v.tail) ∧
      v.head + v.data.length + v.tail = b.region.storage.length ∧
      b.region.release? = some v.data ∧
      ∀ (e : Edit) (reply : Reply) (r : Region), b.region.edit? e = some (reply, r) →
        (reply.Failed → r = b.region) ∧
        (r.storage.length = b.region.storage.length ∨
          ∃ octets, e = .append octets ∧ v.tail < octets.length ∧
            r.storage.length = v.head + v.data.length + octets.length) := by
  have seen := editing_view o.buffer edits
  have stored := editing?_region o.buffer edits
  rw [view_origin] at seen
  rw [region_origin] at stored
  rw [seen]
  generalize editing edit o.buffer edits = edited at stored
  obtain ⟨replies, b⟩ := edited
  refine ⟨b, rfl, rfl, stored, ⟨b.start_le_stop, b.stop_le_length⟩,
    ⟨rfl, b.length?_region, b.data?_region, b.roomAtEnd?_region⟩, b.size_view,
    b.release?_region, ?_⟩
  intro e reply r made
  rw [edit?_region] at made
  cases made
  constructor
  · intro failed
    exact congrArg region (edit_of_failed rfl failed)
  · have sizes := View.size_edit (b.view_edit e)
    simp only [size_view] at sizes
    exact sizes

/-- Room that was given up in front is used again, stale octets behind the data are overwritten, the
storage grows by two, and a prepend and a removal fail. -/
theorem refines_list_reused :
    let edits : List Edit :=
      [.removeStart 2, .prepend [9], .truncate 1, .append [7, 8, 6], .prepend [5, 5]]
    ∃ b, editing edit (.ofOctets [1, 2, 3]) edits =
        ([.removed [1, 2], .done, .done, .done, .refused (.insufficientHeadroom 2 1)], b) ∧
      b.view = ⟨1, [9, 7, 8, 6], 0⟩ ∧ b.region.storage.length = 5 ∧
      b.region.release? = some [9, 7, 8, 6] ∧
      ∃ r, b.region.edit? (.removeEnd 9) = some (.short, r) ∧ r = b.region := by
  intro edits
  obtain ⟨b, ran, seen, -, -, -, whole, released, further⟩ :=
    refines_list (.ofOctets [1, 2, 3]) edits
  refine ⟨b, ran, seen, whole.symm, released, ?_⟩
  obtain rfl : (editing edit (.ofOctets [1, 2, 3]) edits).2 = b := congrArg Prod.snd ran
  exact ⟨_, rfl, (further (.removeEnd 9) .short _ rfl).1 trivial⟩

end Buffer
end CommandLink
