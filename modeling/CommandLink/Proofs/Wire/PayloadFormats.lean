import CommandLink.Wire.Command
import CommandLink.Wire.Event
import CommandLink.Wire.Sync

/-! # Formats of payloads

The headers and bodies in payloads are read leniently: what follows is ignored, a reserved octet may
hold anything, and each octet above 15 stands for no sequence number. They are written in one way
only. So a value survives being written, and what was read is written as it stood there but for the
octets that mean nothing (`Format.payloads_canonical`).

A format comes with a second reader and a second writer that look at one position after the other
and fail where there is none. That they never do says that the length checks in front of them are
enough. -/

namespace CommandLink
namespace Octets

/-- The 16-bit word at the beginning. -/
def word16? (octets : Octets) : Option UInt16 := do
  return word16 (← octets[0]?) (← octets[1]?)

/-- The 32-bit word at the beginning. -/
def word32? (octets : Octets) : Option UInt32 := do
  return word32 (← octets[0]?) (← octets[1]?) (← octets[2]?) (← octets[3]?)

end Octets

/-- How values of a type are written in payloads and read from them. -/
structure Format (α : Type) where
  encode : α → Octets
  decode : Octets → Except WireError α
  /-- `encode`, position by position. -/
  encode? : α → Option Octets
  /-- `decode`, position by position. -/
  decode? : Octets → Option (Except WireError α)
  /-- The values that are written. -/
  Legal : α → Prop
  /-- The octets that are written for a value that was read from octets of the same length. -/
  normal : Octets → Octets

namespace Format
variable {α : Type} {f : Format α}

/-- A value that is written is read again, whatever follows. What was read can be written and is
read from that again, and it is written as it stood at the beginning of the octets, made normal. No
position is outside the octets. -/
structure Canonical (f : Format α) : Prop where
  decode_encode (x : α) : f.Legal x → ∀ rest, f.decode (f.encode x ++ rest) = .ok x
  legal {octets : Octets} {x : α} : f.decode octets = .ok x → f.Legal x
  decode_again {octets : Octets} {x : α} : f.decode octets = .ok x → f.decode (f.encode x) = .ok x
  encode_decoded {octets : Octets} {x : α} : f.decode octets = .ok x →
    (f.encode x).length ≤ octets.length ∧
      f.encode x = f.normal (octets.take (f.encode x).length)
  encode_within (x : α) : f.encode? x = some (f.encode x)
  decode_within (octets : Octets) : f.decode? octets = some (f.decode octets)

/-- What was read is read again from what is written for it, since it can be written. -/
theorem canonical_of
    (decode_encode : ∀ x, f.Legal x → ∀ rest, f.decode (f.encode x ++ rest) = .ok x)
    (decoded : ∀ octets x, f.decode octets = .ok x → f.Legal x ∧
      (f.encode x).length ≤ octets.length ∧
        f.encode x = f.normal (octets.take (f.encode x).length))
    (encode_within : ∀ x, f.encode? x = some (f.encode x))
    (decode_within : ∀ octets, f.decode? octets = some (f.decode octets)) : f.Canonical where
  decode_encode := decode_encode
  legal read := (decoded _ _ read).1
  decode_again {octets x} read := by
    have again := decode_encode x (decoded octets x read).1 []
    rwa [List.append_nil] at again
  encode_decoded read := (decoded _ _ read).2
  encode_within := encode_within
  decode_within := decode_within

/-- Reads octets if there are as many as needed. -/
def sized (octets : Octets) (needed : Nat) (read : Option (Except WireError α)) :
    Option (Except WireError α) :=
  if octets.length < needed then some (.error (.truncated needed octets.length)) else read

theorem sized_of_le {octets : Octets} {needed : Nat} {read : Option (Except WireError α)}
    (long : needed ≤ octets.length) : sized octets needed read = read :=
  if_neg (Nat.not_lt.mpr long)

/-! ## Formats of four octets -/

/-- Reads four octets. -/
def four (read : UInt8 → UInt8 → UInt8 → UInt8 → Except WireError α) (octets : Octets) :
    Except WireError α :=
  match octets with
  | a :: b :: c :: d :: _ => read a b c d
  | short => .error (.truncated 4 short.length)

/-- `four`, position by position. -/
def four? (read : UInt8 → UInt8 → UInt8 → UInt8 → Except WireError α) (octets : Octets) :
    Option (Except WireError α) :=
  sized octets 4 do
    return read (← octets[0]?) (← octets[1]?) (← octets[2]?) (← octets[3]?)

variable {read : UInt8 → UInt8 → UInt8 → UInt8 → Except WireError α}

theorem four?_eq (octets : Octets) : four? read octets = some (four read octets) := by
  match octets with
  | [] | [_] | [_, _] | [_, _, _] => rfl
  | _ :: _ :: _ :: _ :: rest => exact sized_of_le (Nat.le_add_left 4 rest.length)

theorem canonical_of_four (decode_eq : f.decode = four read) (decode?_eq : f.decode? = four? read)
    (encode?_eq : ∀ x, f.encode? x = some (f.encode x)) (length : ∀ x, (f.encode x).length = 4)
    (round : ∀ x, f.Legal x → ∀ rest, f.decode (f.encode x ++ rest) = .ok x)
    (decoded : ∀ a b c d x, read a b c d = .ok x → f.Legal x ∧ f.encode x = f.normal [a, b, c, d]) :
    f.Canonical := by
  refine canonical_of round ?_ encode?_eq ?_
  · intro octets x h
    rw [decode_eq] at h
    match octets with
    | a :: b :: c :: d :: rest =>
      obtain ⟨legal, same⟩ := decoded a b c d x h
      rw [length]
      exact ⟨legal, Nat.le_add_left 4 rest.length, same⟩
  · intro octets
    rw [decode?_eq, decode_eq, four?_eq]

def commandHeader : Format CommandHeader where
  encode := CommandHeader.encode
  decode := CommandHeader.decode
  encode? h := some [h.id.subsystem, h.id.command, h.id.subcommand, 0]
  decode? := four? fun subsystem command subcommand _ => .ok ⟨⟨subsystem, command, subcommand⟩⟩
  Legal _ := True
  -- the last octet is reserved
  normal octets := octets.set 3 0

def responseHeader : Format ResponseHeader where
  encode := ResponseHeader.encode
  decode := ResponseHeader.decode
  encode? h := some [h.id.subsystem, h.id.command, h.id.subcommand, h.result]
  decode? := four? fun subsystem command subcommand result =>
    .ok ⟨⟨subsystem, command, subcommand⟩, result⟩
  Legal _ := True
  normal := id

def eventHeader : Format EventHeader where
  encode := EventHeader.encode
  decode := EventHeader.decode
  encode? h := some [h.subsystem, h.event, 0, 0]
  decode? := four? fun subsystem event _ _ => .ok ⟨subsystem, event⟩
  Legal _ := True
  -- the last two octets are reserved
  normal octets := (octets.set 2 0).set 3 0

def standbyExit : Format StandbyExitReason where
  encode := StandbyExitReason.encode
  decode := StandbyExitReason.decode
  encode? r := some (Octets.ofWord32 r.code)
  decode? := four? fun a b c d => StandbyExitReason.ofCode (Octets.word32 a b c d)
  Legal _ := True
  normal := id

def syncRequest : Format SyncRequest where
  encode := SyncRequest.encode
  decode := SyncRequest.decode
  encode? r := some (Octets.ofWord32 r.token)
  decode? := four? fun a b c d =>
    let token := Octets.word32 a b c d
    if token = 0 then .error (.invalidValue .syncToken 0) else .ok ⟨token⟩
  Legal r := r.token ≠ 0
  normal := id

theorem commandHeader_canonical : commandHeader.Canonical := by
  refine canonical_of_four rfl rfl (fun _ => rfl) (fun _ => rfl)
    (fun h _ rest => h.decode_encode_append rest) ?_
  rintro a b c d h ⟨⟩
  exact ⟨trivial, rfl⟩

theorem responseHeader_canonical : responseHeader.Canonical := by
  refine canonical_of_four rfl rfl (fun _ => rfl) (fun _ => rfl)
    (fun h _ rest => h.decode_encode_append rest) ?_
  rintro a b c d h ⟨⟩
  exact ⟨trivial, rfl⟩

theorem eventHeader_canonical : eventHeader.Canonical := by
  refine canonical_of_four rfl rfl (fun _ => rfl) (fun _ => rfl)
    (fun h _ rest => h.decode_encode_append rest) ?_
  rintro a b c d h ⟨⟩
  exact ⟨trivial, rfl⟩

theorem standbyExit_canonical : standbyExit.Canonical := by
  refine canonical_of_four rfl rfl (fun _ => rfl) (fun _ => rfl)
    (fun r _ rest => r.decode_encode_append rest) ?_
  intro a b c d r h
  refine ⟨trivial, ?_⟩
  change Octets.ofWord32 r.code = [a, b, c, d]
  rw [StandbyExitReason.code_of_ofCode h, Octets.ofWord32_word32]

theorem syncRequest_canonical : syncRequest.Canonical := by
  refine canonical_of_four rfl rfl (fun _ => rfl) (fun _ => rfl)
    (fun r legal rest => r.decode_encode_append legal rest) ?_
  intro a b c d r h
  simp only at h
  split at h
  · cases h
  · next legal =>
    cases h
    exact ⟨legal, Octets.ofWord32_word32 a b c d⟩

/-! ## The other formats -/

def beacon : Format Beacon where
  encode := Beacon.encode
  decode := Beacon.decode
  encode? b := do
    let declared := min b.elements.length maxVendorElements
    return Octets.ofWord16 (UInt16.ofNat declared) ++ (← b.elements.slice? 0 declared)
  decode? octets := sized octets 2 do
    let declared := (← octets.word16?).toNat
    if maxVendorElements < declared then
      return .error (.payloadTooLarge declared maxVendorElements)
    else sized octets (2 + declared) do
      return Beacon.ofElements (← octets.slice? 2 (2 + declared))
  Legal _ := True
  normal := id

def syncResponse : Format SyncResponse where
  encode := SyncResponse.encode
  decode := SyncResponse.decode
  encode? r := do
    let token := Octets.ofWord32 r.token
    return [← token[0]?, ← token[1]?, ← token[2]?, ← token[3]?,
      (r.lastSeen.map SeqNum.toOctet).getD SyncResponse.noSeq, r.version]
  decode? octets := sized octets SyncResponse.size do
    return .ok ⟨← octets.word32?, SeqNum.ofOctet? (← octets[4]?), ← octets[5]?⟩
  Legal _ := True
  -- each octet above 15 stands for no sequence number
  normal octets := octets.modify 4 fun seq => if seq ≤ 15 then seq else 0xFF

theorem beacon_canonical : beacon.Canonical := by
  refine canonical_of (fun b _ rest => b.decode_encode_append rest) ?_ ?_ ?_
  · intro octets b h
    obtain ⟨padding, rfl⟩ := Beacon.decode_eq_ok_iff.mp h
    refine ⟨trivial, ?_, ?_⟩
    · exact (List.prefix_append b.encode padding).length_le
    · exact List.take_left.symm
  · intro b
    have declared : min b.elements.length maxVendorElements = b.elements.length :=
      Nat.min_eq_left b.length_le
    simp only [beacon, declared, Octets.slice?_eq (Nat.zero_le _) (Nat.le_refl _)]
    simp [Beacon.encode]
  · intro octets
    rcases octets with _ | ⟨lo, _ | ⟨hi, rest⟩⟩
    case cons.cons =>
      simp only [beacon, Beacon.decode]
      rw [sized_of_le (Nat.le_add_left 2 rest.length)]
      change (if _ then _ else _) = _
      generalize (Octets.word16 lo hi).toNat = declared
      by_cases fits : declared ≤ maxVendorElements
      · simp only [if_neg (Nat.not_lt.mpr fits), if_pos fits, sized, List.length_cons]
        by_cases long : declared ≤ rest.length
        · have within : 2 + declared ≤ (lo :: hi :: rest).length := by
            simp only [List.length_cons]
            omega
          rw [if_neg (by omega), if_pos long, Octets.slice?_eq (Nat.le_add_right ..) within]
          simp [Nat.add_comm 2]
        · rw [if_pos (by omega), if_neg long]
      · simp only [if_pos (Nat.lt_of_not_le fits), if_neg fits]
        rfl
    all_goals rfl

/-- What is written for an octet that stands for a sequence number or for none. -/
theorem written_seq (seq : UInt8) :
    ((SeqNum.ofOctet? seq).map SeqNum.toOctet).getD SyncResponse.noSeq =
      if seq ≤ 15 then seq else 0xFF := by
  have known : seq ≤ 15 ↔ seq.toNat < 16 := by
    rw [UInt8.le_iff_toNat_le]
    exact Nat.lt_succ_iff.symm
  simp only [known, SeqNum.ofOctet?]
  split
  · exact UInt8.ofNat_toNat
  · rfl

theorem syncResponse_canonical : syncResponse.Canonical := by
  refine canonical_of (fun r _ rest => r.decode_encode_append rest) ?_ (fun _ => rfl) ?_
  · intro octets r h
    rcases octets with _ | ⟨a, _ | ⟨b, _ | ⟨c, _ | ⟨d, _ | ⟨seq, _ | ⟨version, rest⟩⟩⟩⟩⟩⟩
    case cons.cons.cons.cons.cons.cons =>
      cases h
      refine ⟨trivial, Nat.le_add_left 6 rest.length, ?_⟩
      simp only [syncResponse, SyncResponse.encode, Octets.ofWord32_word32, written_seq]
      rfl
    all_goals cases h
  · intro octets
    rcases octets with _ | ⟨a, _ | ⟨b, _ | ⟨c, _ | ⟨d, _ | ⟨seq, _ | ⟨version, rest⟩⟩⟩⟩⟩⟩
    case cons.cons.cons.cons.cons.cons =>
      simp only [syncResponse]
      rw [sized_of_le (Nat.le_add_left 6 rest.length)]
      rfl
    all_goals rfl

/-- Every value of each of the seven formats is read again from what is written for it, whatever
follows; in a sync request all but the reserved token are written. What is read from any octets is
written as it stood there, but that reserved octets become 0 and an octet that stands for no
sequence number becomes the one that is written for it, and it is read from that again. No reader
and no writer looks outside its octets. -/
theorem payloads_canonical :
    commandHeader.Canonical ∧ responseHeader.Canonical ∧ eventHeader.Canonical ∧
      beacon.Canonical ∧ standbyExit.Canonical ∧ syncRequest.Canonical ∧
      syncResponse.Canonical :=
  ⟨commandHeader_canonical, responseHeader_canonical, eventHeader_canonical, beacon_canonical,
    standbyExit_canonical, syncRequest_canonical, syncResponse_canonical⟩

/-- A command header and a sync request with octets behind them, an event header with reserved
octets that are not 0, and a sync response that says in another way that there is no sequence
number. -/
theorem payloads_canonical_lenient :
    CommandHeader.decode (CommandHeader.encode ⟨⟨1, 2, 3⟩⟩ ++ [7, 7]) = .ok ⟨⟨1, 2, 3⟩⟩ ∧
    SyncRequest.decode (SyncRequest.encode ⟨5⟩ ++ [7]) = .ok ⟨5⟩ ∧
    EventHeader.encode ⟨1, 2⟩ = ([1, 2, 8, 9].set 2 0).set 3 0 ∧
    SyncResponse.decode (SyncResponse.encode ⟨1, none, 4⟩) = .ok ⟨1, none, 4⟩ ∧
    SyncResponse.encode ⟨1, none, 4⟩ = [1, 0, 0, 0, 0xFF, 4] := by
  obtain ⟨command, -, event, -, -, request, response⟩ := payloads_canonical
  have header : eventHeader.decode [1, 2, 8, 9, 7] = .ok ⟨1, 2⟩ := rfl
  have unseen : syncResponse.decode [1, 0, 0, 0, 0x20, 4, 7] = .ok ⟨1, none, 4⟩ := rfl
  exact ⟨command.decode_encode ⟨⟨1, 2, 3⟩⟩ trivial [7, 7],
    request.decode_encode ⟨5⟩ (show (5 : UInt32) ≠ 0 by decide) [7],
    (event.encode_decoded header).2, response.decode_again unseen,
    (response.encode_decoded unseen).2⟩

end Format
end CommandLink
