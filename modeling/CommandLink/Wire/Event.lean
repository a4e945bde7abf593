import CommandLink.Wire.Error

/-! # Events of the wireless subsystem

Two events have arguments that a controller understands: a beacon with the vendor's information
elements, and the end of standby with its reason. -/

namespace CommandLink

/-- The events of the wireless subsystem. -/
inductive WlanEvent
  | beacon
  | standbyExit
  deriving DecidableEq

namespace WlanEvent

def code : WlanEvent → UInt8
  | .beacon => 1
  | .standbyExit => 2

def ofCode (b : UInt8) : Except WireError WlanEvent :=
  match b with
  | 1 => .ok .beacon
  | 2 => .ok .standbyExit
  | _ => .error (.invalidValue .wlanEvent (UInt32.ofNat b.toNat))

@[simp] theorem ofCode_code (e : WlanEvent) : ofCode e.code = .ok e := by
  cases e <;> rfl

theorem code_of_ofCode {b : UInt8} {e : WlanEvent} (h : ofCode b = .ok e) : e.code = b := by
  unfold ofCode at h
  split at h <;> cases h <;> rfl

end WlanEvent

/-- The longest information elements that an agent reports. -/
def maxVendorElements : Nat := 1536

/-- The arguments of a beacon event: the vendor's information elements. -/
structure Beacon where
  elements : Octets
  length_le : elements.length ≤ maxVendorElements

namespace Beacon

def ofElements (elements : Octets) : Except WireError Beacon :=
  if h : elements.length ≤ maxVendorElements then .ok ⟨elements, h⟩
  else .error (.payloadTooLarge elements.length maxVendorElements)

/-- The length as a 16-bit word, then the elements. -/
def encode (b : Beacon) : Octets :=
  Octets.ofWord16 (UInt16.ofNat b.elements.length) ++ b.elements

/-- Octets behind the declared length are padding. -/
def decode (octets : Octets) : Except WireError Beacon :=
  match octets with
  | lo :: hi :: rest =>
    let declared := (Octets.word16 lo hi).toNat
    if declared ≤ maxVendorElements then
      if declared ≤ rest.length then ofElements (rest.take declared)
      else .error (.truncated (2 + declared) octets.length)
    else .error (.payloadTooLarge declared maxVendorElements)
  | short => .error (.truncated 2 short.length)

variable {b : Beacon} {octets : Octets}

theorem toNat_length (b : Beacon) :
    (UInt16.ofNat b.elements.length).toNat = b.elements.length := by
  have := b.length_le
  simp only [maxVendorElements] at this
  rw [UInt16.toNat_ofNat', Nat.mod_eq_of_lt (by omega)]

theorem length_encode_le (b : Beacon) : b.encode.length ≤ 2 + maxVendorElements := by
  rw [encode, List.length_append, Octets.length_ofWord16]
  exact Nat.add_le_add_left b.length_le 2

@[simp] theorem decode_encode_append (b : Beacon) (padding : Octets) :
    decode (b.encode ++ padding) = .ok b := by
  have length := b.toNat_length
  have cut : (b.elements ++ padding).take b.elements.length = b.elements := by simp
  rw [encode]
  generalize UInt16.ofNat b.elements.length = declared at length
  simp only [Octets.ofWord16, List.cons_append, List.nil_append, decode, Octets.word16_ofWord16]
  simp only [length, b.length_le, cut, List.length_append, Nat.le_add_right, if_true, ofElements,
    dif_pos]

/-- What is read as a beacon is what the beacon is written as, and padding. -/
theorem decode_eq_ok_iff : decode octets = .ok b ↔ ∃ padding, octets = b.encode ++ padding := by
  constructor
  · intro h
    unfold decode at h
    split at h
    · next lo hi rest =>
      simp only at h
      split at h
      · split at h
        · next fits =>
          unfold ofElements at h
          split at h
          · cases h
            refine ⟨rest.drop (Octets.word16 lo hi).toNat, ?_⟩
            rw [encode, List.length_take_of_le fits, UInt16.ofNat_toNat, Octets.ofWord16_word16]
            simp
          · cases h
        · cases h
      · cases h
    · cases h
  · rintro ⟨padding, rfl⟩
    exact decode_encode_append b padding

end Beacon

/-- Why an agent left standby. -/
inductive StandbyExitReason
  | none
  | wakeupFrame
  | associate
  | extInput
  | whitelistPkt
  | tcpConnectionLost
  deriving DecidableEq

namespace StandbyExitReason

def code : StandbyExitReason → UInt32
  | .none => 0
  | .wakeupFrame => 1
  | .associate => 2
  | .extInput => 3
  | .whitelistPkt => 4
  | .tcpConnectionLost => 5

def name : StandbyExitReason → String
  | .none => "None"
  | .wakeupFrame => "WakeupFrame"
  | .associate => "Associate"
  | .extInput => "ExtInput"
  | .whitelistPkt => "WhitelistPkt"
  | .tcpConnectionLost => "TcpConnectionLost"

def ofCode (w : UInt32) : Except WireError StandbyExitReason :=
  match w with
  | 0 => .ok .none
  | 1 => .ok .wakeupFrame
  | 2 => .ok .associate
  | 3 => .ok .extInput
  | 4 => .ok .whitelistPkt
  | 5 => .ok .tcpConnectionLost
  | _ => .error (.invalidValue .standbyExitReason w)

@[simp] theorem ofCode_code (r : StandbyExitReason) : ofCode r.code = .ok r := by
  cases r <;> rfl

/-- The reason as a 32-bit word. -/
def encode (r : StandbyExitReason) : Octets := Octets.ofWord32 r.code

def decode (octets : Octets) : Except WireError StandbyExitReason :=
  match octets with
  | a :: b :: c :: d :: _ => ofCode (Octets.word32 a b c d)
  | short => .error (.truncated 4 short.length)

variable {r : StandbyExitReason} {octets : Octets}

theorem code_of_ofCode {w : UInt32} (h : ofCode w = .ok r) : r.code = w := by
  unfold ofCode at h
  split at h <;> cases h <;> rfl

@[simp] theorem decode_encode_append (r : StandbyExitReason) (padding : Octets) :
    decode (r.encode ++ padding) = .ok r := by
  simp only [encode, Octets.ofWord32, List.cons_append, List.nil_append, decode,
    Octets.word32_ofWord32, ofCode_code]

/-- What is read as a reason is what the reason is written as, and padding. -/
theorem decode_eq_ok_iff : decode octets = .ok r ↔ ∃ padding, octets = r.encode ++ padding := by
  constructor
  · intro h
    unfold decode at h
    split at h
    · next a b c d rest =>
      refine ⟨rest, ?_⟩
      rw [encode, code_of_ofCode h, Octets.ofWord32_word32]
      rfl
    · cases h
  · rintro ⟨padding, rfl⟩
    exact decode_encode_append r padding

end StandbyExitReason
end CommandLink
