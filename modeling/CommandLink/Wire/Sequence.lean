import CommandLink.Octets

/-! # Sequence numbers

Each direction of a link numbers its frames modulo 16. A receiver remembers the last number it
saw, and from it alone tells a repeat (the same number again) and a gap (any number but the
successor); a sender remembers the last number it used. Neither remembers anything before its
first frame, so that a first frame is neither repeat nor gap, and a sender starts at 0. -/

namespace CommandLink

/-- A sequence number; its successor wraps from 15 to 0. -/
abbrev SeqNum := Fin 16

namespace SeqNum

/-- The number of a sender's first frame. -/
def first : SeqNum := ⟨0, by decide⟩

/-- The sequence number of a value below 16. -/
def ofOctet? (b : UInt8) : Option SeqNum :=
  if h : b.toNat < 16 then some ⟨b.toNat, h⟩ else none

/-- The sequence number in the low four bits of a frame's first octet. -/
def ofLowBits (b : UInt8) : SeqNum :=
  ⟨b.toNat % 16, Nat.mod_lt _ (by decide)⟩

/-- The sequence number as an octet. -/
def toOctet (s : SeqNum) : UInt8 := UInt8.ofNat s.val

/-- The number of the frame that follows. -/
def next (s : SeqNum) : SeqNum := s + 1

@[simp] theorem toNat_toOctet (s : SeqNum) : (toOctet s).toNat = s.val := by
  have := s.isLt
  simp [toOctet]
  omega

@[simp] theorem ofOctet?_toOctet (s : SeqNum) : ofOctet? (toOctet s) = some s := by
  have := s.isLt
  simp [ofOctet?]

end SeqNum

/-- What a receiver knows of its peer's numbering. -/
structure Inbound where
  lastSeen : Option SeqNum
  deriving DecidableEq

namespace Inbound

/-- Nothing seen yet. -/
def fresh : Inbound := ⟨none⟩

/-- The number of the next frame, if none is lost. -/
def expected (r : Inbound) : Option SeqNum := r.lastSeen.map SeqNum.next

/-- A frame with the number seen last is a retransmission. -/
def isRepeat (r : Inbound) (s : SeqNum) : Bool := r.lastSeen == some s

/-- A frame with any number but the expected one tells of lost frames. -/
def isGap (r : Inbound) (s : SeqNum) : Bool :=
  match r.expected with
  | some e => e != s
  | none => false

def record (_ : Inbound) (s : SeqNum) : Inbound := ⟨some s⟩

@[simp] theorem lastSeen_record (r : Inbound) (s : SeqNum) :
    (r.record s).lastSeen = some s := rfl

@[simp] theorem isRepeat_fresh (s : SeqNum) : fresh.isRepeat s = false := rfl

@[simp] theorem isGap_fresh (s : SeqNum) : fresh.isGap s = false := rfl

theorem isRepeat_iff {r : Inbound} {s : SeqNum} : r.isRepeat s ↔ r.lastSeen = some s := by
  simp [isRepeat]

theorem isGap_iff {r : Inbound} {s : SeqNum} :
    r.isGap s ↔ ∃ l, r.lastSeen = some l ∧ s ≠ SeqNum.next l := by
  cases h : r.lastSeen with
  | none => simp [isGap, expected, h]
  | some l => simp [isGap, expected, h, ne_comm]

end Inbound

/-- What a sender knows of its own numbering. -/
structure Outbound where
  lastSent : Option SeqNum
  deriving DecidableEq

namespace Outbound

/-- Nothing sent yet. -/
def fresh : Outbound := ⟨none⟩

/-- The number the next frame carries. -/
def peek (t : Outbound) : SeqNum :=
  match t.lastSent with
  | some s => s.next
  | none => SeqNum.first

/-- Takes `s` as the number sent last. -/
def commit (_ : Outbound) (s : SeqNum) : Outbound := ⟨some s⟩

/-- Takes the next number as sent. -/
def advance (t : Outbound) : SeqNum × Outbound := (t.peek, t.commit t.peek)

@[simp] theorem peek_fresh : fresh.peek = SeqNum.first := rfl

@[simp] theorem lastSent_commit (t : Outbound) (s : SeqNum) :
    (t.commit s).lastSent = some s := rfl

@[simp] theorem peek_commit (t : Outbound) (s : SeqNum) : (t.commit s).peek = s.next := rfl

end Outbound
end CommandLink
