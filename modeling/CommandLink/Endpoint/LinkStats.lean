import CommandLink.Octets

/-! # Frame counters of an endpoint -/

namespace CommandLink

structure LinkStats where
  sent : Nat
  received : Nat
  /-- Received buffers without a sound frame, and receives without a buffer. -/
  dropped : Nat
  /-- Frames discarded because they carry the sequence number seen last. -/
  repeats : Nat
  /-- Frames whose sequence number tells of lost ones before them. -/
  gaps : Nat
  deriving DecidableEq

namespace LinkStats

def zero : LinkStats := ⟨0, 0, 0, 0, 0⟩

def countSent (s : LinkStats) : LinkStats := { s with sent := s.sent + 1 }

def countReceived (s : LinkStats) : LinkStats := { s with received := s.received + 1 }

def countDropped (s : LinkStats) : LinkStats := { s with dropped := s.dropped + 1 }

def countRepeat (s : LinkStats) : LinkStats := { s with repeats := s.repeats + 1 }

def countGap (s : LinkStats) : LinkStats := { s with gaps := s.gaps + 1 }

end LinkStats
end CommandLink
