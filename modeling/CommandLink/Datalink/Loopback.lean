import CommandLink.Datalink.Error

/-! # The loopback pair

Two ends in one process and two channels between them. What an end transmits goes into the channel
towards the other end, from which the receive thread of that end takes it.

Both halves of a channel belong to somebody. The sending half is with the end that transmits, until
that end is stopped or dropped. The receiving half is with the end that receives until it is
started, and with its receive thread from then on; the thread ends when its own end is stopped, or
when its channel is empty and the sending half is gone. -/

namespace CommandLink
namespace Loopback

/-- How far an end is in its life. -/
inductive Phase
  | idle
  | running
  | stopped
  | dropped
  deriving DecidableEq

structure End where
  phase : Phase
  /-- Whether the receive thread of this end is there. -/
  listening : Bool
  /-- The packets in the channel towards this end. -/
  inbound : List Octets
  /-- The packets that this end has received. -/
  received : List Octets
  deriving DecidableEq

namespace End

def fresh : End := ⟨.idle, false, [], []⟩

/-- Whether the sending half of the channel from this end is there. -/
def holdsSender (e : End) : Bool := e.phase == .idle || e.phase == .running

/-- Whether the receiving half of the channel towards this end is there. -/
def holdsReceiver (e : End) : Bool := e.phase == .idle || e.listening

/-- The receiving half is given up, with the packets that nobody has taken. -/
def hangUp (e : End) : End := { e with listening := false, inbound := [] }

/-- What the receive thread does next, given whether packets can still come: it takes a packet, or
ends, or waits. Having taken a packet it looks whether its end still runs. -/
def turn (e : End) (more : Bool) : Option End :=
  if e.listening then
    match e.inbound with
    | packet :: rest =>
      let taken := { e with inbound := rest, received := e.received ++ [packet] }
      some (if e.phase = .running then taken else taken.hangUp)
    | [] => if e.phase = .running ∧ more then none else some e.hangUp
  else none

/-- How many turns the receive thread has at most before it waits for another packet. -/
def work (e : End) : Nat := if e.listening then e.inbound.length + 1 else 0

theorem work_turn {e e' : End} {more : Bool} (h : e.turn more = some e') : e'.work < e.work := by
  unfold turn at h
  split at h
  · next listening =>
    split at h
    · next packet rest hi =>
      cases h
      split <;> simp [work, hangUp, listening, hi]
    · split at h <;> cases h
      simp [work, hangUp, listening]
  · cases h

end End

inductive Side
  | a
  | b
  deriving DecidableEq

def Side.other : Side → Side
  | .a => .b
  | .b => .a

structure Pair where
  a : End
  b : End
  deriving DecidableEq

/-- What the owner of an end can ask of it. -/
inductive Action
  | start (side : Side)
  | transmit (side : Side) (packet : Octets)
  | stop (side : Side)
  | drop (side : Side)
  deriving DecidableEq

namespace Pair

def fresh : Pair := ⟨.fresh, .fresh⟩

def get (p : Pair) : Side → End
  | .a => p.a
  | .b => p.b

def set (p : Pair) (side : Side) (e : End) : Pair :=
  match side with
  | .a => { p with a := e }
  | .b => { p with b := e }

@[simp] theorem get_set_self (p : Pair) (side : Side) (e : End) :
    (p.set side e).get side = e := by
  cases side <;> rfl

@[simp] theorem get_set_other (p : Pair) (side : Side) (e : End) :
    (p.set side e).get side.other = p.get side.other := by
  cases side <;> rfl

/-! ## What a call does itself -/

/-- Puts a packet into the channel towards the other end. -/
def offer (p : Pair) (side : Side) (packet : Octets) : Except LinkError Nat × Pair :=
  let peer := p.get side.other
  if ¬ (p.get side).holdsSender then (.error .shutdown, p)
  else if ¬ peer.holdsReceiver then (.error .disconnected, p)
  else
    (.ok packet.length, p.set side.other { peer with inbound := peer.inbound ++ [packet] })

/-- The answer of a call, if it gives one, and the pair as the call leaves it. An end that is not
started yet is dropped with the receiving half of its channel; a started one is stopped. -/
def act (p : Pair) : Action → Option (Except LinkError Nat) × Pair
  | .start side => (none, p.set side { p.get side with phase := .running, listening := true })
  | .transmit side packet => ((p.offer side packet).map some id)
  | .stop side => (none, p.set side { p.get side with phase := .stopped })
  | .drop side =>
    let e := { p.get side with phase := .dropped }
    (none, p.set side (if (p.get side).phase = .idle then e.hangUp else e))

/-! ## What the receive threads do then -/

/-- A turn of the receive thread of an end. -/
def turn (p : Pair) (side : Side) : Option Pair :=
  ((p.get side).turn (p.get side.other).holdsSender).map (p.set side)

/-- How many turns both receive threads have at most before they wait. -/
def work (p : Pair) : Nat := p.a.work + p.b.work

theorem work_turn {p q : Pair} {side : Side} (h : p.turn side = some q) : q.work < p.work := by
  obtain ⟨e, he, rfl⟩ := Option.map_eq_some_iff.mp h
  have := End.work_turn he
  cases side <;> simp only [work, get, set] at * <;> omega

/-- Lets the receive threads go on until both wait or have ended. -/
def settle (p : Pair) : Pair :=
  match _ha : p.turn .a with
  | some q => settle q
  | none =>
    match _hb : p.turn .b with
    | some q => settle q
    | none => p
termination_by p.work
decreasing_by
  · exact work_turn _ha
  · exact work_turn _hb

/-! ## Calls -/

/-- Starts an end. What waited for it arrives. -/
def start (p : Pair) (side : Side) : Pair := (p.act (.start side)).2.settle

/-- Sends a packet from an end to the other. -/
def transmit (p : Pair) (side : Side) (packet : Octets) : Except LinkError Nat × Pair :=
  (p.offer side packet).map id settle

/-- Stops an end, and waits for its receive thread. -/
def stop (p : Pair) (side : Side) : Pair := (p.act (.stop side)).2.settle

/-- Gives an end up altogether, started or not. -/
def drop (p : Pair) (side : Side) : Pair := (p.act (.drop side)).2.settle

end Pair

/-- An end is started once; only a started end transmits and stops. -/
def Action.allowed (p : Pair) : Action → Bool
  | .start side => (p.get side).phase == .idle
  | .transmit side _ | .stop side =>
    (p.get side).phase == .running || (p.get side).phase == .stopped
  | .drop _ => true

end Loopback
end CommandLink
