/-!
The signals by which an editor tells that its user has changed the text. A signal carries nothing
but itself, so what is waiting is a number. There is one listener's place; it is given away once.
-/

namespace TextSync

/-- The listener's place: still to be given away, given away, or empty for good. -/
inductive Listener where
  | offered
  | taken
  | gone
deriving DecidableEq, Repr

/-- The channel of a `MemorySurface`'s notifications: its sender, what waits in it, and its
receiver. -/
structure Signals where
  sending : Bool
  queued : Nat
  listener : Listener
deriving DecidableEq, Repr

namespace Signals

/-- A sender, nothing sent, and the place on offer. -/
def fresh : Signals := ⟨true, 0, .offered⟩

/-- An editor that cannot tell. -/
def mute : Signals := ⟨false, 0, .gone⟩

/-- One more signal, unless no one sends or no one can ever hear it (`notify`). -/
def emit (s : Signals) : Signals :=
  if s.sending ∧ s.listener ≠ .gone then { s with queued := s.queued + 1 } else s

/-- No more signals come; those that wait stay. -/
def close (s : Signals) : Signals := { s with sending := false }

/-- Takes the listener's place, if it is on offer. -/
def take? (s : Signals) : Option Signals :=
  if s.listener = .offered then some { s with listener := .taken } else none

/-- The listener leaves, and what waits for it is lost. -/
def drop (s : Signals) : Signals := { s with queued := 0, listener := .gone }

/-- What there is to hear: a change, nothing yet, or the end. -/
inductive Heard where
  | changed
  | nothing
  | ended
deriving DecidableEq, Repr

/-- What a listener hears at this moment. The end is heard only after the last signal. -/
def hear (s : Signals) : Heard :=
  if 0 < s.queued then .changed else if s.sending then .nothing else .ended

/-- One signal has been heard. -/
def next (s : Signals) : Signals := { s with queued := s.queued - 1 }

end Signals
end TextSync
