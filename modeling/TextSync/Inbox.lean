import TextSync.Message

/-!
The queue of incoming events: a sender puts them in at one end, a session takes them out at the
other. It holds no more than its capacity. Either end can be given up.
-/

namespace TextSync

/-- The queue of `remote_events`, with what is known of its two ends. -/
structure Inbox where
  capacity : Nat
  queued : List Incoming
  sending : Bool
  receiving : Bool
deriving DecidableEq, Repr

namespace Inbox

/-- An empty queue with both its ends (`remote_events`). -/
def ofCapacity (capacity : Nat) : Inbox := ⟨capacity, [], true, true⟩

/-- What becomes of an event that is offered. -/
inductive Reply where
  | accepted
  | full
  | closed
  | noSender
deriving DecidableEq, Repr

/-- The answer to an event that is offered now. A sender that was given up offers nothing. -/
def reply (i : Inbox) : Reply :=
  if !i.sending then .noSender
  else if !i.receiving then .closed
  else if i.queued.length < i.capacity then .accepted
  else .full

/-- Puts an event in, if there is room and someone to take it. -/
def offer (event : Incoming) (i : Inbox) : Inbox :=
  if i.reply = .accepted then { i with queued := i.queued ++ [event] } else i

/-- No more events come in; those that wait stay. -/
def closeSender (i : Inbox) : Inbox := { i with sending := false }

/-- No one takes events out any more, and what waits is lost. -/
def closeReceiver (i : Inbox) : Inbox := { i with queued := [], receiving := false }

end Inbox
end TextSync
