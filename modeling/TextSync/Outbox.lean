import TextSync.Peer

/-!
A peer at the far end of a queue of actions. It refuses edits that change nothing. Once no one
listens any more, whatever is put in is lost.
-/

namespace TextSync

/-- The queue behind a `ChannelCollaborator`, and whether its receiver still listens. -/
structure Outbox where
  queued : List Outgoing
  listening : Bool
deriving DecidableEq, Repr

namespace Outbox

/-- An empty queue with a receiver (`ChannelCollaborator::new`). -/
def fresh : Outbox := ⟨[], true⟩

/-- The answer of a `ChannelCollaborator`: an edit is checked before it is put in. -/
def verdict (listening : Bool) (e : Edit) : Verdict :=
  match e.check with
  | .error fault => .refused fault.message.toList
  | .ok () => if listening then .delivered else .undeliverable

/-- The peer at the far end. -/
def peer (listening : Bool) : Peer := fun _ e => verdict listening e

/-- Puts an action in, which is lost if no one listens. -/
def put (action : Outgoing) (o : Outbox) : Outbox :=
  if o.listening then { o with queued := o.queued ++ [action] } else o

/-- What a call leaves in the queue. -/
def carry (o : Outbox) (c : Call) : Outbox :=
  match c.outgoing? with
  | some action => o.put action
  | none => o

/-- Answers an edit and puts it in, if it is delivered. -/
def send (e : Edit) (o : Outbox) : Verdict × Outbox :=
  (verdict o.listening e, o.carry (.send e (verdict o.listening e)))

/-- No one listens any more; what is queued can still be taken. -/
def close (o : Outbox) : Outbox := { o with listening := false }

/-- Takes out all that waits. -/
def drain (o : Outbox) : List Outgoing × Outbox := (o.queued, { o with queued := [] })

end Outbox
end TextSync
