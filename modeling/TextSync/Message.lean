import TextSync.Edit
import TextSync.Json

/-!
What travels between a session and the other side: events come in, actions go out. The payload of
a presence message is nobody's business here and is passed on as it is.
-/

namespace TextSync

/-- The whole text at one moment (`DocumentSnapshot`). -/
structure Document where
  content : Text
deriving DecidableEq, Repr

/-- An event from the other side (`RemoteEvent`). -/
inductive Incoming where
  | document (document : Document)
  | edits (batch : List Edit)
  | disconnect
  | presence (payload : Json)
deriving DecidableEq, Repr

/-- The short name of an event (`RemoteEvent::kind`). -/
def Incoming.kind : Incoming → String
  | .document _ => "document"
  | .edits _ => "transforms"
  | .disconnect => "disconnect"
  | .presence _ => "presence"

/-- An action as it is passed on to the other side (`Outbound`). -/
inductive Outgoing where
  | edit (edit : Edit)
  | cursor (offset : Nat)
  | error (message : Text)
  | presence (payload : Json)
deriving DecidableEq, Repr

end TextSync
