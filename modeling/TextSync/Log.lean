import TextSync.Peer

/-!
The lines a session writes about itself, for those who watch over it.
-/

namespace TextSync

/-- How much a line matters to those who watch. -/
inductive Level where
  | debug
  | info
  | warn
  | error
deriving DecidableEq, Repr

def Level.name : Level → String
  | .debug => "DEBUG"
  | .info => "INFO"
  | .warn => "WARN"
  | .error => "ERROR"

/-- Why a session ends: who calls `shut_down`. -/
inductive Ending where
  | remoteDisconnect
  | teardown
  | editorClosed
  | inboxClosed
  | dropped
deriving DecidableEq, Repr

/-- The reason as `shut_down` is given it. -/
def Ending.reason : Ending → String
  | .remoteDisconnect => "remote disconnect"
  | .teardown => "teardown"
  | .editorClosed => "surface closed"
  | .inboxClosed => "event channel closed"
  | .dropped => "dropped"

/-- What `Binding` and `ChannelCollaborator` log, line by line. -/
inductive Notice where
  | refusingToStart (complaint : Complaint)
  | awaitingSnapshot
  | live (length : Nat)
  | ignoringChange (phase : Phase)
  | undeliverable (position : Nat)
  | diverged (reason : Text)
  | protocolError (complaint : Complaint)
  | droppingEvent (kind : String)
  | disconnected (ending : Ending)
deriving DecidableEq, Repr

namespace Notice

def level : Notice → Level
  | .refusingToStart _ => .error
  | .live _ | .disconnected _ => .info
  | .diverged _ | .protocolError _ => .warn
  | .awaitingSnapshot | .ignoringChange _ | .undeliverable _ | .droppingEvent _ => .debug

/-- The text of a line, given the name of the session it is about. -/
def text (session : String) : Notice → String
  | .refusingToStart complaint => s!"Refusing to bind: {complaint.message}"
  | .awaitingSnapshot => s!"Binding {session} awaiting document snapshot"
  | .live length => s!"Binding {session} live with {length} chars"
  | .ignoringChange phase => s!"Binding {session} ignoring local change while {phase.name}"
  | .undeliverable position => s!"Outbound channel closed, dropping transform at {position}"
  | .diverged reason => s!"Binding {session} diverged: {rejection reason}"
  | .protocolError complaint => s!"Binding {session} protocol error: {complaint.message}"
  | .droppingEvent kind => s!"Binding {session} dropping {kind} event after disconnect"
  | .disconnected ending => s!"Binding {session} disconnected ({ending.reason})"

/-- A whole line, its level before its text. -/
def line (session : String) (n : Notice) : String := s!"{n.level.name} {n.text session}"

end Notice
end TextSync
