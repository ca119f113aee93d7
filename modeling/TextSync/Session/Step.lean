import TextSync.Editor.Step
import TextSync.Session.Loop

/-!
Everything that can happen to a session from outside, one step at a time: what the user and others
do to the editor, what the sender of events does, what the owner of the session asks of it, and the
passing of time.
-/

namespace TextSync.Session

/-- A step: an action on the editor, an event offered, the sender dropped, a handler called, a
request, a run, a pause, or the session dropped. -/
inductive Step where
  | act (action : Editor.Action)
  | offer (event : Incoming)
  | closeSender
  | receive (event : Incoming)
  | localChange
  | reportCursor
  | teardown
  | requestTeardown
  | run (time : Nat)
  | sleep (time : Nat)
  | drop
deriving DecidableEq, Repr

/-- What a step tells the one who takes it. -/
inductive Answer where
  | done
  | editor (answer : Editor.Answer)
  | offered (reply : Inbox.Reply)
  | edit (sent : Option Edit)
  | offset (reported : Option Nat)
  | outcome (outcome : Outcome)
  | noSession
deriving DecidableEq, Repr

/-- A step that needs the session itself, which is answered only while there is one. -/
def whileHeld (s : Session) (answer : Answer) (after : Session) : Answer × Session :=
  if s.dropped then (.noSession, s) else (answer, after)

/-- What a step tells, and what becomes of the session. -/
def step (peer : Peer) (s : Session) : Step → Answer × Session
  | .act action => (.editor (s.editor.answer action), { s with editor := s.editor.perform action })
  | .offer event => (.offered s.inbox.reply, { s with inbox := s.inbox.offer event })
  | .closeSender => (.done, { s with inbox := s.inbox.closeSender })
  | .receive event => s.whileHeld .done (s.receive peer event)
  | .localChange => s.whileHeld (.edit (s.localChange peer).1) (s.localChange peer).2
  | .reportCursor => s.whileHeld (.offset s.reportCursor.1) s.reportCursor.2
  | .teardown => s.whileHeld .done s.teardown
  | .requestTeardown => (.done, s.requestTeardown)
  | .run time => s.whileHeld (.outcome (s.run peer time).1) (s.run peer time).2
  | .sleep time => (.done, { s with now := s.now + Clock.pause time })
  | .drop => (.done, s.drop)

end TextSync.Session
