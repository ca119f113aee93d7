import TextSync.Edit.Between
import TextSync.Editor
import TextSync.History
import TextSync.Inbox
import TextSync.Log
import TextSync.Ticker

/-!
A session keeps the text of an editor and a document that others edit as well in step.

It waits for a snapshot of the document, during which the user cannot type. From then on it is live:
what the user changes is sent as an edit, what others change is written into the editor, and the
place of the caret is reported from time to time. Once disconnected it does nothing any more.

`content` is the text as last sent or written. The session learns what the user has changed by
comparing the editor with it, and so never takes its own writing for the user's.
-/

namespace TextSync

/-- What a session has done so far, in numbers (`BindingStats`). -/
structure Tally where
  sent : Nat := 0
  refused : Nat := 0
  applied : Nat := 0
  protocolErrors : Nat := 0
  cursorReports : Nat := 0
deriving DecidableEq, Repr

/-- A `Binding` with all that it is attached to: its surface, the queue of its events, and what its
collaborator and the log have been told. The clock is that of the runtime. -/
structure Session where
  editor : Editor
  inbox : Inbox
  phase : Phase
  content : Text
  /-- The changes since the snapshot. -/
  history : History
  ticker : Ticker
  tally : Tally
  teardownRequested : Bool
  /-- Whether the session has been given up by its owner. -/
  dropped : Bool
  /-- The time in milliseconds. -/
  now : Nat
  /-- All calls so far, the latest first. -/
  calls : List Entry
  /-- All notices so far, the latest first. -/
  log : List Notice
deriving DecidableEq, Repr

namespace Session

/-- A session that did not come about: the `BindingError`, and the editor, which is left
read-only. -/
structure Refusal where
  complaint : Complaint
  editor : Editor
deriving DecidableEq, Repr

/-- The error as `bind` raises it through the collaborator. -/
def Refusal.call (r : Refusal) : Call := .complain r.complaint

/-- The error as `bind` logs it. -/
def Refusal.notice (r : Refusal) : Notice := .refusingToStart r.complaint

/-- Attaches a session to an editor (`Binding::bind` with its `subscribe`). The settings are looked
at before the editor's signals are taken, so they can be mended and the attempt repeated. -/
def start (settings : Settings) (inbox : Inbox) (editor : Editor) (now : Nat) :
    Except Refusal Session :=
  let editor := editor.setEditable false
  match valid : settings.fault? with
  | some fault => .error ⟨.settings fault, editor⟩
  | none =>
    match editor.takeSignals? with
    | none => .error ⟨.noSignals, editor⟩
    | some editor => .ok {
        editor
        inbox
        phase := .awaitingSnapshot
        content := []
        history := .start []
        ticker := .stopped settings.pollPeriod (Settings.fault?_eq_none_iff.1 valid).1
        tally := {}
        teardownRequested := false
        dropped := false
        now
        calls := []
        log := [.awaitingSnapshot] }

/-- What the peer is told in an attempt: why there is no session, or nothing. -/
def told : Except Refusal Session → List Call
  | .ok s => s.calls.map (·.call)
  | .error refusal => [refusal.call]

/-- The session with one more call of its peer. -/
def call (c : Call) (s : Session) : Session := { s with calls := ⟨s.now, c⟩ :: s.calls }

/-- The session with one more line about itself. -/
def note (n : Notice) (s : Session) : Session := { s with log := n :: s.log }

/-- The session with other numbers in its tally. -/
def count (f : Tally → Tally) (s : Session) : Session := { s with tally := f s.tally }

/-- The other side has not kept to the rules (`protocol_error`). -/
def protocolError (complaint : Complaint) (s : Session) : Session :=
  s |>.count (fun t => { t with protocolErrors := t.protocolErrors + 1 })
    |>.note (.protocolError complaint)
    |>.call (.complain complaint)

/-- Ends the session: nothing is reported, heard or received any more, and the user can no longer
type (`shut_down`). The text stays in the editor. -/
def shutDown (ending : Ending) (s : Session) : Session :=
  { s with
    ticker := s.ticker.stop
    inbox := s.inbox.closeReceiver
    editor := { s.editor with editable := false, signals := s.editor.signals.drop }
    content := []
    phase := .disconnected
    log := .disconnected ending :: s.log }

/-- Records an edit that was sent and how it was answered. A refusal is complained of. -/
def recordSend (e : Edit) (s : Session) : Verdict → Session
  | .delivered =>
    s |>.call (.send e .delivered) |>.count fun t => { t with sent := t.sent + 1 }
  | .undeliverable =>
    s |>.call (.send e .undeliverable)
      |>.note (.undeliverable e.position)
      |>.count fun t => { t with sent := t.sent + 1 }
  | .refused reason =>
    s |>.call (.send e (.refused reason))
      |>.count (fun t => { t with refused := t.refused + 1 })
      |>.note (.diverged reason)
      |>.call (.complain .refused)

/-- Sends an edit. Whatever the answer, the text stays as it is. -/
def send (peer : Peer) (e : Edit) (s : Session) : Session := s.recordSend e (peer s.calls e)

/-- The edit by which the user's text differs from the text last sent or written, as `detect_change`
finds it. -/
def pending (s : Session) : Option Edit := Edit.between s.content s.editor.content

/-- Takes the user's text over, which differs by the given edit. -/
def accept (e : Edit) (s : Session) : Session :=
  { s with content := s.editor.content, history := s.history.record .here e }

/-- Sends what the user has changed, if anything, and gives the edit that was sent
(`handle_local_change`). -/
def localChange (peer : Peer) (s : Session) : Option Edit × Session :=
  if s.phase = .live then
    match s.pending with
    | none => (none, s)
    | some e => (some e, (s.accept e).send peer e)
  else (none, s.note (.ignoringChange s.phase))

/-- The first text of the document; from here on the user may type (`on_snapshot`). -/
def goLive (document : Document) (s : Session) : Session :=
  { s with
    editor := (s.editor.setContent document.content).setEditable true
    content := document.content
    history := .start document.content
    ticker := s.ticker.start
    phase := .live
    log := .live document.content.length :: s.log }

/-- Writes one edit into the editor and carries the selection along (`apply_remote`). -/
def applyRemote (e : Edit) (s : Session) : Except Edit.Fault Session :=
  match e.apply s.editor.content with
  | .error fault => .error fault
  | .ok content =>
    .ok { s with
      editor :=
        (s.editor.setContent content).select (s.editor.selection.remap e content.length)
      content
      history := s.history.record .there e
      tally := { s.tally with applied := s.tally.applied + 1 } }

/-- The loop of `apply_batch`: writes the edits of a batch from the one after the first `done` on.
The first that does not fit is complained of, and it and the rest are left out. -/
def applyAll (total done : Nat) : List Edit → Session → Session
  | [], s => s
  | e :: rest, s =>
    match s.applyRemote e with
    | .ok s => applyAll total (done + 1) rest s
    | .error fault => s.protocolError (.misfit (done + 1) total fault)

/-- Writes a batch of edits (`apply_batch`). What the user has typed goes out first; it would
otherwise pass for a part of the batch and never be sent. -/
def applyBatch (peer : Peer) (batch : List Edit) (s : Session) : Session :=
  applyAll batch.length 0 batch (s.localChange peer).2

/-- Does what an event asks for at this stage of life (`handle_remote_event`). -/
def receive (peer : Peer) (event : Incoming) (s : Session) : Session :=
  match s.phase, event with
  | .awaitingSnapshot, .document document => s.goLive document
  | .live, .edits batch => s.applyBatch peer batch
  | .live, .disconnect => s.shutDown .remoteDisconnect
  | .live, .presence payload => s.call (.presence payload)
  | .disconnected, event => s.note (.droppingEvent event.kind)
  | phase, event => s.protocolError (.unexpected event.kind phase)

/-- Reports the caret while live, and gives the place (`report_cursor`). -/
def reportCursor (s : Session) : Option Nat × Session :=
  if s.phase = .live then
    (some s.editor.selection.start,
      s |>.count (fun t => { t with cursorReports := t.cursorReports + 1 })
        |>.call (.cursor s.editor.selection.start))
  else (none, s)

/-- Ends the session for the given reason, unless it has ended. -/
def leave (ending : Ending) (s : Session) : Session :=
  if s.phase = .disconnected then s else s.shutDown ending

/-- The owner ends the session (`Binding::teardown`). -/
def teardown (s : Session) : Session := s.leave .teardown

/-- Asks the loop to end the session at its next turn (`TeardownHandle::teardown`). -/
def requestTeardown (s : Session) : Session := { s with teardownRequested := true }

/-- The owner gives the session up, and dropping it shuts it down (`Drop`). -/
def drop (s : Session) : Session := { s.leave .dropped with dropped := true }

/-- The calls made since an earlier moment, in order. -/
def callsSince (earlier s : Session) : List Entry :=
  (s.calls.take (s.calls.length - earlier.calls.length)).reverse

/-- The notices since an earlier moment, in order. -/
def noticesSince (earlier s : Session) : List Notice :=
  (s.log.take (s.log.length - earlier.log.length)).reverse

end Session
end TextSync
