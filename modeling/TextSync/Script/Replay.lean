import TextSync.Outbox
import TextSync.Script
import TextSync.Session.Loop
import TextSync.Settings.Format

/-!
A script is replayed against a session of its own. After every step the session has ten
milliseconds to react; a pause is added to that. When the script is over no more events come in,
and the session runs to its end.
-/

namespace TextSync.Script

/-- A line of the transcript: of the replay itself, or of the session. -/
inductive Line where
  | own (text : String)
  | session (notice : Notice)
deriving DecidableEq, Repr

/-- A line as it was meant, given the name of the session. -/
def Line.content (name : String) : Line → String
  | .own text => s!"INFO {text}"
  | .session notice => notice.line name

/-- The text of a line. Delete characters are left out. -/
def Line.text (name : String) (line : Line) : String :=
  .ofList ((line.content name).toList.filter (· ≠ '\x7f'))

/-- A replay under way, as `main` runs it. The lines so far stand the latest first. -/
structure Replay where
  session : Session
  lines : List Line

/-- An action in a line of the transcript (`describe`). -/
def describe : Outgoing → String
  | .edit edit => s!"send transform {edit.toJson.render}"
  | .cursor offset => s!"cursor at {offset}"
  | .error message => s!"error: {String.ofList message}"
  | .presence payload => s!"presence: {payload.render}"

namespace Replay

/-- One more line of the replay itself. -/
def say (text : String) (r : Replay) : Replay := { r with lines := .own text :: r.lines }

/-- An action of the scripted user. -/
def perform (action : Editor.Action) (r : Replay) : Replay :=
  { r with session := { r.session with editor := r.session.editor.perform action } }

/-- Lets the session react for some time, and writes down what it has noted and done. -/
def drive (time : Nat) (r : Replay) : Replay :=
  let after := (r.session.run (Outbox.peer true) time).2
  let notices := (r.session.noticesSince after).map .session
  let actions := (r.session.callsSince after).filterMap (·.call.outgoing?)
  let deeds := actions.map fun action => Line.own s!"-> {describe action}"
  ⟨after, deeds.reverse ++ notices.reverse ++ r.lines⟩

/-- The pause after every step. -/
def turn : Nat := 10

/-- The steps one after the other, up to an event for which no one is there any more: the loop of
`main` over the script. -/
def steps : List Step → Replay → Replay
  | [], r => r
  | step :: rest, r =>
    match step with
    | .remote event =>
      let r := r.say s!"<- {event.kind}"
      if r.session.inbox.receiving then
        let inbox := r.session.inbox.offer event
        steps rest (Replay.drive turn { r with session := { r.session with inbox } })
      else r.say "Binding stopped listening, ending scenario"
    | .typeText text =>
      if r.session.editor.editable then steps rest ((r.perform (.typeText text)).drive turn)
      else
        steps rest ((r.say s!"Surface is read-only, dropped keystrokes {text.display}").drive turn)
    | .backspace => steps rest ((r.perform .backspace).drive turn)
    | .select selection => steps rest ((r.perform (.select selection)).drive turn)
    | .wait time => steps rest ((r.drive (Clock.pause time)).drive turn)

/-- No more events come in: the session runs to its end. -/
def finish (r : Replay) : Replay :=
  drive 0 { r with session := { r.session with inbox := r.session.inbox.closeSender } }

end Replay

/-- The files a replay is set up from. -/
inductive File where
  | script
  | settings
deriving DecidableEq, Repr

/-- What keeps a script from being replayed (`DemoError`). -/
inductive Failure where
  | usage
  | unreadable (file : File)
  | settings (fault : Settings.TextFault)
  | badLine (bad : BadLine)
  | refused (complaint : Complaint)
deriving DecidableEq, Repr

/-- What to tell of a text that is not what it should be. -/
def told (fault : Wire.Fault) : String := fault.message?.getD "malformed"

/-- The message of a failure, given the paths of the files. -/
def Failure.message (path : File → String) : Failure → String
  | .usage => "usage: quill-demo <scenario.jsonl> [config.json]"
  | .unreadable file => s!"cannot read {path file}"
  | .settings (.unreadable fault) => s!"invalid config: {told fault}"
  | .settings (.invalid fault) => fault.message
  | .badLine bad => s!"{path File.script}:{bad.line}: {told bad.fault}"
  | .refused complaint => complaint.message

/-- A replay whose session has just started. The transcript speaks of it under the given name. -/
def started (steps : List Step) (name : String) (session : Session) : Replay :=
  { session
    lines := .own s!"Bound surface as {name}" :: session.log.map .session
      ++ [.own s!"Starting Quill demo with {steps.length} steps"] }

/-- Replays steps from the beginning to the end (`main`, once its files are read). -/
def replay (name : String) (settings : Settings) (steps : List Step) : Except Failure Replay :=
  match Session.start settings (.ofCapacity settings.eventCapacity) .fresh 0 with
  | .error refusal => .error (.refused refusal.complaint)
  | .ok session => .ok ((started steps name session).steps steps).finish

/-- The settings and steps of a replay from the contents of two files. The settings are looked at
first. A file that cannot be read as text has no contents; without a second file the settings are
the standard ones. -/
def load (script : Option Text) (settings : Option (Option Text)) :
    Except Failure (Settings × List Step) := do
  let settings ←
    match settings with
    | none => pure {}
    | some none => throw (.unreadable .settings)
    | some (some text) =>
      match Settings.ofText text with
      | .ok settings => pure settings
      | .error fault => throw (.settings fault)
  match script with
  | none => throw (.unreadable .script)
  | some text =>
    match ofText text with
    | .ok steps => return (settings, steps)
    | .error bad => throw (.badLine bad)

/-- What is said of a session at the end of its replay. -/
def summary (s : Session) : List String :=
  let t := s.tally
  [s!"state:   {s.phase.name}",
    s!"surface: {s.editor.content.display}",
    "stats:   BindingStats \x7b " ++ s!"transforms_sent: {t.sent}, "
      ++ s!"transforms_rejected: {t.refused}, transforms_applied: {t.applied}, "
      ++ s!"protocol_errors: {t.protocolErrors}, cursor_reports: {t.cursorReports}" ++ " \x7d"]

end TextSync.Script
