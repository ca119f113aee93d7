import TextSync.Script.Replay

/-!
The command line: replays the script in a file, with settings from a second file if one is named.
The transcript goes to standard error, the summary to standard output.
-/

namespace TextSync.Script

/-- The text of a file, none if it cannot be read as text. -/
def readText (path : String) : IO (Option Text) := do
  try
    let bytes ← IO.FS.readBinFile path
    return (String.fromUTF8? bytes).map (·.toList)
  catch _ => return none

/-- Replays the script in a file, with the settings in another. -/
def replayFiles (script : String) (settings : Option String) : IO (Except Failure Replay) := do
  let settings ← settings.mapM readText
  let script ← readText script
  return do
    let (settings, steps) ← load script settings
    replay "session" settings steps

end TextSync.Script

open TextSync.Script in
/-- The `main` of the demo: its transcript, its summary, and one as the exit code of a failure. -/
def main (args : List String) : IO UInt32 := do
  let paths : File → String
    | .script => args.headD ""
    | .settings => args.tail.headD ""
  let outcome ← match args with
    | [] => pure (.error .usage)
    | script :: rest => replayFiles script rest.head?
  match outcome with
  | .error failure =>
    IO.eprintln s!"Error: {failure.message paths}"
    return 1
  | .ok replay =>
    for line in replay.lines.reverse do
      IO.eprintln (line.text "session")
    for line in summary replay.session do
      IO.println line
    return 0
