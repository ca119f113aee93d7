import TextSync.Editor

/-!
Everything that can happen to an editor on its own, one step at a time: actions on it, and what a
listener does with its signals.
-/

namespace TextSync.Editor

/-- An action, or something that the holder of the `ChangeReceiver` does. -/
inductive Step where
  | act (action : Action)
  | takeSignals
  | hear
  | stopListening
deriving DecidableEq, Repr

/-- What a step tells the one who takes it. Without a listener nothing is heard. -/
inductive Answer where
  | done
  | accepted (yes : Bool)
  | taken (yes : Bool)
  | heard (heard : Option Signals.Heard)
deriving DecidableEq, Repr

/-- Only a user's change is answered: whether the editor has accepted it. -/
def answer (e : Editor) (a : Action) : Answer :=
  if a.isUserEdit then .accepted (e.accepts a) else .done

/-- Whether someone listens at this moment. -/
def isHeard (e : Editor) : Bool := e.signals.listener == .taken

/-- What a step tells, and what becomes of the editor. -/
def step (e : Editor) : Step → Answer × Editor
  | .act action => (e.answer action, e.perform action)
  | .takeSignals =>
    match e.takeSignals? with
    | some after => (.taken true, after)
    | none => (.taken false, e)
  | .hear =>
    if e.isHeard then (.heard (some e.signals.hear), { e with signals := e.signals.next })
    else (.heard none, e)
  | .stopListening =>
    if e.isHeard then (.done, { e with signals := e.signals.drop }) else (.done, e)

end TextSync.Editor
