import TextSync.Editor.Signals
import TextSync.Selection

/-!
The editor a user works in: a text, a selection, and a switch that lets the user change the text
or not. Changes by the user are told by a signal, changes from elsewhere are not.

Whatever happens, both ends of the selection stay within the text.
-/

namespace TextSync

/-- A `MemorySurface`: the state that its clones share, and its notifications. -/
structure Editor where
  content : Text
  selection : Selection
  editable : Bool
  signals : Signals
deriving DecidableEq, Repr

namespace Editor

/-- An empty editor, read-only (`MemorySurface::new`). -/
def fresh : Editor := ⟨[], .caret 0, false, .fresh⟩

/-- An editor that cannot tell of changes (`MemorySurface::without_notifications`). -/
def withoutSignals : Editor := { fresh with signals := .mute }

/-- Puts another text in, without a signal (`set_content`). The selection is held within it. -/
def setContent (text : Text) (e : Editor) : Editor :=
  { e with content := text, selection := e.selection.within text.length }

/-- Puts the selection, held within the text (`set_selection`, and `set_user_selection` by the
user). -/
def select (selection : Selection) (e : Editor) : Editor :=
  { e with selection := selection.within e.content.length }

/-- Lets the user change the text, or not (`set_editable`). -/
def setEditable (editable : Bool) (e : Editor) : Editor := { e with editable }

/-- The editor goes away: nothing is changed or told any more (`MemorySurface::close`). -/
def close (e : Editor) : Editor := { e with editable := false, signals := e.signals.close }

/-- Gives the listener's place away, if it is on offer (`take_change_notifications`). -/
def takeSignals? (e : Editor) : Option Editor :=
  e.signals.take?.map fun signals => { e with signals }

/-- The user's change of a stretch of the text, with the caret behind what is new. -/
def edit (first last : Nat) (text : Text) (e : Editor) : Editor :=
  { e with
    content := e.content.take first ++ text ++ e.content.drop last
    selection := .caret (first + text.length)
    signals := e.signals.emit }

/-- Text typed in place of the selection (`type_text`). -/
def typeText (text : Text) (e : Editor) : Editor := e.edit e.selection.low e.selection.high text

/-- Removes the selection, or the character before the caret (`backspace`). At the very beginning
there is none, and nothing happens. -/
def backspace (e : Editor) : Editor :=
  let low := e.selection.low
  let high := e.selection.high
  if low < high then e.edit low high []
  else if low = 0 then e
  else e.edit (low - 1) high []

/-- Another text in place of the whole one, by the user (`user_replace_all`). -/
def replaceAll (text : Text) (e : Editor) : Editor := e.edit 0 e.content.length text

/-- What can be done to an editor from outside a session: the changes of its user, and what any
other part of the program may do. -/
inductive Action where
  | typeText (text : Text)
  | backspace
  | replaceAll (text : Text)
  | select (selection : Selection)
  | setContent (text : Text)
  | setEditable (editable : Bool)
  | close
deriving DecidableEq, Repr

/-- Whether it is a change by the user, which only an editable editor accepts. -/
def Action.isUserEdit : Action → Bool
  | .typeText _ | .backspace | .replaceAll _ => true
  | _ => false

/-- What becomes of an editor that accepts the action. -/
def carryOut : Action → Editor → Editor
  | .typeText text => typeText text
  | .backspace => backspace
  | .replaceAll text => replaceAll text
  | .select selection => select selection
  | .setContent text => setContent text
  | .setEditable editable => setEditable editable
  | .close => close

/-- Whether an editor lets the action happen. -/
def accepts (e : Editor) (a : Action) : Bool := !a.isUserEdit || e.editable

/-- What becomes of an editor by an action, accepted or not. -/
def perform (a : Action) (e : Editor) : Editor := if e.accepts a then e.carryOut a else e

end Editor
end TextSync
