import TextSync.Edit

/-!
The history of a shared text: the text it began with, and every change since, with the side it came
from. Whoever has the beginning can replay the changes and arrives at the same text.
-/

namespace TextSync

/-- Whose change it is. -/
inductive Origin where
  | here
  | there
deriving DecidableEq, Repr

/-- One change, and whose it is. -/
structure Change where
  origin : Origin
  edit : Edit
deriving DecidableEq, Repr

/-- A text and what has been done to it. It is a record for those who look back: nothing that a
session does depends on it. -/
structure History where
  base : Text
  /-- The changes, the latest first. -/
  changes : List Change
deriving DecidableEq, Repr

namespace History

/-- The history of a text that no one has changed yet. -/
def start (base : Text) : History := ⟨base, []⟩

/-- The history with one more change. -/
def record (origin : Origin) (edit : Edit) (h : History) : History :=
  { h with changes := ⟨origin, edit⟩ :: h.changes }

/-- The edits in the order in which they were made. -/
def edits (h : History) : List Edit := (h.changes.map (·.edit)).reverse

end History

/-- Edits applied one after the other. The first that does not fit ends it. -/
def Edit.applyEach : List Edit → Text → Except Edit.Fault Text
  | [], text => .ok text
  | e :: rest, text =>
    match e.apply text with
    | .ok text => applyEach rest text
    | .error fault => .error fault

/-- The text at the end of the history. -/
def History.replay (h : History) : Except Edit.Fault Text := Edit.applyEach h.edits h.base

end TextSync
