import TextSync.Text

/-!
An edit replaces one stretch of a text: from `position` on it removes some characters and puts
others in their place. Either half may be left out.

`apply` is the splice: what stands before the position, what is inserted, what stands after the
removed stretch. It refuses exactly the edits that reach past the end of the text.
-/

namespace TextSync

/-- A `Transform`. A half that is absent is kept apart from one that is there and empty, as in
`num_delete` and `insert`. -/
structure Edit where
  position : Nat
  removed : Option Nat
  inserted : Option Text
deriving DecidableEq, Repr

namespace Edit

/-- Why an edit cannot be carried out or is not worth sending: `OutOfBounds` and `Empty` of
`TransformError`. -/
inductive Fault where
  | outOfBounds (position removed length : Nat)
  | changesNothing
deriving DecidableEq, Repr

/-- What a `TransformError` says of itself. -/
def Fault.message : Fault → String
  | .outOfBounds position removed length =>
    s!"transform out of bounds: position {position} + num_delete {removed} exceeds content length {length}"
  | .changesNothing => "transform changes nothing"

/-- A pure insertion (`Transform::insert`). -/
def insert (position : Nat) (text : Text) : Edit := ⟨position, none, some text⟩

/-- A pure deletion (`Transform::delete`). -/
def delete (position count : Nat) : Edit := ⟨position, some count, none⟩

/-- A deletion and an insertion in one place (`Transform::replace`). -/
def replace (position count : Nat) (text : Text) : Edit := ⟨position, some count, some text⟩

/-- How many characters are removed, zero if that half is absent (`delete_len`). -/
def removedLength (e : Edit) : Nat := e.removed.getD 0

/-- What is inserted, nothing if that half is absent (`insert_text`). -/
def insertedText (e : Edit) : Text := e.inserted.getD []

/-- How many characters are inserted (`insert_len`). -/
def insertedLength (e : Edit) : Nat := e.insertedText.length

/-- By how much the text grows (`length_delta`), both lengths read as signed words. The difference
is one of unbounded integers. It can leave the signed word only if one of the lengths is `2 ^ 63` or
more; what `length_delta` does there, a wrap or an abort, is not modelled. -/
def lengthDelta (e : Edit) : Int := signed e.insertedLength - signed e.removedLength

/-- Whether the edit neither removes nor inserts anything (`is_noop`). -/
def isEmpty (e : Edit) : Bool := e.removedLength == 0 && e.insertedText.isEmpty

/-- An edit worth sending removes or inserts something (`Transform::validate`). -/
def check (e : Edit) : Except Fault Unit :=
  if e.isEmpty then .error .changesNothing else .ok ()

/-- The text after the edit (`Transform::apply`). An edit that reaches past the end of the text is
refused. The sum is unbounded here; where `checked_add` gives up, the edit reaches past every
text. -/
def apply (e : Edit) (text : Text) : Except Fault Text :=
  if e.position + e.removedLength ≤ text.length then
    .ok (text.take e.position ++ e.insertedText ++ text.drop (e.position + e.removedLength))
  else
    .error (.outOfBounds e.position e.removedLength text.length)

theorem apply_of_le {e : Edit} {text : Text} (fits : e.position + e.removedLength ≤ text.length) :
    e.apply text =
      .ok (text.take e.position ++ e.insertedText ++ text.drop (e.position + e.removedLength)) := by
  simp [apply, fits]

/-- An edit that does not fit is refused with its own numbers and the length of the text. -/
theorem apply_of_lt {e : Edit} {text : Text} (beyond : text.length < e.position + e.removedLength) :
    e.apply text = .error (.outOfBounds e.position e.removedLength text.length) := by
  unfold apply
  rw [if_neg (Nat.not_le.2 beyond)]

/-- An edit is carried out exactly if it fits, and then it is the splice. -/
theorem apply_eq_ok_iff {e : Edit} {text result : Text} :
    e.apply text = .ok result ↔ e.position + e.removedLength ≤ text.length ∧
      result = text.take e.position ++ e.insertedText
        ++ text.drop (e.position + e.removedLength) := by
  by_cases fits : e.position + e.removedLength ≤ text.length <;> simp [apply, fits, eq_comm]

end Edit
end TextSync
