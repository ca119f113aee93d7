import TextSync.Proofs.Editor

/-!
# What the user does to a text is an edit

A change by the user replaces one stretch of the text, and is thus an edit as sessions exchange them
(`userEdit?`). The editor writes it by itself, and comes to what the edit comes to, with the caret
behind what is new (`Makes`). So whatever the user does, the text is what that edit leads to
(`apply_userEdit?`).
-/

namespace TextSync.Editor

variable {e : Editor} {a : Action}

/-- The edit that the user makes by an action, none if it makes none. -/
def userEdit? (e : Editor) : Action → Option Edit
  | .typeText text =>
    some (.replace e.selection.low (e.selection.high - e.selection.low) text)
  | .backspace =>
    if e.selection.low < e.selection.high then
      some (.delete e.selection.low (e.selection.high - e.selection.low))
    else if e.selection.low = 0 then none
    else some (.delete (e.selection.low - 1) 1)
  | .replaceAll text => some (.replace 0 e.content.length text)
  | .select _ | .setContent _ | .setEditable _ | .close => none

theorem Bounded.high (bounded : e.Bounded) : e.selection.high ≤ e.content.length :=
  Nat.max_le.2 ⟨bounded.start, bounded.stop⟩

/-- The editor replaces a stretch of its text as an edit does that spans it. -/
theorem apply_edit {u : Edit} {last : Nat} (spans : u.position + u.removedLength = last)
    (fits : last ≤ e.content.length) :
    u.apply e.content = .ok (e.edit u.position last u.insertedText).content := by
  subst spans
  exact Edit.apply_of_le fits

/-- What comes of an action: the text that an edit leads to, with the caret at an offset. -/
def Makes (e : Editor) (a : Action) (u : Edit) (caret : Nat) : Prop :=
  u.apply e.content = .ok (e.perform a).content ∧ (e.perform a).selection = .caret caret

/-- A stretch replaced within the text makes the edit that spans it. -/
theorem makes_of_edit {u : Edit} {last caret : Nat}
    (same : e.perform a = e.edit u.position last u.insertedText)
    (spans : u.position + u.removedLength = last) (fits : last ≤ e.content.length)
    (behind : u.position + u.insertedLength = caret) : e.Makes a u caret := by
  unfold Makes
  rw [same, ← behind]
  exact ⟨apply_edit spans fits, rfl⟩

/-- All of the text is replaced. -/
theorem makes_replaceAll (editable : e.editable = true) (text : Text) :
    e.Makes (.replaceAll text) (.replace 0 e.content.length text) text.length := by
  have same : e.perform (.replaceAll text) = e.edit 0 e.content.length text :=
    perform_of_editable editable _
  apply makes_of_edit same
  · exact Nat.zero_add _
  · exact Nat.le_refl _
  · exact Nat.zero_add _

section Editable

variable (bounded : e.Bounded) (editable : e.editable = true)
include bounded editable

/-- Text typed takes the place of the selection, and the caret stands behind it. -/
theorem makes_typeText (text : Text) :
    e.Makes (.typeText text) (.replace e.selection.low (e.selection.high - e.selection.low) text)
      (e.selection.low + text.length) := by
  have same : e.perform (.typeText text) = e.edit e.selection.low e.selection.high text :=
    perform_of_editable editable _
  apply makes_of_edit same
  · exact Nat.add_sub_cancel' e.selection.low_le_high
  · exact bounded.high
  · rfl

/-- A selection is removed, and the caret stands where it began. -/
theorem makes_backspace_of_range (range : e.selection.low < e.selection.high) :
    e.Makes .backspace (.delete e.selection.low (e.selection.high - e.selection.low))
      e.selection.low := by
  have same : e.perform .backspace = e.edit e.selection.low e.selection.high [] := by
    rw [perform_of_editable editable]
    exact if_pos range
  apply makes_of_edit same
  · exact Nat.add_sub_cancel' e.selection.low_le_high
  · exact bounded.high
  · rfl

/-- The character before the caret is removed. -/
theorem makes_backspace_of_caret (caret : e.selection.low = e.selection.high)
    (before : 0 < e.selection.low) :
    e.Makes .backspace (.delete (e.selection.low - 1) 1) (e.selection.low - 1) := by
  have same : e.perform .backspace = e.edit (e.selection.low - 1) e.selection.high [] := by
    rw [perform_of_editable editable]
    simp only [carryOut, backspace]
    rw [if_neg (by omega), if_neg (by omega)]
  apply makes_of_edit same
  · show e.selection.low - 1 + 1 = e.selection.high
    omega
  · exact bounded.high
  · rfl

end Editable

/-- At the very beginning there is nothing to remove. -/
theorem perform_backspace_of_beginning (caret : e.selection.low = e.selection.high)
    (beginning : e.selection.low = 0) : e.perform .backspace = e := by
  have nothing : e.backspace = e := by
    unfold backspace
    rw [if_neg (by omega), if_pos beginning]
  unfold perform
  split
  · exact nothing
  · rfl

/-- **A change by the user that is accepted writes the text that the user's edit leads to**, or
leaves the text alone if the user makes no edit. -/
theorem apply_userEdit? (bounded : e.Bounded) (editable : e.editable = true)
    (user : a.isUserEdit = true) :
    (∃ u, e.userEdit? a = some u ∧ u.apply e.content = .ok (e.perform a).content) ∨
      e.userEdit? a = none ∧ (e.perform a).content = e.content := by
  cases a with
  | typeText text => exact .inl ⟨_, rfl, (makes_typeText bounded editable text).1⟩
  | replaceAll text => exact .inl ⟨_, rfl, (makes_replaceAll editable text).1⟩
  | backspace =>
    have order := e.selection.low_le_high
    simp only [userEdit?]
    by_cases range : e.selection.low < e.selection.high
    · left
      exact ⟨_, if_pos range, (makes_backspace_of_range bounded editable range).1⟩
    · have caret : e.selection.low = e.selection.high := by omega
      rw [if_neg range]
      by_cases beginning : e.selection.low = 0
      · right
        rw [if_pos beginning, perform_backspace_of_beginning caret beginning]
        exact ⟨rfl, rfl⟩
      · left
        rw [if_neg beginning]
        exact ⟨_, rfl, (makes_backspace_of_caret bounded editable caret (by omega)).1⟩
  | select | setContent | setEditable | close => cases user

end TextSync.Editor
