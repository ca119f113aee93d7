import TextSync.Editor.Step
import TextSync.Proofs.Editor.UserEdit
import TextSync.Proofs.Text.Bytes

/-!
# Editors that can be reached

An editor begins empty, and everything that happens to it is a step. Whatever the steps, both ends
of its selection lie within its text (`bounded_after`). So what the user does to it is an edit that
fits: the text is what that edit leads to, and the caret stands behind what is new (`Makes`).

The editor keeps its text stored, finds the places of the two ends, and puts the new text between
them (`stepStored?`). It does so without the splice that edits are, and without a check of its own:
it relies on the ends being there. They are, and in order, so they can be cut at whatever the steps
before (`afterStored?_eq`).
-/

namespace TextSync.Editor

variable {e : Editor}

/-! ## Steps -/

/-- The editor after steps taken one by one, by whoever holds it. -/
def after (e : Editor) (steps : List Step) : Editor := steps.foldl (fun e s => (e.step s).2) e

theorem bounded_step (bounded : e.Bounded) (s : Step) : (e.step s).2.Bounded := by
  cases s with
  | act action => exact bounded_perform bounded action
  | takeSignals =>
    simp only [step, takeSignals?]
    cases e.signals.take? with
    | none => exact bounded
    | some signals => exact ⟨bounded.start, bounded.stop⟩
  | hear | stopListening =>
    simp only [step]
    split
    · exact ⟨bounded.start, bounded.stop⟩
    · exact bounded

theorem bounded_after (bounded : e.Bounded) (steps : List Step) : (e.after steps).Bounded := by
  induction steps generalizing e with
  | nil => exact bounded
  | cons s rest ih => exact ih (bounded_step bounded s)

/-! ## The stored text -/

/-- The user's change of a stretch of the stored text, none if the stretch is not there or cannot be
cut out. -/
def editStored? (first last : Nat) (text : Text) (e : Editor) : Option Editor := do
  let firstPlace ← Text.place? e.content first
  let lastPlace ← Text.place? e.content last
  let content ← Text.replaceBytes? firstPlace lastPlace text e.content
  return { e with content, selection := .caret (first + text.length), signals := e.signals.emit }

/-- Only who types and who removes has to cut. -/
def carryOutStored? (e : Editor) : Action → Option Editor
  | .typeText text => e.editStored? e.selection.low e.selection.high text
  | .backspace =>
    if e.selection.low = e.selection.high then
      if e.selection.low = 0 then some e
      else e.editStored? (e.selection.low - 1) e.selection.high []
    else e.editStored? e.selection.low e.selection.high []
  | a => some (e.carryOut a)

def stepStored? (e : Editor) : Step → Option Editor
  | .act action => if e.accepts action then e.carryOutStored? action else some e
  | s => some (e.step s).2

def afterStored? (e : Editor) (steps : List Step) : Option Editor := steps.foldlM stepStored? e

theorem editStored?_eq {first last : Nat} (order : first ≤ last) (fits : last ≤ e.content.length)
    (text : Text) : e.editStored? first last text = some (e.edit first last text) := by
  unfold editStored?
  rw [Text.place?_of_le (Nat.le_trans order fits), Text.place?_of_le fits]
  simp only [Option.bind_eq_bind, Option.bind_some, Text.replaceBytes?_byteOffset order]
  rfl

theorem carryOutStored?_eq (bounded : e.Bounded) (a : Action) :
    e.carryOutStored? a = some (e.carryOut a) := by
  have order := e.selection.low_le_high
  cases a with
  | typeText text => exact editStored?_eq order bounded.high text
  | backspace =>
    simp only [carryOutStored?, carryOut, backspace]
    by_cases caret : e.selection.low = e.selection.high
    · rw [if_pos caret, if_neg (show ¬ e.selection.low < e.selection.high by omega)]
      by_cases beginning : e.selection.low = 0
      · rw [if_pos beginning, if_pos beginning]
      · rw [if_neg beginning, if_neg beginning]
        exact editStored?_eq (by omega) bounded.high []
    · rw [if_neg caret, if_pos (show e.selection.low < e.selection.high by omega)]
      exact editStored?_eq order bounded.high []
  | replaceAll | select | setContent | setEditable | close => rfl

/-- Where both ends of the selection lie within the text, no step cuts where it cannot. -/
theorem stepStored?_eq (bounded : e.Bounded) (s : Step) : e.stepStored? s = some (e.step s).2 := by
  cases s with
  | act action =>
    simp only [stepStored?, step, perform, carryOutStored?_eq bounded]
    split <;> rfl
  | takeSignals | hear | stopListening => rfl

theorem afterStored?_eq (bounded : e.Bounded) (steps : List Step) :
    e.afterStored? steps = some (e.after steps) := by
  induction steps generalizing e with
  | nil => rfl
  | cons s rest ih =>
    unfold afterStored?
    rw [List.foldlM_cons, stepStored?_eq bounded]
    exact ih (bounded_step bounded s)

/-! ## The user's edits -/

/-- **What the user does to an editor that can be reached is an edit that fits.** However it has been
created, and whatever steps have been taken, both ends of the selection lie within the text, and no
step has had to cut the stored text where it cannot be cut. Where the user may change it, typing
replaces the selection, removing deletes the selection or the character before the caret, and both
leave the text that the edit leads to and a caret behind what is new. At the very beginning
removing changes nothing, and where the user may not change the text nothing does. -/
theorem makes_of_reached {e₀ : Editor} (created : e₀ = fresh ∨ e₀ = withoutSignals)
    (steps : List Step) :
    let e := e₀.after steps
    let low := e.selection.low
    let high := e.selection.high
    e.selection.start ≤ e.content.length ∧ e.selection.stop ≤ e.content.length ∧
      e₀.afterStored? steps = some e ∧
      (e.editable = true →
        (∀ text, e.Makes (.typeText text) (.replace low (high - low) text) (low + text.length)) ∧
        (low < high → e.Makes .backspace (.delete low (high - low)) low) ∧
        (low = high → 0 < low → e.Makes .backspace (.delete (low - 1) 1) (low - 1)) ∧
        (low = high → low = 0 → e.perform .backspace = e) ∧
        (∀ text, e.Makes (.replaceAll text) (.replace 0 e.content.length text) text.length)) ∧
      (e.editable = false → ∀ a, a.isUserEdit = true → e.perform a = e) := by
  intro e low high
  have begins : e₀.Bounded := by
    rcases created with rfl | rfl
    · exact ⟨Nat.le_refl 0, Nat.le_refl 0⟩
    · exact ⟨Nat.le_refl 0, Nat.le_refl 0⟩
  have bounded : e.Bounded := bounded_after begins steps
  refine ⟨bounded.start, bounded.stop, afterStored?_eq begins steps, ?_, ?_⟩
  · intro editable
    refine ⟨?_, ?_, ?_, ?_, ?_⟩
    · exact makes_typeText bounded editable
    · exact makes_backspace_of_range bounded editable
    · exact makes_backspace_of_caret bounded editable
    · exact perform_backspace_of_beginning
    · exact makes_replaceAll editable
  · intro readOnly a user
    exact perform_of_readOnly readOnly user

/-- Two characters of two and three bytes selected backwards, with a start given far beyond the
end. -/
theorem makes_of_reached_backwards :
    let steps : List Step := [.act (.setEditable true), .act (.setContent ['a', 'ñ', '日']),
      .takeSignals, .act (.select ⟨maxOffset, 1⟩)]
    let e := fresh.after steps
    e.selection = ⟨3, 1⟩ ∧ fresh.afterStored? steps = some e ∧
      e.Makes (.typeText ['x', 'y']) (.replace 1 2 ['x', 'y']) 3 ∧
      (e.perform (.typeText ['x', 'y'])).content = ['a', 'x', 'y'] ∧
      e.Makes .backspace (.delete 1 2) 1 ∧ (e.perform .backspace).content = ['a'] := by
  intro steps e
  obtain ⟨-, -, stored, edits, -⟩ := makes_of_reached (.inl rfl) steps
  obtain ⟨types, removes, -⟩ := edits rfl
  exact ⟨by decide, stored, types ['x', 'y'], by decide, removes (by decide), by decide⟩

end TextSync.Editor
