import Mathlib.Data.List.Induction
import TextSync.Proofs.Editor.Reached
import TextSync.Proofs.Session.SmallestEdit

/-!
# What is typed can be taken back

Where the user has a caret, the text falls into what is before it and what is behind it (`Parted`).
Text that is typed goes to the end of the first part, and every removal takes a character off that
end. So as many removals as characters have been typed leave the two parts that the selection had
between them (`parted_takenBack`): all of the text if it was a caret, and otherwise the text without
the selection, which one removal alone would have left. A session that knew the text before knows it
after, and has nothing to send.
-/

namespace TextSync

namespace Editor

variable {e : Editor} {front back text : Text}

/-- Text typed, and as many removals after it as it has characters. -/
def takenBack (text : Text) : List Action := .typeText text :: List.replicate text.length .backspace

/-- The user may change the text and has a caret behind the one part of it and before the other. -/
structure Parted (front back : Text) (e : Editor) : Prop where
  editable : e.editable = true
  content : e.content = front ++ back
  selection : e.selection = .caret front.length

theorem parted_edit {first : Nat} (editable : e.editable = true) (fits : first ≤ e.content.length)
    (last : Nat) (text : Text) :
    Parted (e.content.take first ++ text) (e.content.drop last) (e.edit first last text) := by
  refine ⟨editable, rfl, ?_⟩
  rw [List.length_append, List.length_take_of_le fits]
  rfl

theorem parted_typeText (bounded : e.Bounded) (editable : e.editable = true) (text : Text) :
    Parted (e.content.take e.selection.low ++ text) (e.content.drop e.selection.high)
      (e.perform (.typeText text)) := by
  rw [perform_of_editable editable]
  exact parted_edit editable bounded.low _ text

/-- A removal takes the last character before the caret. -/
theorem Parted.backspace {c : Char} (parted : Parted (front ++ [c]) back e) :
    Parted front back (e.perform .backspace) := by
  have low : e.selection.low = front.length + 1 := by
    simp [parted.selection, Selection.low, Selection.caret]
  have high : e.selection.high = front.length + 1 := by
    simp [parted.selection, Selection.high, Selection.caret]
  have removed : e.perform .backspace = e.edit front.length (front.length + 1) [] := by
    rw [perform_of_editable parted.editable]
    simp only [carryOut, Editor.backspace, low, high]
    rw [if_neg (Nat.lt_irrefl _), if_neg (Nat.succ_ne_zero _), Nat.add_sub_cancel]
  have kept : e.content = front ++ c :: back := by
    rw [parted.content, List.append_assoc]
    rfl
  have fits : front.length ≤ e.content.length := by simp [kept]
  have cut := parted_edit parted.editable fits (front.length + 1) []
  rw [← removed] at cut
  simpa [kept] using cut

/-- As many removals as a text has characters take it away from before the caret. -/
theorem Parted.backspaces (parted : Parted (front ++ text) back e) :
    Parted front back (e.after (List.replicate text.length (.act .backspace))) := by
  induction text using List.reverseRecOn generalizing e with
  | nil =>
    rw [List.append_nil] at parted
    exact parted
  | append_singleton text c ih =>
    rw [← List.append_assoc] at parted
    rw [List.length_append, List.length_singleton, List.replicate_succ]
    exact ih parted.backspace

theorem parted_takenBack (bounded : e.Bounded) (editable : e.editable = true) (text : Text) :
    Parted (e.content.take e.selection.low) (e.content.drop e.selection.high)
      (e.after ((takenBack text).map .act)) := by
  rw [takenBack, List.map_cons, List.map_replicate]
  exact (parted_typeText bounded editable text).backspaces

/-- At a caret, what is typed and taken back leaves all as it was. -/
theorem takenBack_of_caret (bounded : e.Bounded) (editable : e.editable = true)
    (caret : e.selection.start = e.selection.stop) (text : Text) :
    let t := e.after ((takenBack text).map .act)
    t.content = e.content ∧ t.selection = e.selection := by
  have parted := parted_takenBack bounded editable text
  have low : e.selection.low = e.selection.start := by simp [Selection.low, caret]
  have high : e.selection.high = e.selection.start := by simp [Selection.high, caret]
  have fits := bounded.start
  rw [low, high] at parted
  refine ⟨?_, ?_⟩
  · rw [parted.content, List.take_append_drop]
  · rw [parted.selection, List.length_take_of_le fits]
    exact congrArg (Selection.mk _) caret

/-- At a range, what is typed and taken back leaves what one removal leaves, all but the range. -/
theorem takenBack_of_range (bounded : e.Bounded) (editable : e.editable = true)
    (range : e.selection.start ≠ e.selection.stop) (text : Text) :
    let t := e.after ((takenBack text).map .act)
    let removed := e.perform .backspace
    t.content = removed.content ∧ t.selection = removed.selection ∧
      removed.content = e.content.take e.selection.low ++ e.content.drop e.selection.high := by
  have parted := parted_takenBack bounded editable text
  have wide : e.selection.low < e.selection.high := by
    simp only [Selection.low, Selection.high]
    omega
  have removed : e.perform .backspace = e.edit e.selection.low e.selection.high [] := by
    rw [perform_of_editable editable]
    exact if_pos wide
  have once := parted_edit editable bounded.low e.selection.high []
  rw [← removed, List.append_nil] at once
  exact ⟨parted.content.trans once.content.symm, parted.selection.trans once.selection.symm,
    once.content⟩

/-- A read-only editor takes none of it. -/
theorem takenBack_of_readOnly (readOnly : e.editable = false) (text : Text) :
    e.after ((takenBack text).map .act) = e := by
  have user : ∀ a ∈ takenBack text, a.isUserEdit = true := by
    simp [takenBack, Action.isUserEdit]
  generalize takenBack text = actions at user
  induction actions with
  | nil => rfl
  | cons a rest ih =>
    obtain ⟨here, later⟩ := List.forall_mem_cons.1 user
    have same : e.perform a = e := perform_of_readOnly readOnly here
    show (e.perform a).after (rest.map .act) = e
    rw [same, ih later]

end Editor

namespace Session

/-- What the user does to the editor of a session is between the two. -/
theorem after_acts (peer : Peer) (actions : List Editor.Action) (s : Session) :
    s.after (actions.map fun a => (peer, .step (.act a)))
      = { s with editor := s.editor.after (actions.map .act) } := by
  induction actions generalizing s with
  | nil => rfl
  | cons a rest ih => exact ih { s with editor := s.editor.perform a }

/-- **What is typed can be taken back.** Take an editor that can be reached and that the user may
change, and let text be typed in place of the selection and then as many removals follow as it has
characters. Text and selection are as they were if the selection was a caret, and otherwise as one
removal would have left them, which takes the selection away, whichever way it ran. A live session
that knew the text, and whose user has done so from a caret, finds nothing to send when it next
looks. -/
theorem takenBack_restores (text : Text) :
    (∀ e₀, e₀ = Editor.fresh ∨ e₀ = Editor.withoutSignals → ∀ steps,
      let e := e₀.after steps
      let t := e.after ((Editor.takenBack text).map .act)
      let removed := e.perform .backspace
      let front := e.content.take e.selection.low
      let back := e.content.drop e.selection.high
      e.editable = true →
        (e.perform (.typeText text)).content = front ++ text ++ back ∧
        (e.selection.start = e.selection.stop →
          t.content = e.content ∧ t.selection = e.selection) ∧
        (e.selection.start ≠ e.selection.stop →
          t.content = removed.content ∧ t.selection = removed.selection ∧
            removed.content = front ++ back)) ∧
    ∀ settings inbox editor now s₀, start settings inbox editor now = .ok s₀ → ∀ moves,
      let s := s₀.after moves
      s.phase = .live → s.InStep → s.editor.selection.start = s.editor.selection.stop →
      ∀ user peer,
        let t := s.after ((Editor.takenBack text).map fun a => (user, .step (.act a)))
        t.localChange peer = (none, t) := by
  constructor
  · intro e₀ created steps e t removed front back editable
    have begins : e₀.Bounded := by
      rcases created with rfl | rfl <;> exact ⟨Nat.le_refl 0, Nat.le_refl 0⟩
    have bounded : e.Bounded := Editor.bounded_after begins steps
    refine ⟨(Editor.parted_typeText bounded editable text).content, ?_, ?_⟩
    · intro caret
      exact Editor.takenBack_of_caret bounded editable caret text
    · intro range
      exact Editor.takenBack_of_range bounded editable range text
  · intro settings inbox editor now s₀ started moves s live knows caret user peer t
    have awaiting : s₀.phase = .live → s₀.editor.Bounded := by
      obtain ⟨-, _, rfl⟩ := start_eq_ok started
      exact fun live => nomatch live
    have bounded : s.editor.Bounded := bounded_after awaiting moves live
    have same : (s.editor.after ((Editor.takenBack text).map .act)).content = s.editor.content := by
      cases editable : s.editor.editable with
      | true => exact (Editor.takenBack_of_caret bounded editable caret text).1
      | false => rw [Editor.takenBack_of_readOnly editable]
    have acted : t = { s with editor := s.editor.after ((Editor.takenBack text).map .act) } :=
      after_acts user (Editor.takenBack text) s
    rw [acted]
    exact localChange_of_inStep live (knows.trans same.symm)

/-- Characters of one, two and three bytes, selected from the end or with the caret at the end, and
an empty text with the caret at the very beginning. -/
theorem takenBack_restores_bytes :
    let text : Text := ['é', 'x', '日']
    let steps : List Editor.Step := [.act (.setEditable true), .act (.setContent ['a', 'ñ', '日'])]
    let backwards := Editor.fresh.after (steps ++ [.act (.select ⟨3, 1⟩)])
    let caret := Editor.fresh.after (steps ++ [.act (.select ⟨3, 3⟩)])
    let empty := Editor.withoutSignals.after [.act (.setEditable true)]
    let moves : List (Peer × Move) := [(.agreeing, .step (.receive (.document ⟨['a', 'ñ']⟩))),
      (.agreeing, .step (.act (.select ⟨2, 2⟩)))]
    (backwards.after ((Editor.takenBack text).map .act)).content = ['a'] ∧
      (backwards.after ((Editor.takenBack text).map .act)).selection = ⟨1, 1⟩ ∧
      (caret.after ((Editor.takenBack text).map .act)).content = ['a', 'ñ', '日'] ∧
      (empty.after ((Editor.takenBack text).map .act)).selection = ⟨0, 0⟩ ∧
      ∃ s₀, start {} (.ofCapacity 1) .fresh 0 = .ok s₀ ∧
        let t := (s₀.after moves).after
          ((Editor.takenBack text).map fun a => (.agreeing, .step (.act a)))
        t.editor.signals.queued = 4 ∧ t.localChange .agreeing = (none, t) := by
  intro text steps backwards caret empty moves
  obtain ⟨editors, sessions⟩ := takenBack_restores text
  have wide := (editors _ (.inl rfl) (steps ++ [.act (.select ⟨3, 1⟩)]) rfl).2.2 (by decide)
  have atEnd := (editors _ (.inl rfl) (steps ++ [.act (.select ⟨3, 3⟩)]) rfl).2.1 rfl
  have atBeginning := (editors _ (.inr rfl) [.act (.setEditable true)] rfl).2.1 rfl
  have started : start {} (.ofCapacity 1) .fresh 0 = .ok _ := rfl
  have silent := sessions _ _ _ _ _ started moves rfl rfl rfl .agreeing .agreeing
  refine ⟨wide.1.trans ?_, wide.2.1.trans ?_, atEnd.1.trans ?_, atBeginning.2.trans ?_, _, started,
    ?_, silent⟩
  · decide
  · decide
  · decide
  · decide
  · decide +kernel

end Session
end TextSync
