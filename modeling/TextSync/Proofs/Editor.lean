import TextSync.Editor

/-!
# What actions do to an editor

A change by the user is one `edit`, or nothing at all (`perform_user`). So only an accepted change
by the user or a `setContent` changes the text, and a change by the user is told
(`perform_cases`). Both ends of the selection stay within the text whatever is done
(`bounded_perform`).
-/

namespace TextSync

namespace Signals

theorem emit_listener (s : Signals) : s.emit.listener = s.listener := by
  unfold emit
  split <;> rfl

theorem emit_sending (s : Signals) : s.emit.sending = s.sending := by
  unfold emit
  split <;> rfl

/-- A signal that can be heard waits to be heard. -/
theorem emit_queued {s : Signals} (sending : s.sending = true) (listens : s.listener ≠ .gone) :
    s.emit.queued = s.queued + 1 := by
  simp [emit, sending, listens]

theorem emit_of_gone {s : Signals} (gone : s.listener = .gone) : s.emit = s := by
  simp [emit, gone]

/-- A signal adds to what waits for the listener and changes nothing else. -/
theorem emit_eq (s : Signals) : s.emit = { s with queued := s.emit.queued } := by
  unfold emit
  split <;> rfl

end Signals

namespace Editor

variable {e : Editor} {a : Action}

/-- An editable editor accepts whatever is done. -/
theorem perform_of_editable (editable : e.editable = true) (a : Action) :
    e.perform a = e.carryOut a := by
  simp [perform, accepts, editable]

/-- A read-only editor refuses every change by the user. -/
theorem perform_of_readOnly (readOnly : e.editable = false) (user : a.isUserEdit = true) :
    e.perform a = e := by
  simp [perform, accepts, user, readOnly]

/-- A change by the user that is accepted and not void is an edit that begins no later than the
selection. -/
theorem perform_user (user : a.isUserEdit = true) (e : Editor) :
    e.perform a = e ∨ e.editable = true ∧
      ∃ first last text, first ≤ e.selection.low ∧ e.perform a = e.edit first last text := by
  by_cases editable : e.editable = true
  · rw [perform_of_editable editable]
    cases a with
    | typeText text => exact .inr ⟨editable, _, _, text, Nat.le_refl _, rfl⟩
    | replaceAll text => exact .inr ⟨editable, 0, _, text, Nat.zero_le _, rfl⟩
    | backspace =>
      simp only [carryOut, backspace]
      split
      · exact .inr ⟨editable, _, _, [], Nat.le_refl _, rfl⟩
      · split
        · exact .inl rfl
        · exact .inr ⟨editable, _, _, [], Nat.sub_le _ _, rfl⟩
    | select | setContent | setEditable | close => cases user
  · exact .inl (perform_of_readOnly (Bool.eq_false_iff.2 editable) user)

/-! ## The selection -/

/-- Both ends of the selection lie within the text. -/
structure Bounded (e : Editor) : Prop where
  start : e.selection.start ≤ e.content.length
  stop : e.selection.stop ≤ e.content.length

theorem Bounded.low (bounded : e.Bounded) : e.selection.low ≤ e.content.length :=
  Nat.le_trans (Nat.min_le_left _ _) bounded.start

theorem bounded_setContent (text : Text) (e : Editor) : (e.setContent text).Bounded :=
  ⟨Nat.min_le_right _ _, Nat.min_le_right _ _⟩

theorem bounded_select (selection : Selection) (e : Editor) : (e.select selection).Bounded :=
  ⟨Nat.min_le_right _ _, Nat.min_le_right _ _⟩

/-- The caret behind what is new lies within the text. -/
theorem bounded_edit {first : Nat} (last : Nat) (text : Text) (fits : first ≤ e.content.length) :
    (e.edit first last text).Bounded := by
  have within : first + text.length ≤ (e.edit first last text).content.length := by
    simp only [edit, List.length_append, List.length_take_of_le fits]
    omega
  exact ⟨within, within⟩

theorem bounded_perform (bounded : e.Bounded) (a : Action) : (e.perform a).Bounded := by
  cases user : a.isUserEdit with
  | true =>
    obtain same | ⟨-, first, last, text, fits, same⟩ := perform_user user e
    · rw [same]
      exact bounded
    · rw [same]
      exact bounded_edit last text (Nat.le_trans fits bounded.low)
  | false =>
    cases a with
    | typeText | backspace | replaceAll => cases user
    | select selection => exact bounded_select selection e
    | setContent text => exact bounded_setContent text e
    | setEditable | close => exact ⟨bounded.start, bounded.stop⟩

/-! ## The text and its signals -/

/-- An action that does not write the text from elsewhere leaves it and what waits as they are, or
it is an accepted change by the user, which is told. -/
theorem perform_cases (own : ∀ text, a ≠ .setContent text) (e : Editor) :
    (e.perform a).content = e.content ∧ (e.perform a).signals.queued = e.signals.queued ∨
      a.isUserEdit = true ∧ e.editable = true ∧ (e.perform a).signals = e.signals.emit := by
  cases user : a.isUserEdit with
  | true =>
    obtain same | ⟨editable, first, last, text, -, same⟩ := perform_user user e
    · rw [same]
      exact .inl ⟨rfl, rfl⟩
    · rw [same]
      exact .inr ⟨rfl, editable, rfl⟩
  | false =>
    cases a with
    | typeText | backspace | replaceAll => cases user
    | setContent text => exact absurd rfl (own text)
    | select | setEditable | close => exact .inl ⟨rfl, rfl⟩

theorem perform_listener (a : Action) (e : Editor) :
    (e.perform a).signals.listener = e.signals.listener := by
  cases user : a.isUserEdit with
  | true =>
    obtain same | ⟨-, first, last, text, -, same⟩ := perform_user user e
    · rw [same]
    · rw [same]
      exact e.signals.emit_listener
  | false =>
    cases a with
    | typeText | backspace | replaceAll => cases user
    | select | setContent | setEditable | close => rfl

/-- Unless someone lets the user type again, an editor that no longer tells is read-only. -/
theorem perform_open (own : ∀ editable, a ≠ .setEditable editable)
    (tells : e.editable = true → e.signals.sending = true) :
    (e.perform a).editable = true → (e.perform a).signals.sending = true := by
  cases user : a.isUserEdit with
  | true =>
    obtain same | ⟨-, first, last, text, -, same⟩ := perform_user user e
    · rw [same]
      exact tells
    · rw [same]
      exact fun editable => e.signals.emit_sending.trans (tells editable)
  | false =>
    cases a with
    | typeText | backspace | replaceAll => cases user
    | select | setContent => exact tells
    | setEditable editable => exact absurd rfl (own editable)
    | close => exact fun editable => nomatch editable

/-- Only someone from elsewhere lets the user type. -/
theorem perform_editable (own : ∀ editable, a ≠ .setEditable editable) (e : Editor) :
    (e.perform a).editable = true → e.editable = true := by
  cases user : a.isUserEdit with
  | true =>
    obtain same | ⟨editable, -⟩ := perform_user user e
    · rw [same]
      exact id
    · exact fun _ => editable
  | false =>
    cases a with
    | typeText | backspace | replaceAll => cases user
    | select | setContent => exact id
    | setEditable editable => exact absurd rfl (own editable)
    | close => exact fun editable => nomatch editable

end Editor
end TextSync
