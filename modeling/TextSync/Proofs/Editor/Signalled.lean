import TextSync.Proofs.Editor.Reached

/-!
# Signals count the changes

A change by the user that is accepted is told by one signal. The one exception is a removal at the
very beginning, where nothing is before the caret and nothing changes. Nothing else is told. So what
waits for the listener and what it has heard add up to the number of changes, whenever the listener
comes and however often it listens (`queued_add_heardBy`). Once the editor is closed nothing is
added (`queued_add_heardBy_of_closed`), so the listener hears what was told before, and then the
end.
-/

namespace TextSync.Editor

variable {e : Editor} {s : Step} {steps : List Step}

/-- Whether a step is an accepted change by the user. A removal at the very beginning is accepted
but changes nothing; text that is put in place of the same text does count. -/
def changes (e : Editor) (s : Step) : Bool :=
  (e.step s).1 = .accepted true && !(s = .act .backspace && e.selection = .caret 0)

/-- How many of the steps are accepted changes by the user. -/
def changesBy (e : Editor) : List Step → Nat
  | [] => 0
  | s :: rest => (e.changes s).toNat + (e.step s).2.changesBy rest

/-- What the listener hears in a step. -/
def hears (e : Editor) (s : Step) : List Signals.Heard :=
  match (e.step s).1 with
  | .heard (some heard) => [heard]
  | _ => []

/-- What the listener hears in the course of some steps, in order. -/
def heardBy (e : Editor) : List Step → List Signals.Heard
  | [] => []
  | s :: rest => e.hears s ++ (e.step s).2.heardBy rest

/-! ## One step -/

theorem changes_act (e : Editor) (a : Action) :
    e.changes (.act a)
      = (a.isUserEdit && e.editable && !(a = .backspace && e.selection = .caret 0)) := by
  cases user : a.isUserEdit <;> simp [changes, step, answer, accepts, user]

/-- Only a removal that finds the caret at the very beginning tells nothing. -/
theorem backspace_signals (e : Editor) :
    e.backspace.signals = if e.selection = .caret 0 then e.signals else e.signals.emit := by
  have void : e.selection = .caret 0 ↔
      ¬ e.selection.low < e.selection.high ∧ e.selection.low = 0 := by
    rcases e.selection with ⟨start, stop⟩
    simp only [Selection.caret, Selection.mk.injEq, Selection.low, Selection.high]
    omega
  unfold backspace
  by_cases range : e.selection.low < e.selection.high
  · rw [if_pos range, if_neg (by simp [void, range])]
    rfl
  · rw [if_neg range]
    by_cases beginning : e.selection.low = 0
    · rw [if_pos beginning, if_pos (void.2 ⟨range, beginning⟩)]
    · rw [if_neg beginning, if_neg (by simp [void, beginning])]
      rfl

/-- An action tells the change that it is, and does nothing else to the signals, unless it closes
the editor. -/
theorem perform_signals {a : Action} (stays : a ≠ .close) (e : Editor) :
    (e.perform a).signals = if e.changes (.act a) then e.signals.emit else e.signals := by
  rw [changes_act]
  cases user : a.isUserEdit with
  | true =>
    cases editable : e.editable with
    | true =>
      rw [perform_of_editable editable]
      cases a with
      | typeText | replaceAll => rfl
      | backspace =>
        refine (backspace_signals e).trans ?_
        by_cases beginning : e.selection = .caret 0 <;> simp [beginning]
      | select | setContent | setEditable | close => cases user
    | false =>
      rw [perform_of_readOnly editable user]
      simp
  | false =>
    cases a with
    | typeText | backspace | replaceAll => cases user
    | select | setContent | setEditable => rfl
    | close => exact absurd rfl stays

theorem perform_close_signals (e : Editor) :
    (e.perform .close).signals = { e.signals with sending := false } := rfl

/-- To take the listener's place says and changes nothing. -/
theorem step_takeSignals (e : Editor) :
    (e.step .takeSignals).2.signals.sending = e.signals.sending ∧
      (e.step .takeSignals).2.signals.queued = e.signals.queued ∧
      e.changes .takeSignals = false ∧ e.hears .takeSignals = [] := by
  unfold changes hears step takeSignals? Signals.take?
  by_cases offered : e.signals.listener = .offered <;> simp [offered]

/-- What is heard is taken off what waits. -/
theorem hear_queued (e : Editor) :
    (e.step .hear).2.signals.queued + (e.hears .hear).count .changed = e.signals.queued := by
  unfold hears step Signals.hear Signals.next
  cases heard : e.isHeard with
  | false => simp
  | true =>
    by_cases waits : 0 < e.signals.queued
    · simp [waits]
      omega
    · cases e.signals.sending <;> simp [waits] <;> omega

/-- A listener that has left does not come back. -/
theorem listens_of_step (listens : (e.step s).2.signals.listener ≠ .gone) :
    e.signals.listener ≠ .gone := by
  intro gone
  apply listens
  cases s with
  | act a => exact (perform_listener a e).trans gone
  | takeSignals => simp [step, takeSignals?, Signals.take?, gone]
  | hear | stopListening => simp [step, isHeard, gone]

/-- Only closing the editor ends the telling. -/
theorem step_sending (e : Editor) (s : Step) :
    (e.step s).2.signals.sending = (e.signals.sending && s ≠ .act .close) := by
  cases s with
  | act a =>
    by_cases stays : a = .close
    · subst stays
      simp [step, perform_close_signals]
    · simp only [step, perform_signals stays]
      split <;> simp [Signals.emit_sending, stays]
  | takeSignals => simp [(step_takeSignals e).1]
  | hear | stopListening =>
    simp only [step]
    split <;> simp [Signals.next, Signals.drop]

/-- As long as the listener has not left, a step adds a signal if it is a change and the editor has
not been closed. -/
theorem step_counts (listens : (e.step s).2.signals.listener ≠ .gone) :
    (e.step s).2.signals.queued + (e.hears s).count .changed
      = e.signals.queued + (e.signals.sending && e.changes s).toNat := by
  have stillListens := listens_of_step listens
  cases s with
  | act a =>
    have silent : e.hears (.act a) = [] := by
      cases user : a.isUserEdit <;> simp [hears, step, answer, user]
    rw [silent]
    by_cases stays : a = .close
    · subst stays
      simp [changes_act, Action.isUserEdit, step, perform_close_signals]
    · simp only [step, perform_signals stays]
      cases e.changes (.act a) with
      | false => simp
      | true => cases sending : e.signals.sending <;> simp [Signals.emit, sending, stillListens]
  | takeSignals =>
    obtain ⟨-, same, unchanged, silent⟩ := step_takeSignals e
    simp [same, unchanged, silent]
  | hear =>
    have unchanged : e.changes .hear = false := by
      simp only [changes, step]
      split <;> simp
    rw [unchanged, Bool.and_false]
    exact hear_queued e
  | stopListening =>
    cases heard : e.isHeard with
    | true => simp [step, heard, Signals.drop] at listens
    | false => simp [changes, hears, step, heard]

/-! ## Many steps -/

theorem listens_of_after (listens : (e.after steps).signals.listener ≠ .gone) :
    e.signals.listener ≠ .gone := by
  induction steps generalizing e with
  | nil => exact listens
  | cons s rest ih => exact listens_of_step (ih listens)

/-- While the editor is not closed and the listener has not left, what waits and what is heard grow
by the changes made. -/
theorem queued_add_heardBy (sending : e.signals.sending = true) (stays : .act .close ∉ steps)
    (listens : (e.after steps).signals.listener ≠ .gone) :
    (e.after steps).signals.queued + (e.heardBy steps).count .changed
      = e.signals.queued + e.changesBy steps := by
  induction steps generalizing e with
  | nil => rfl
  | cons s rest ih =>
    obtain ⟨here, later⟩ := List.ne_and_not_mem_of_not_mem_cons stays
    have sendingLater : (e.step s).2.signals.sending = true := by
      rw [step_sending, sending]
      simp [Ne.symm here]
    have first := step_counts (e := e) (s := s) (listens_of_after listens)
    have run := ih sendingLater later listens
    rw [sending, Bool.true_and] at first
    rw [heardBy, changesBy, List.count_append]
    simp only [after, List.foldl_cons] at run ⊢
    omega

/-- Once the editor is closed, what waits and what is heard come to what waited then. -/
theorem queued_add_heardBy_of_closed (closed : e.signals.sending = false)
    (listens : (e.after steps).signals.listener ≠ .gone) :
    (e.after steps).signals.sending = false ∧
      (e.after steps).signals.queued + (e.heardBy steps).count .changed = e.signals.queued := by
  induction steps generalizing e with
  | nil => exact ⟨closed, rfl⟩
  | cons s rest ih =>
    have closedLater : (e.step s).2.signals.sending = false := by
      rw [step_sending, closed, Bool.false_and]
    have first := step_counts (e := e) (s := s) (listens_of_after listens)
    obtain ⟨still, run⟩ := ih closedLater listens
    rw [closed, Bool.false_and] at first
    refine ⟨still, ?_⟩
    rw [heardBy, List.count_append]
    simp only [after, List.foldl_cons, Bool.toNat_false] at first run ⊢
    omega

/-- The listener of a closed editor hears a signal for each that waited, and then the end. -/
theorem hears_of_closed (closed : e.signals.sending = false)
    (heard : (e.after steps).isHeard = true) :
    (e.after steps).hears .hear
      = [if (e.heardBy steps).count .changed < e.signals.queued then .changed else .ended] := by
  have listens : (e.after steps).signals.listener ≠ .gone := by
    intro gone
    simp [isHeard, gone] at heard
  obtain ⟨still, counted⟩ := queued_add_heardBy_of_closed closed listens
  have waits : 0 < (e.after steps).signals.queued ↔
      (e.heardBy steps).count .changed < e.signals.queued := by omega
  simp [hears, step, heard, Signals.hear, still, waits]

/-- Whatever is done to a closed editor, its signals stay as they are. -/
theorem after_acts_of_closed (closed : e.signals.sending = false)
    (acts : ∀ s ∈ steps, ∃ a, s = .act a) : (e.after steps).signals = e.signals := by
  induction steps generalizing e with
  | nil => rfl
  | cons s rest ih =>
    obtain ⟨⟨a, rfl⟩, later⟩ := List.forall_mem_cons.1 acts
    have same : (e.perform a).signals = e.signals := by
      by_cases stays : a = .close
      · subst stays
        rw [perform_close_signals, ← closed]
      · rw [perform_signals stays]
        split
        · simp [Signals.emit, closed]
        · rfl
    exact (ih (e := e.perform a) (same ▸ closed) later).trans same

/-- **Signals count the user's changes exactly.** Take a new editor and whatever is done to it, by
any of those who hold it, with the listener coming at any point or never. As long as the editor has
not been closed and the listener has not left, what waits for it and what it has heard add up to the
changes by the user that were accepted. Once the editor is closed nothing that is done to it adds to
what waits. The listener hears just the signals that waited then, and after the last of them the
end. -/
theorem signals_count_changes (steps : List Step) :
    let e := fresh.after steps
    (.act .close ∉ steps → e.signals.listener ≠ .gone →
      e.signals.queued + (fresh.heardBy steps).count .changed = fresh.changesBy steps) ∧
    ∀ later,
      let closed := e.perform .close
      let left := closed.after later
      closed.signals.queued = e.signals.queued ∧
      ((∀ s ∈ later, ∃ a, s = .act a) → left.signals = closed.signals) ∧
      (left.isHeard = true → left.hears .hear =
        [if (closed.heardBy later).count .changed < e.signals.queued then .changed
          else .ended]) := by
  intro e
  constructor
  · intro stays listens
    have counted := queued_add_heardBy (e := fresh) rfl stays listens
    rwa [show fresh.signals.queued = 0 from rfl, Nat.zero_add] at counted
  · intro later closed left
    have silent : closed.signals.sending = false := rfl
    exact ⟨rfl, after_acts_of_closed silent, hears_of_closed silent⟩

/-- Read-only at first; then text is typed that is none, a removal at the very beginning changes
nothing, and all is replaced by the same. The listener comes after that, and is still there when the
editor is closed and made editable again. -/
theorem signals_count_changes_late :
    let steps : List Step := [.act (.typeText ['x']), .act (.setEditable true),
      .act (.setContent ['a']), .act (.typeText []), .act .backspace, .act (.replaceAll ['a']),
      .act .backspace, .takeSignals, .hear]
    let acts : List Step := [.act (.setEditable true), .act (.typeText ['y'])]
    let e := fresh.after steps
    let closed := e.perform .close
    e.signals.queued + [Signals.Heard.changed].count .changed = 3 ∧ e.signals.queued = 2 ∧
      (closed.after acts).content = ['y'] ∧ (closed.after acts).signals = closed.signals ∧
      (closed.after (acts ++ [.hear])).hears .hear = [.changed] ∧
      (closed.after (acts ++ [.hear, .hear])).hears .hear = [.ended] := by
  intro steps acts e closed
  obtain ⟨counted, closes⟩ := signals_count_changes steps
  obtain ⟨-, kept, -⟩ := closes acts
  obtain ⟨-, -, first⟩ := closes (acts ++ [.hear])
  obtain ⟨-, -, second⟩ := closes (acts ++ [.hear, .hear])
  refine ⟨counted (by decide) (by decide), rfl, rfl, kept ?_, first rfl, second rfl⟩
  intro s member
  rcases List.mem_cons.1 member with rfl | member
  · exact ⟨_, rfl⟩
  · exact ⟨_, List.mem_singleton.1 member⟩

end TextSync.Editor
