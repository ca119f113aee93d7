import TextSync.Outbox
import TextSync.Proofs.Editor.Signalled
import TextSync.Proofs.Session.Desk

/-!
# Attempts that come to nothing

An attempt to start a session comes to one if the settings are valid and the listener's place is on
offer (`exists_start_iff`), which it is until someone takes it (`offered_after`). Otherwise the
editor is left as it was, but read-only, and the peer is told why.

Settings are looked at first, so an attempt with faulty ones does not take the listener's place. It
takes the text out of the user's hands, and no more. The next attempt begins by doing the same, so
it finds everything as if there had been none before it (`Alike.attempt`).
-/

namespace TextSync

namespace Editor

variable {e : Editor} {s : Step} {steps : List Step}

theorem offered_step :
    (e.step s).2.signals.listener = .offered ↔
      e.signals.listener = .offered ∧ s ≠ .takeSignals := by
  cases s with
  | act a => simp [step, perform_listener]
  | takeSignals =>
    by_cases offered : e.signals.listener = .offered <;>
      simp [step, takeSignals?, Signals.take?, offered]
  | hear | stopListening =>
    by_cases taken : e.signals.listener = .taken <;>
      simp [step, isHeard, taken, Signals.next, Signals.drop]

/-- The listener's place is on offer until it is taken. -/
theorem offered_after :
    (e.after steps).signals.listener = .offered ↔
      e.signals.listener = .offered ∧ .takeSignals ∉ steps := by
  induction steps generalizing e with
  | nil => simp [after]
  | cons s rest ih =>
    have later : (e.after (s :: rest)) = (e.step s).2.after rest := rfl
    rw [later, ih, offered_step, List.mem_cons, not_or, and_assoc, ne_comm]

/-- Only a change by the user depends on whether the user can type. -/
theorem perform_setEditable {a : Action} (own : a.isUserEdit = false) (e : Editor) :
    (e.perform a).setEditable false = ((e.setEditable false).perform a).setEditable false := by
  cases a with
  | typeText | backspace | replaceAll => cases own
  | select | setContent | setEditable | close => rfl

end Editor

namespace Session

variable {settings : Settings} {inbox : Inbox} {editor : Editor} {now : Nat}

theorem start_of_fault {fault : Settings.Fault} (faulty : settings.fault? = some fault)
    (inbox : Inbox) (editor : Editor) (now : Nat) :
    start settings inbox editor now = .error ⟨.settings fault, editor.setEditable false⟩ := by
  unfold start
  dsimp only
  split
  · rename_i other found
    rw [faulty] at found
    cases found
    rfl
  · rename_i valid
    rw [faulty] at valid
    cases valid

theorem start_of_valid (valid : settings.fault? = none) (inbox : Inbox) (editor : Editor)
    (now : Nat) :
    (editor.signals.listener = .offered ∧ ∃ s, start settings inbox editor now = .ok s) ∨
      editor.signals.listener ≠ .offered ∧
        start settings inbox editor now = .error ⟨.noSignals, editor.setEditable false⟩ := by
  unfold start
  dsimp only
  split
  · rename_i fault faulty
    rw [valid] at faulty
    cases faulty
  · by_cases offered : editor.signals.listener = .offered <;>
      simp [Editor.takeSignals?, Editor.setEditable, Signals.take?, offered]

/-- An attempt comes to a session if the settings are valid and the listener's place is on offer. -/
theorem exists_start_iff :
    (∃ s, start settings inbox editor now = .ok s) ↔
      settings.fault? = none ∧ editor.signals.listener = .offered := by
  cases found : settings.fault? with
  | some fault => simp [start_of_fault found]
  | none =>
    obtain ⟨offered, started⟩ | ⟨taken, refused⟩ := start_of_valid found inbox editor now
    · simp [offered, started]
    · simp [taken, refused]

/-- Faulty settings are found first. -/
theorem complaint_of_start {refusal : Refusal}
    (refused : start settings inbox editor now = .error refusal) :
    refusal.complaint = settings.fault?.elim .noSignals .settings := by
  cases found : settings.fault? with
  | some fault =>
    rw [start_of_fault found] at refused
    cases refused
    rfl
  | none =>
    obtain ⟨-, s, started⟩ | ⟨-, noSignals⟩ := start_of_valid found inbox editor now
    · rw [started] at refused
      cases refused
    · rw [noSignals] at refused
      cases refused
      rfl

/-- It makes no difference to an attempt whether the user can type when it begins. -/
theorem start_setEditable (settings : Settings) (inbox : Inbox) (editor : Editor)
    (editable : Bool) (now : Nat) :
    start settings inbox (editor.setEditable editable) now = start settings inbox editor now :=
  rfl

end Session

namespace Desk

variable {d d' : Desk} {m : Move} {before : List Move}

/-- Whether a move is an attempt with faulty settings. -/
def Move.isFaulty : Move → Bool
  | .attempt settings _ _ => settings.fault?.isSome
  | _ => false

/-- Whether a move is neither a change by the user nor made by a session. -/
def Move.isFromElsewhere : Move → Bool
  | .attempt _ _ _ => true
  | .act action => !action.isUserEdit
  | .move _ _ _ => false

/-- Whose the listener's place is: it is as it was as long as no one has come to a session, and then
no longer on offer. -/
inductive Place (listener : Listener) : Desk → Prop
  | untouched (editor : Editor) (same : editor.signals.listener = listener) :
    Place listener (ofEditor editor)
  | given {d : Desk} (someone : d.sessions ≠ []) (taken : d.editor.signals.listener ≠ .offered) :
    Place listener d

theorem Place.move {listener : Listener} (place : Place listener d) (m : Move) :
    Place listener (d.move m) := by
  cases place with
  | untouched editor same =>
    cases m with
    | attempt settings inbox now =>
      simp only [Desk.move, ofEditor]
      split
      · rename_i s started
        obtain ⟨-, _, rfl⟩ := Session.start_eq_ok started
        exact .given (List.cons_ne_nil _ _) (by simp)
      · rename_i refusal refused
        rw [Session.start_eq_error refused]
        exact .untouched _ same
    | act action => exact .untouched _ ((Editor.perform_listener action editor).trans same)
    | move => exact .untouched editor same
  | given someone taken =>
    cases m with
    | attempt settings inbox now =>
      obtain ⟨refusal, refused, locked⟩ := Session.start_of_taken taken settings inbox now
      simp only [Desk.move, refused, locked]
      exact .given someone taken
    | act action => exact .given someone (by rwa [Desk.move, Editor.perform_listener])
    | move index peer m =>
      simp only [Desk.move, session?]
      cases found : d.sessions[index]? with
      | none => exact .given someone taken
      | some s =>
        refine .given ?_ (Session.notOffered_move taken peer m)
        simpa using someone

theorem offered_after (editor : Editor) (moves : List Move) :
    let d := (ofEditor editor).after moves
    d.editor.signals.listener = .offered ↔
      editor.signals.listener = .offered ∧ d.sessions = [] := by
  have along {d : Desk} (place : Place editor.signals.listener d) :
      Place editor.signals.listener (d.after moves) := by
    induction moves generalizing d with
    | nil => exact place
    | cons m rest ih => exact ih (place.move m)
  intro d
  have place : Place editor.signals.listener d := along (.untouched editor rfl)
  generalize d = d at place
  cases place with
  | untouched other same => simp [ofEditor, same]
  | given someone taken => simp [someone, taken]

/-- Two desks that agree in all but whether the user can type. -/
structure Alike (d d' : Desk) : Prop where
  sessions : d'.sessions = d.sessions
  editor : d'.editor.setEditable false = d.editor.setEditable false

/-- **An attempt makes alike desks the same.** -/
theorem Alike.attempt (alike : Alike d d') (settings : Settings) (inbox : Inbox) (now : Nat) :
    Session.start settings inbox d'.editor now = Session.start settings inbox d.editor now ∧
      d'.move (.attempt settings inbox now) = d.move (.attempt settings inbox now) := by
  have same : Session.start settings inbox d'.editor now
      = Session.start settings inbox d.editor now := by
    rw [← Session.start_setEditable settings inbox d'.editor false, alike.editor]
    rfl
  refine ⟨same, ?_⟩
  simp only [move, same, alike.sessions]

theorem Alike.faulty (alike : Alike d d') (faulty : m.isFaulty = true) : Alike (d.move m) d' := by
  cases m with
  | attempt settings inbox now =>
    obtain ⟨fault, found⟩ := Option.isSome_iff_exists.1 faulty
    have refused := Session.start_of_fault found inbox d.editor now
    simp only [move, refused]
    exact ⟨alike.sessions, alike.editor⟩
  | act | move => cases faulty

theorem Alike.fromElsewhere (alike : Alike d d') (elsewhere : m.isFromElsewhere = true) :
    Alike (d.move m) (d'.move m) := by
  cases m with
  | attempt settings inbox now =>
    rw [(alike.attempt settings inbox now).2]
    exact ⟨rfl, rfl⟩
  | act action =>
    have own : action.isUserEdit = false := by simpa [Move.isFromElsewhere] using elsewhere
    refine ⟨alike.sessions, ?_⟩
    show (d'.editor.perform action).setEditable false = (d.editor.perform action).setEditable false
    rw [Editor.perform_setEditable own d.editor, ← alike.editor,
      ← Editor.perform_setEditable own d'.editor]
  | move => cases elsewhere

/-- Attempts with faulty settings can be left out. -/
theorem alike_after (alike : Alike d d') (elsewhere : ∀ m ∈ before, m.isFromElsewhere = true) :
    Alike (d.after before) (d'.after (before.filter (!·.isFaulty))) := by
  induction before generalizing d d' with
  | nil => exact alike
  | cons m rest ih =>
    obtain ⟨first, elsewhere⟩ := List.forall_mem_cons.1 elsewhere
    cases faulty : m.isFaulty with
    | true =>
      rw [List.filter_cons_of_neg (by simp [faulty])]
      exact ih (alike.faulty faulty) elsewhere
    | false =>
      rw [List.filter_cons_of_pos (by simp [faulty])]
      exact ih (alike.fromElsewhere first) elsewhere

/-- **A failed attempt only locks the editor, and can be repeated.** Whatever was done to an editor,
an attempt to start a session on it succeeds if and only if the settings are valid and the
listener's place is still on offer. With a new editor that tells of changes, it is until someone
takes it, be it by hand or with a session. An attempt that fails leaves the editor as it was, but
read-only, and makes one complaint to the peer: of the settings if they are at fault, else of the
listener's place.

Let there be any attempts before, by anyone who holds the editor, and let other parts of the program
act on it in between. If those with faulty settings had not been made, the next attempt would come
to the same, session and all, and so would everything after it. -/
theorem attempt_atomic (d : Desk) (settings : Settings) (inbox : Inbox) (now : Nat) :
    let attempt := Session.start settings inbox d.editor now
    ((∃ s, attempt = .ok s) ↔ 0 < settings.pollPeriod ∧ 0 < settings.eventCapacity ∧
      d.editor.signals.listener = .offered) ∧
    (∀ created ∈ [Editor.fresh, Editor.withoutSignals],
      (∀ steps, d.editor = created.after steps →
        (d.editor.signals.listener = .offered ↔ created = .fresh ∧ .takeSignals ∉ steps)) ∧
      ∀ moves, d = (ofEditor created).after moves →
        (d.editor.signals.listener = .offered ↔ created = .fresh ∧ d.sessions = [])) ∧
    (∀ refusal, attempt = .error refusal →
      refusal.editor = { d.editor with editable := false } ∧
      refusal.complaint = settings.fault?.elim .noSignals .settings ∧
      Session.told attempt = [.complain refusal.complaint] ∧
      ∀ o : Outbox, (Session.told attempt).foldl Outbox.carry o
        = o.put (.error refusal.complaint.message.toList)) ∧
    ∀ before, (∀ m ∈ before, m.isFromElsewhere = true) →
      let kept := before.filter (!·.isFaulty)
      Session.start settings inbox (d.after before).editor now
        = Session.start settings inbox (d.after kept).editor now ∧
      ∀ later, d.after (before ++ .attempt settings inbox now :: later)
        = d.after (kept ++ .attempt settings inbox now :: later) := by
  intro attempt
  refine ⟨?_, ?_, ?_, ?_⟩
  · rw [Session.exists_start_iff, Settings.fault?_eq_none_iff, and_assoc]
  · intro created isCreated
    have atFirst : created.signals.listener = .offered ↔ created = .fresh := by
      simp only [List.mem_cons, List.not_mem_nil, or_false] at isCreated
      rcases isCreated with rfl | rfl <;> decide
    constructor
    · intro steps reached
      rw [reached, Editor.offered_after, atFirst]
    · rintro moves rfl
      exact (offered_after created moves).trans (and_congr_left fun _ => atFirst)
  · intro refusal refused
    have told : Session.told attempt = [.complain refusal.complaint] := by
      rw [refused]
      rfl
    refine ⟨Session.start_eq_error refused, Session.complaint_of_start refused, told, fun o => ?_⟩
    rw [told]
    rfl
  · intro before elsewhere kept
    have alike : Alike (d.after before) (d.after kept) := alike_after ⟨rfl, rfl⟩ elsewhere
    obtain ⟨same, next⟩ := alike.attempt settings inbox now
    refine ⟨same.symm, fun later => ?_⟩
    simp only [after, List.foldl_append, List.foldl_cons] at next ⊢
    rw [next]

/-- A change is already waiting when the first attempts fail, between which the text is selected. -/
theorem attempt_atomic_waiting :
    let typed := Editor.fresh.after [.act (.setEditable true), .act (.typeText ['x'])]
    let inbox := Inbox.ofCapacity 256
    let before : List Move := [.attempt { pollPeriod := 0 } inbox 0, .act (.select ⟨0, 1⟩),
      .attempt { eventCapacity := 0 } (.ofCapacity 0) 5]
    let later : List Move := [.attempt {} inbox 6,
      .move 0 .agreeing (.step (.receive (.document ⟨['a']⟩))), .act (.typeText ['y']),
      .move 0 .agreeing (.pass 7)]
    let d := ofEditor typed
    typed.signals.queued = 1 ∧ typed.signals.listener = .offered ∧
      (∃ s, Session.start {} inbox typed 5 = .ok s) ∧
      Session.told (Session.start ⟨0, 0⟩ inbox typed 5) = [.complain (.settings .zeroPollPeriod)] ∧
      d.after (before ++ .attempt {} inbox 5 :: later)
        = d.after (.act (.select ⟨0, 1⟩) :: .attempt {} inbox 5 :: later) ∧
      (d.after (before ++ .attempt {} inbox 5 :: later)).editor.content = ['y'] := by
  intro typed inbox before later d
  have valid := attempt_atomic d {} inbox 5
  have faulty := attempt_atomic d ⟨0, 0⟩ inbox 5
  have offered : typed.signals.listener = .offered :=
    ((valid.2.1 .fresh (by decide)).1 [.act (.setEditable true), .act (.typeText ['x'])] rfl).2
      (by decide)
  refine ⟨rfl, offered, ?_, ?_, ?_, ?_⟩
  · exact valid.1.2 ⟨by decide, by decide, offered⟩
  · exact (faulty.2.2.1 _ rfl).2.2.1
  · exact (valid.2.2.2 before (by decide)).2 later
  · decide +kernel

end Desk

end TextSync
