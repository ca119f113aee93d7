import TextSync.Proofs.Session.Moves

/-!
# No echo

A session sends no more edits than its user has made since the snapshot, and strictly fewer while
there is something it has not sent. It tells the user's changes from its own writing by the text
alone, so the statement is about a whole history: a signal may be stray or stale, a batch may be
left out from some edit on, and the handlers may be called at any time.
-/

namespace TextSync.Session

variable {peer : Peer} {s t : Session} {n : Nat}

/-- Whether a move is a change by the user that is accepted, at a time after the snapshot. -/
def isEdited (s : Session) (m : Move) : Bool :=
  m.action?.any fun action => action.isUserEdit && s.editor.accepts action
    && s.phase != .awaitingSnapshot

/-- How many changes by the user are accepted after the snapshot, in the course of some moves. -/
def acceptedEdits (s : Session) : List (Peer × Move) → Nat
  | [] => 0
  | m :: rest => (s.isEdited m.2).toNat + (s.move m.1 m.2).acceptedEdits rest

/-- With so many changes by the user nothing has been sent but them, and not yet all of them where
the session does not know the text. -/
structure Covered (n : Nat) (s : Session) : Prop where
  sent : s.sentEdits.length ≤ n
  unsent : s.phase = .live → ¬ s.InStep → s.sentEdits.length < n

/-- An edit is sent only when the texts differ, and then they are the same. -/
theorem Deed.covered (deed : Deed peer s t) (covered : Covered n s) : Covered n t := by
  cases deed with
  | note | complain | presence | cursor | around => exact ⟨covered.sent, covered.unsent⟩
  | shutDown ending on => exact ⟨covered.sent, fun live => nomatch live⟩
  | goLive document awaiting => exact ⟨covered.sent, fun _ differ => absurd rfl differ⟩
  | send live found =>
    have fewer := covered.unsent live (not_inStep_of_pending found)
    refine ⟨?_, fun _ differ => absurd ?_ differ⟩
    · rw [send_sentEdits, List.length_append]
      exact fewer
    · rw [InStep, send_content, send_editor]
      rfl
  | write live known applied =>
    refine ⟨?_, fun _ differ => absurd (applyRemote_inStep applied) differ⟩
    obtain ⟨content, -, rfl⟩ := applyRemote_eq_ok applied
    exact covered.sent

/-- A change by the user may leave something to send, but then it counts. -/
theorem covered_act {action : Editor.Action}
    (own : (Move.step (.act action)).writesText = false) (covered : Covered n s) :
    Covered (n + (s.isEdited (.step (.act action))).toNat)
      { s with editor := s.editor.perform action } := by
  have sent := covered.sent
  refine ⟨Nat.le_trans sent (Nat.le_add_right _ _), fun live differ => ?_⟩
  obtain ⟨same, -⟩ | ⟨user, editable, -⟩ :=
    Editor.perform_cases (Move.ne_setContent own) s.editor
  · have before : ¬ s.InStep := fun known => differ (known.trans same.symm)
    exact Nat.lt_add_right _ (covered.unsent live before)
  · have after : s.phase = .live := live
    have counts : s.isEdited (.step (.act action)) = true := by
      simp [isEdited, Move.action?, user, Editor.accepts, editable, after]
    rw [counts]
    exact Nat.lt_succ_of_le sent

theorem covered_move (peer : Peer) {m : Move} (own : m.writesText = false)
    (covered : Covered n s) : Covered (n + (s.isEdited m).toNat) (s.move peer m) := by
  cases isAction : m.action? with
  | none =>
    have uncounted : s.isEdited m = false := by simp [isEdited, isAction]
    rw [uncounted]
    exact (deeds_move peer s isAction).keep Deed.covered covered
  | some action =>
    cases Move.eq_act isAction
    exact covered_act own covered

theorem covered_after {moves : List (Peer × Move)} (own : ∀ m ∈ moves, m.2.writesText = false)
    (covered : Covered n s) : Covered (n + s.acceptedEdits moves) (s.after moves) := by
  induction moves generalizing n s with
  | nil => exact covered
  | cons m rest ih =>
    have first := covered_move m.1 (own m List.mem_cons_self) covered
    have all := ih (fun later member => own later (List.mem_cons_of_mem _ member)) first
    rw [Nat.add_assoc] at all
    exact all

/-- **No echo.** Whatever happens, as long as no one but the user and the session writes the text:
no more edits are sent than changes by the user have been accepted since the snapshot, and strictly
fewer while the session does not know the user's text. -/
theorem sentEdits_le_acceptedEdits {settings : Settings} {inbox : Inbox} {editor : Editor}
    {now : Nat} {s₀ : Session} (started : start settings inbox editor now = .ok s₀)
    (moves : List (Peer × Move)) (own : ∀ m ∈ moves, m.2.writesText = false) :
    let s := s₀.after moves
    s.sentEdits.length ≤ s₀.acceptedEdits moves ∧
      (s.phase = .live → s.content ≠ s.editor.content →
        s.sentEdits.length < s₀.acceptedEdits moves) := by
  intro s
  have begun : Covered 0 s₀ := by
    obtain ⟨-, _, rfl⟩ := start_eq_ok started
    exact ⟨Nat.le_refl 0, fun live => nomatch live⟩
  have covered : Covered (0 + s₀.acceptedEdits moves) s := covered_after own begun
  rw [Nat.zero_add] at covered
  exact ⟨covered.sent, covered.unsent⟩

/-- Signals that are older than the session, a change that a batch finds unsent, one that is not yet
sent, and a batch that is left out half. -/
theorem sentEdits_lt_acceptedEdits_stale :
    let moves : List (Peer × Move) := [(.agreeing, .pass 0),
      (.agreeing, .step (.receive (.document ⟨['a']⟩))), (.agreeing, .pass 0),
      (.agreeing, .step (.act (.typeText ['x']))),
      (.refusing [], .step (.receive (.edits [.insert 0 ['y'], .delete 9 1]))),
      (.agreeing, .stray), (.agreeing, .pass 0), (.agreeing, .step (.act .backspace))]
    ∃ s₀, start {} (.ofCapacity 1) { Editor.fresh with signals := ⟨true, 2, .offered⟩ } 0 = .ok s₀ ∧
      (∀ m ∈ moves, m.2.writesText = false) ∧
      (s₀.after moves).phase = .live ∧ (s₀.after moves).content ≠ (s₀.after moves).editor.content ∧
      (s₀.after moves).sentEdits = [.insert 0 ['x']] ∧
      (s₀.after moves).sentEdits.length < s₀.acceptedEdits moves := by
  intro moves
  have own : ∀ m ∈ moves, m.2.writesText = false := by decide
  have started : start {} (.ofCapacity 1)
    { Editor.fresh with signals := ⟨true, 2, .offered⟩ } 0 = .ok _ := rfl
  refine ⟨_, started, own, rfl, by decide, rfl, ?_⟩
  exact (sentEdits_le_acceptedEdits started moves own).2 rfl (by decide)

end TextSync.Session
