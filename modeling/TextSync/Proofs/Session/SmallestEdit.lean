import TextSync.Proofs.Edit.Smallest
import TextSync.Proofs.Editor.UserEdit
import TextSync.Proofs.Session.Lifecycle
import TextSync.Proofs.Session.NothingLost

/-!
# A session sends no more than the user has changed

Of one change of the text a session sends at most one edit, the one between the text before and the
text after it (`Passed`), whichever handler comes upon the change and whatever others do meanwhile.
No edit that makes this change is smaller, so none that the user can make goes out as a larger one.
-/

namespace TextSync.Session

variable {peer : Peer} {s t : Session} {m : Move} {moves : List (Peer × Move)}

/-- Both ends of the selection lie within the text while a session is live, whatever happens. -/
theorem bounded_after (bounded : s.phase = .live → s.editor.Bounded) (moves : List (Peer × Move)) :
    (s.after moves).phase = .live → (s.after moves).editor.Bounded :=
  after_keeps (P := fun s => s.phase = .live → s.editor.Bounded)
    (fun _ _ _ before => move_keeps Deed.bounded
      (fun action _ kept live => Editor.bounded_perform (kept live) action) before) bounded

/-! ## One change of the text -/

/-- Whether a move changes the text of the editor past the session. -/
def Move.changesText (m : Move) : Bool := m.writesText || m.action?.any (·.isUserEdit)

/-- How far a session has come with a change from one text to another, given what it had sent
before: it has not looked at the text yet, or it is done with the change and has sent at most the
edit between the two. -/
inductive Passed (known text : Text) (before : List Edit) (s : Session) : Prop
  | unseen (live : s.phase = .live) (content : s.content = known) (typed : s.editor.content = text)
      (sent : s.sentEdits = before)
  | seen (past : s.phase ≠ .awaitingSnapshot) (knows : s.phase = .live → s.InStep)
      (passed : ∃ sent, s.sentEdits = before ++ sent ∧ sent <+: (Edit.between known text).toList)

variable {known text : Text} {before : List Edit}

/-- What has been sent of the change so far. -/
theorem Passed.sent (passed : Passed known text before s) :
    ∃ sent, s.sentEdits = before ++ sent ∧ sent <+: (Edit.between known text).toList := by
  cases passed with
  | unseen live content typed sent => exact ⟨[], by simp [sent], List.nil_prefix⟩
  | seen past knows passed => exact passed

/-- A session that has sent no more than before and knows the text, or has ended, is done with the
change. -/
theorem Passed.done (passed : Passed known text before s) (past : t.phase ≠ .awaitingSnapshot)
    (knows : t.phase = .live → t.InStep) (same : t.sentEdits = s.sentEdits) :
    Passed known text before t :=
  .seen past knows (same ▸ passed.sent)

theorem Deed.passed (deed : Deed peer s t) (passed : Passed known text before s) :
    Passed known text before t := by
  have past : t.phase ≠ .awaitingSnapshot := by
    refine deed.onward.ne_awaiting ?_
    cases passed with
    | unseen live => simp [live]
    | seen past => exact past
  cases deed with
  | note | complain | presence | cursor | around =>
    cases passed with
    | unseen live content typed sent => exact .unseen live content typed sent
    | seen _ knows sent => exact .seen past knows sent
  | shutDown ending on => exact passed.done past (fun live => nomatch live) rfl
  | goLive document awaiting =>
    cases passed with
    | unseen live => exact nomatch live.symm.trans awaiting
    | seen began => exact absurd awaiting began
  | write live known applied =>
    have knows := applyRemote_inStep applied
    obtain ⟨content, -, rfl⟩ := applyRemote_eq_ok applied
    exact passed.done past (fun _ => knows) rfl
  | @send e live found =>
    cases passed with
    | unseen _ content typed sent =>
      refine .seen past (fun _ => ?_) ⟨[e], ?_, ?_⟩
      · rw [InStep, send_content, send_editor]
        rfl
      · rw [send_sentEdits]
        exact congrArg (· ++ [e]) sent
      · have between : Edit.between known text = some e := content ▸ typed ▸ found
        rw [between]
        exact List.prefix_rfl
    | seen _ knows => exact absurd (knows live) (not_inStep_of_pending found)

theorem passed_move (peer : Peer) (quiet : m.changesText = false)
    (passed : Passed known text before s) : Passed known text before (s.move peer m) := by
  obtain ⟨own, others⟩ : m.writesText = false ∧ m.action?.any (·.isUserEdit) = false := by
    simpa [Move.changesText] using quiet
  refine move_keeps Deed.passed (fun action isAction passed => ?_) passed
  have same : (s.editor.perform action).content = s.editor.content := by
    rw [Move.eq_act isAction] at own
    obtain ⟨same, -⟩ | ⟨user, -⟩ := Editor.perform_cases (Move.ne_setContent own) s.editor
    · exact same
    · simp [isAction, user] at others
  cases passed with
  | unseen live content typed sent => exact .unseen live content (same.trans typed) sent
  | seen past knows sent => exact .seen past (fun live => (knows live).trans same.symm) sent

theorem passed_after (quiet : ∀ m ∈ moves, m.2.changesText = false)
    (passed : Passed known text before s) : Passed known text before (s.after moves) :=
  after_keeps (P := Passed known text before)
    (fun m member _ passed => passed_move m.1 (quiet m member) passed) passed

/-- Of an accepted change by the user nothing larger is sent than the user's own edit. -/
theorem sent_le_userEdit {a : Editor.Action} (user : a.isUserEdit = true) (live : s.phase = .live)
    (knows : s.InStep) (bounded : s.editor.Bounded) (quiet : ∀ m ∈ moves, m.2.changesText = false) :
    let t := { s with editor := s.editor.perform a }.after moves
    ∃ sent, t.sentEdits = s.sentEdits ++ sent ∧ sent.length ≤ 1 ∧ ∀ e ∈ sent,
      ∃ u, s.editor.userEdit? a = some u ∧
        u.apply s.editor.content = .ok (s.editor.perform a).content ∧
        e.apply s.editor.content = .ok (s.editor.perform a).content ∧
        e.removedLength ≤ u.removedLength ∧ e.insertedLength ≤ u.insertedLength ∧
        u.position ≤ e.position := by
  intro t
  have passed : Passed s.content (s.editor.perform a).content s.sentEdits t :=
    passed_after quiet (.unseen live rfl rfl rfl)
  obtain ⟨sent, grown, few⟩ := passed.sent
  rw [knows] at few
  refine ⟨sent, grown, Nat.le_trans few.length_le (Option.length_toList_le), fun e member => ?_⟩
  have found : Edit.between s.editor.content (s.editor.perform a).content = some e :=
    Option.mem_toList.1 (few.subset member)
  have differ : (s.editor.perform a).content ≠ s.editor.content := by
    intro same
    rw [Edit.between_eq_none_iff.2 same.symm] at found
    cases found
  cases editable : s.editor.editable with
  | false => exact absurd (by simp [Editor.perform, Editor.accepts, user, editable]) differ
  | true =>
    obtain ⟨u, made, applied⟩ | ⟨-, same⟩ := Editor.apply_userEdit? bounded editable user
    · exact ⟨u, made, applied, Edit.apply_between found, Edit.between_smallest found applied⟩
    · exact absurd same differ

/-- **The edit between two texts is the smallest, and none larger than the user's goes out.** Any
edit that leads from one text to another removes and inserts at least as much as the one between
them and begins no further to the right. One that removes or inserts as little and stands as far to
the right is the same edit, but for halves that do nothing.

Let the user change the text at a time when a live session knows it. Until the text is changed again
by anyone but the session, whatever happens and however its peer answers, it sends at most one edit,
the edit makes the user's change, and the user has removed and inserted at least as much. -/
theorem smallest_sent :
    (∀ old new : Text, old ≠ new → ∃ e, Edit.between old new = some e ∧ e.apply old = .ok new ∧
      ∀ u : Edit, u.apply old = .ok new →
        e.removedLength ≤ u.removedLength ∧ e.insertedLength ≤ u.insertedLength ∧
          u.position ≤ e.position ∧
          (u.removedLength ≤ e.removedLength ∨ u.insertedLength ≤ e.insertedLength →
            e.position ≤ u.position → u.terse = e)) ∧
    ∀ (settings : Settings) (inbox : Inbox) (editor : Editor) (now : Nat) (s₀ : Session),
      start settings inbox editor now = .ok s₀ → ∀ moves : List (Peer × Move),
        let s := s₀.after moves
        s.phase = .live → s.content = s.editor.content →
          ∀ (a : Editor.Action) (later : List (Peer × Move)), a.isUserEdit = true →
            (∀ m ∈ later, m.2.changesText = false) →
            let t := { s with editor := s.editor.perform a }.after later
            ∃ sent, t.sentEdits = s.sentEdits ++ sent ∧ sent.length ≤ 1 ∧ ∀ e ∈ sent,
              ∃ u, s.editor.userEdit? a = some u ∧
                u.apply s.editor.content = .ok (s.editor.perform a).content ∧
                e.apply s.editor.content = .ok (s.editor.perform a).content ∧
                e.removedLength ≤ u.removedLength ∧ e.insertedLength ≤ u.insertedLength ∧
                u.position ≤ e.position := by
  refine ⟨fun old new differ => ?_, fun settings inbox editor now s₀ started moves => ?_⟩
  · obtain ⟨e, found⟩ := Option.ne_none_iff_exists'.1 (mt Edit.between_eq_none_iff.1 differ)
    refine ⟨e, found, Edit.apply_between found, fun u applied => ?_⟩
    obtain ⟨removed, inserted, position⟩ := Edit.between_smallest found applied
    exact ⟨removed, inserted, position, Edit.terse_eq_of_smallest found applied⟩
  · intro s live knows a later user quiet
    have begun : s₀.phase = .live → s₀.editor.Bounded := by
      obtain ⟨-, _, rfl⟩ := start_eq_ok started
      exact fun live => nomatch live
    exact sent_le_userEdit user live knows (bounded_after begun moves live) quiet

/-- A run of equal characters, where the same change can be made in many places. The user selects all
of a text backwards and types over it; a batch finds the change, and one character goes out. -/
theorem smallest_sent_typed_over :
    let moves : List (Peer × Move) := [(.agreeing, .step (.receive (.document ⟨['a', 'a', 'b']⟩))),
      (.agreeing, .step (.act (.select ⟨3, 0⟩)))]
    let later : List (Peer × Move) := [(.agreeing, .step (.act (.select ⟨1, 1⟩))),
      (.refusing ['n'], .step (.receive (.edits [.insert 0 ['x'], .delete 9 1]))),
      (.agreeing, .stray), (.agreeing, .pass 0)]
    Edit.between ['a', 'a'] ['a', 'a', 'a'] = some (.insert 2 ['a']) ∧
      (Edit.replace 0 1 ['a', 'a']).apply ['a', 'a'] = .ok ['a', 'a', 'a'] ∧
      (Edit.insert 2 ['a']).removedLength ≤ (Edit.replace 0 1 ['a', 'a']).removedLength ∧
      (Edit.replace 2 0 ['a']).terse = .insert 2 ['a'] ∧
      ∃ s₀, start {} (.ofCapacity 1) .fresh 0 = .ok s₀ ∧
        let s := s₀.after moves
        let t := { s with editor := s.editor.perform (.typeText ['a', 'a']) }.after later
        s.phase = .live ∧ s.content = s.editor.content ∧ (∀ m ∈ later, m.2.changesText = false) ∧
          t.sentEdits = [.delete 2 1] ∧
          s.editor.userEdit? (.typeText ['a', 'a']) = some (.replace 0 3 ['a', 'a']) ∧
          (Edit.delete 2 1).removedLength ≤ (Edit.replace 0 3 ['a', 'a']).removedLength ∧
          (Edit.delete 2 1).insertedLength ≤ (Edit.replace 0 3 ['a', 'a']).insertedLength := by
  intro moves later
  have quiet : ∀ m ∈ later, m.2.changesText = false := by decide
  have started : start {} (.ofCapacity 1) .fresh 0 = .ok _ := rfl
  obtain ⟨e, found, -, smallest⟩ := smallest_sent.1 ['a', 'a'] ['a', 'a', 'a'] (by decide)
  cases found
  refine ⟨rfl, rfl, (smallest (.replace 0 1 ['a', 'a']) rfl).1,
    (smallest (.replace 2 0 ['a']) rfl).2.2.2 (.inl (by decide)) (by decide), _, started, ?_⟩
  intro s t
  have live : s.phase = .live := rfl
  have known : s.content = s.editor.content := rfl
  have before : s.sentEdits = [] := rfl
  have after : t.sentEdits = [.delete 2 1] := by decide +kernel
  obtain ⟨sent, grown, -, sparing⟩ := smallest_sent.2 _ _ _ _ _ started moves live known
    (.typeText ['a', 'a']) later rfl quiet
  rw [before, List.nil_append] at grown
  obtain rfl : [Edit.delete 2 1] = sent := after.symm.trans grown
  obtain ⟨u, made, -, -, removed, inserted, -⟩ := sparing _ List.mem_cons_self
  cases made
  exact ⟨live, known, quiet, after, rfl, removed, inserted⟩

end TextSync.Session
