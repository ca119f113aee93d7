import Mathlib.Order.Bounds.Defs
import TextSync.Proofs.Selection
import TextSync.Proofs.Session.Accounts

/-!
# What becomes of a batch

A live session that is handed a batch sends first what its user has changed. Then it writes as much
of the batch as can be made, edit by edit, and complains of the first that cannot (`applyAll_eq`).
What is written are the edits that fit, which are as many as can be made at all
(`Edit.isGreatest_fitting`). So nothing is left of an edit that does not fit, and a batch whose first
part fits may as well come in two (`receive_batch`).
-/

namespace TextSync

/-! ## As much as can be made -/

namespace Edit

variable {e : Edit} {text next : Text} {fault : Fault}

theorem fault_of_apply (refused : e.apply text = .error fault) :
    fault = .outOfBounds e.position e.removedLength text.length := by
  unfold apply at refused
  split at refused
  · cases refused
  · exact (Except.error.inj refused).symm

/-- Edits that can all be made fit, and with them what fits behind them. -/
theorem fitting_append {first : List Edit} (made : applyEach first text = .ok next)
    (second : List Edit) : fitting (first ++ second) text = first ++ fitting second next := by
  induction first generalizing text with
  | nil =>
    cases made
    rfl
  | cons e rest ih =>
    obtain ⟨middle, applied, made⟩ := applyEach_cons_eq_ok made
    rw [List.cons_append, fitting_of_ok _ applied, ih made, List.cons_append]

theorem fitting_eq_take (batch : List Edit) (text : Text) :
    fitting batch text = batch.take (fitting batch text).length := by
  obtain ⟨rest, result, split, -⟩ := fitting_cut batch text
  exact (List.prefix_iff_eq_take.1 ⟨rest, split.symm⟩)

/-- **As many edits of a batch fit as can be made one after the other.** -/
theorem isGreatest_fitting (batch : List Edit) (text : Text) :
    IsGreatest {n | n ≤ batch.length ∧ ∃ result, applyEach (batch.take n) text = .ok result}
      (fitting batch text).length := by
  obtain ⟨rest, result, split, reached, ends⟩ := fitting_cut batch text
  have count : batch.length = (fitting batch text).length + rest.length := by
    rw [← List.length_append, ← split]
  refine ⟨⟨by omega, result, ?_⟩, fun n possible => ?_⟩
  · rw [fitting_eq_take] at reached
    exact reached
  obtain ⟨inBatch, further, reachedFurther⟩ := possible
  -- Were more made, the first that does not fit would be among them.
  by_contra more
  obtain ⟨extra, rfl⟩ := Nat.exists_eq_add_of_lt (Nat.not_le.1 more)
  cases rest with
  | nil =>
    rw [List.length_nil] at count
    omega
  | cons e rest =>
    obtain ⟨fault, refused⟩ := ends e rfl
    rw [congrArg (List.take _) split, Nat.add_assoc, List.take_length_add_append,
      List.take_succ_cons] at reachedFurther
    obtain ⟨middle, reachedSame, onward⟩ := applyEach_append_eq_ok reachedFurther
    obtain rfl := Except.ok.inj (reached.symm.trans reachedSame)
    obtain ⟨next, applied, -⟩ := applyEach_cons_eq_ok onward
    exact nomatch refused.symm.trans applied

end Edit

namespace Session

variable {peer : Peer} {s t : Session} {e : Edit} {result next : Text}

/-! ## A batch in two steps -/

/-- The session when edits of others have been written that lead to the given text. -/
def wrote (edits : List Edit) (result : Text) (s : Session) : Session :=
  { s with
    editor := { s.editor with
      content := result
      selection := s.editor.selection.through edits s.editor.content }
    content := result
    history := { s.history with
      changes := (edits.map (Change.mk .there)).reverse ++ s.history.changes }
    tally := { s.tally with applied := s.tally.applied + edits.length } }

/-- The rest of a batch is left out when so many of it are done, because of its first edit. -/
def leaveOut (total done : Nat) : List Edit → Session → Session
  | [], s => s
  | e :: _, s => s.protocolError (.misfit (done + 1) total
      (.outOfBounds e.position e.removedLength s.editor.content.length))

theorem wrote_nil (known : s.InStep) : s.wrote [] s.editor.content = s := by
  have same : s.wrote [] s.editor.content = { s with content := s.editor.content } := rfl
  rw [same, ← known]

/-- An edit is written with the selection where the edit takes it. -/
theorem written_eq_wrote (applied : e.apply s.editor.content = .ok next) :
    s.written e next = s.wrote [e] next := by
  have held : (s.written e next).editor.selection = s.editor.selection.remap e next.length :=
    Selection.within_of_le (Selection.remap_start_le _ _ _) (Selection.remap_stop_le _ _ _)
  have carried : s.editor.selection.through [e] s.editor.content
      = s.editor.selection.remap e next.length := Selection.through_of_ok [] applied _
  calc s.written e next
      = { s.wrote [e] next with
          editor := { s.editor with
            content := next
            selection := (s.written e next).editor.selection } } := rfl
    _ = s.wrote [e] next := by
      rw [held, ← carried]
      rfl

/-- Edits that are written in two parts might as well be written at once. -/
theorem wrote_wrote {first : List Edit} (made : Edit.applyEach first s.editor.content = .ok next)
    (second : List Edit) (result : Text) :
    (s.wrote first next).wrote second result = s.wrote (first ++ second) result := by
  have selection : (s.editor.selection.through first s.editor.content).through second next
      = s.editor.selection.through (first ++ second) s.editor.content :=
    (Selection.through_append made second _).symm
  have changes : (second.map (Change.mk .there)).reverse
        ++ ((first.map (Change.mk .there)).reverse ++ s.history.changes)
      = ((first ++ second).map (Change.mk .there)).reverse ++ s.history.changes := by
    rw [List.map_append, List.reverse_append, List.append_assoc]
  have applied : s.tally.applied + first.length + second.length
      = s.tally.applied + (first ++ second).length := by
    rw [List.length_append, Nat.add_assoc]
  calc (s.wrote first next).wrote second result
      = { s with
          editor := { s.editor with
            content := result
            selection := (s.editor.selection.through first s.editor.content).through second next }
          content := result
          history := { s.history with
            changes := (second.map (Change.mk .there)).reverse
              ++ ((first.map (Change.mk .there)).reverse ++ s.history.changes) }
          tally := { s.tally with
            applied := s.tally.applied + first.length + second.length } } := rfl
    _ = s.wrote (first ++ second) result := by
      rw [selection, changes, applied]
      rfl

/-- **Of a batch as much is written as fits, and the rest is left out.** -/
theorem applyAll_eq (known : s.InStep) (total done : Nat) (batch : List Edit) :
    ∃ rest result, batch = Edit.fitting batch s.editor.content ++ rest ∧
      Edit.applyEach (Edit.fitting batch s.editor.content) s.editor.content = .ok result ∧
      applyAll total done batch s = (s.wrote (Edit.fitting batch s.editor.content) result).leaveOut
        total (done + (Edit.fitting batch s.editor.content).length) rest := by
  induction batch generalizing done s with
  | nil => exact ⟨[], s.editor.content, rfl, rfl, (wrote_nil known).symm⟩
  | cons e batch ih =>
    cases applied : e.apply s.editor.content with
    | error fault =>
      rw [applyAll_of_error total done batch applied, Edit.fault_of_apply applied,
        Edit.fitting_of_error batch applied]
      refine ⟨e :: batch, s.editor.content, rfl, rfl, ?_⟩
      rw [wrote_nil known]
      rfl
    | ok next =>
      have first : Edit.applyEach [e] s.editor.content = .ok next := Edit.applyEach_of_ok [] applied
      obtain ⟨rest, result, split, reached, rested⟩ := ih (s := s.wrote [e] next) rfl (done + 1)
      rw [applyAll_of_ok total done batch applied, written_eq_wrote applied,
        Edit.fitting_of_ok batch applied, Edit.applyEach_of_ok _ applied]
      refine ⟨rest, result, congrArg (e :: ·) split, reached, rested.trans ?_⟩
      rw [wrote_wrote first, List.length_cons, Nat.add_assoc, Nat.add_comm 1]
      rfl

/-! ## A batch that is received -/

variable {batch xs ys : List Edit}

/-- A look at the editor sends what the user has changed, and nothing else. -/
theorem localChange_sentEdits (live : s.phase = .live) :
    (s.localChange peer).2.sentEdits = s.sentEdits ++ s.pending.toList := by
  unfold localChange
  rw [if_pos live]
  cases s.pending with
  | none => exact (List.append_nil _).symm
  | some e => exact send_sentEdits

theorem localChange_protocolErrors (peer : Peer) (s : Session) :
    (s.localChange peer).2.tally.protocolErrors = s.tally.protocolErrors := by
  unfold localChange
  split
  · split
    · rfl
    · rename_i e _
      unfold send
      cases peer (s.accept e).calls e <;> rfl
  · rfl

theorem receive_eq (peer : Peer) (batch : List Edit) (live : s.phase = .live) :
    ∃ rest result, batch = Edit.fitting batch s.editor.content ++ rest ∧
      Edit.applyEach (Edit.fitting batch s.editor.content) s.editor.content = .ok result ∧
      s.receive peer (.edits batch) = ((s.localChange peer).2.wrote
        (Edit.fitting batch s.editor.content) result).leaveOut batch.length
          (Edit.fitting batch s.editor.content).length rest := by
  have known : (s.localChange peer).2.InStep := localChange_inStep live
  have written := applyAll_eq known batch.length 0 batch
  rw [localChange_editor, Nat.zero_add] at written
  simp only [receive, live]
  exact written

/-- A batch whose first part fits might as well come in two parts: only a complaint numbers the
edits in another way. -/
theorem receive_append (peer other : Peer) (live : s.phase = .live)
    (made : Edit.applyEach xs s.editor.content = .ok next) (ys : List Edit) :
    ∃ w rest done,
      s.receive peer (.edits (xs ++ ys)) = leaveOut (xs ++ ys).length (xs.length + done) rest w ∧
      (s.receive peer (.edits xs)).receive other (.edits ys) = leaveOut ys.length done rest w := by
  let u := (s.localChange peer).2
  have same : u.editor = s.editor := localChange_editor peer s
  have madeHere : Edit.applyEach xs u.editor.content = .ok next := same ▸ made
  have allFit : Edit.fitting xs s.editor.content = xs := by
    have alone := Edit.fitting_append made []
    rwa [Edit.fitting, List.append_nil] at alone
  -- The first part is written whole, and leaves a session that knows the text.
  obtain ⟨none, result, split, reached, first⟩ := receive_eq peer xs live
  rw [allFit] at split reached first
  obtain rfl : none = [] := List.self_eq_append_right.1 split
  obtain rfl := Except.ok.inj (made.symm.trans reached)
  have firstPart : s.receive peer (.edits xs) = u.wrote xs next := first
  have stillLive : (u.wrote xs next).phase = .live := (localChange_sameCourse peer s).phase.trans live
  obtain ⟨rest, result, splitRest, reachedRest, second⟩ := receive_eq other ys stillLive
  rw [localChange_of_inStep stillLive rfl, wrote_wrote madeHere] at second
  -- At once, the same edits fit, and the same are left out.
  obtain ⟨restAll, resultAll, splitAll, reachedAll, all⟩ := receive_eq peer (xs ++ ys) live
  rw [Edit.fitting_append made] at splitAll reachedAll all
  rw [List.append_assoc] at splitAll
  obtain rfl : rest = restAll :=
    List.append_cancel_left (splitRest.symm.trans (List.append_cancel_left splitAll))
  rw [Edit.applyEach_append, made] at reachedAll
  obtain rfl := Except.ok.inj (reachedRest.symm.trans reachedAll)
  have count : (xs ++ Edit.fitting ys next).length = xs.length + (Edit.fitting ys next).length :=
    List.length_append
  refine ⟨u.wrote (xs ++ Edit.fitting ys next) result, rest, (Edit.fitting ys next).length, ?_, ?_⟩
  · rw [all, count]
  · rw [firstPart]
    exact second

/-- Whichever edits are counted as done, the rest is left out in the same way. -/
theorem leaveOut_agrees (total done other already : Nat) (rest : List Edit) (w : Session) :
    let s := leaveOut total done rest w
    let t := leaveOut other already rest w
    s.editor = t.editor ∧ s.content = t.content ∧ s.phase = t.phase ∧ s.tally = t.tally ∧
      s.sentEdits = t.sentEdits ∧ s.history = t.history ∧ s.calls.length = t.calls.length := by
  cases rest <;> exact ⟨rfl, rfl, rfl, rfl, rfl, rfl, rfl⟩

/-- **A batch is written as far as it can be, edit by edit.** A live session that is handed a batch
first sends what its user has changed, if anything. Then it writes as many edits as can be made one
after the other to the text in the editor. Both texts become what these edits make of it, and each
takes the selection along. They count as applied. If any edit is left, the first of them is
complained of and counts as one error of the other side. Nothing else changes.

So a batch whose first part can be made comes to the same as that part and then the other, however
the peer answers meanwhile. -/
theorem receive_batch (peer : Peer) (batch : List Edit) (live : s.phase = .live) :
    let u := (s.localChange peer).2
    let t := s.receive peer (.edits batch)
    u.sentEdits = s.sentEdits ++ s.pending.toList ∧
      (∃ k result,
        IsGreatest {n | n ≤ batch.length ∧
          ∃ made, Edit.applyEach (batch.take n) s.editor.content = .ok made} k ∧
        Edit.applyEach (batch.take k) s.editor.content = .ok result ∧
        t = (u.wrote (batch.take k) result).leaveOut batch.length k (batch.drop k) ∧
        t.editor = { s.editor with
          content := result
          selection := s.editor.selection.through (batch.take k) s.editor.content } ∧
        t.content = result ∧ t.phase = s.phase ∧ t.sentEdits = u.sentEdits ∧
        t.tally.applied = s.tally.applied + k ∧
        t.tally.protocolErrors = s.tally.protocolErrors + (if k < batch.length then 1 else 0) ∧
        t.calls = (batch.drop k).head?.toList.map (fun e => ⟨s.now, .complain (.misfit (k + 1)
          batch.length (.outOfBounds e.position e.removedLength result.length))⟩) ++ u.calls) ∧
      ∀ (other : Peer) (xs ys : List Edit) (next : Text), batch = xs ++ ys →
        Edit.applyEach xs s.editor.content = .ok next →
          let v := (s.receive peer (.edits xs)).receive other (.edits ys)
          v.editor = t.editor ∧ v.content = t.content ∧ v.phase = t.phase ∧ v.tally = t.tally ∧
            v.sentEdits = t.sentEdits ∧ v.history = t.history ∧
            v.calls.length = t.calls.length := by
  intro u t
  have editor : u.editor = s.editor := localChange_editor peer s
  have course : SameCourse s u := localChange_sameCourse peer s
  have applied : u.tally.applied = s.tally.applied := localChange_applied peer s
  have errors : u.tally.protocolErrors = s.tally.protocolErrors :=
    localChange_protocolErrors peer s
  refine ⟨localChange_sentEdits live, ?_, ?_⟩
  · obtain ⟨rest, result, split, reached, received⟩ := receive_eq peer batch live
    have taken := Edit.fitting_eq_take batch s.editor.content
    have dropped : batch.drop (Edit.fitting batch s.editor.content).length = rest := by
      rw [congrArg (List.drop _) split, List.drop_left]
    have count : batch.length = (Edit.fitting batch s.editor.content).length + rest.length := by
      rw [← List.length_append, ← split]
    have greatest := Edit.isGreatest_fitting batch s.editor.content
    generalize Edit.fitting batch s.editor.content = edits at *
    refine ⟨edits.length, result, greatest, taken ▸ reached, ?_⟩
    rw [dropped, ← taken, ← editor, ← course.phase, ← course.now, ← applied, ← errors]
    show t = _ ∧ _
    have same : t = (u.wrote edits result).leaveOut batch.length edits.length rest := received
    rw [same]
    cases rest with
    | nil =>
      have whole : ¬ edits.length < batch.length := by
        rw [List.length_nil] at count
        omega
      rw [if_neg whole]
      exact ⟨rfl, rfl, rfl, rfl, rfl, rfl, rfl, rfl⟩
    | cons e rest =>
      have cut : edits.length < batch.length := by
        rw [List.length_cons] at count
        omega
      rw [if_pos cut]
      exact ⟨rfl, rfl, rfl, rfl, rfl, rfl, rfl, rfl⟩
  · intro other xs ys next split made
    subst split
    obtain ⟨w, rest, done, once, twice⟩ := receive_append peer other live made ys
    have agrees := leaveOut_agrees ys.length done (xs ++ ys).length (xs.length + done) rest w
    rw [← once, ← twice] at agrees
    exact agrees

/-- A batch is cut behind its first edit. It finds a character unsent, which is refused, and the
selection spans the place of the edit. -/
theorem receive_batch_cut :
    let moves : List (Peer × Move) := [(.agreeing, .step (.receive (.document ⟨['a', 'b']⟩))),
      (.agreeing, .step (.act (.typeText ['x']))), (.agreeing, .step (.act (.select ⟨3, 1⟩)))]
    let batch : List Edit := [.insert 2 ['y'], .delete 9 1, .delete 0 1]
    ∃ s₀, start {} (.ofCapacity 1) .fresh 0 = .ok s₀ ∧
      let s := s₀.after moves
      let t := s.receive (.refusing []) (.edits batch)
      let v := (s.receive (.refusing []) (.edits [.insert 2 ['y']])).receive .agreeing
        (.edits [.delete 9 1, .delete 0 1])
      s.phase = .live ∧ s.pending = some (.insert 0 ['x']) ∧
        IsGreatest {n | n ≤ 3 ∧ ∃ made, Edit.applyEach (batch.take n) ['x', 'a', 'b'] = .ok made} 1 ∧
        t.editor.content = ['x', 'a', 'y', 'b'] ∧ t.editor.selection = ⟨4, 2⟩ ∧
        t.tally = { refused := 1, applied := 1, protocolErrors := 1 } ∧
        v.editor = t.editor ∧ v.tally = t.tally := by
  intro moves batch
  have started : start {} (.ofCapacity 1) .fresh 0 = .ok _ := rfl
  refine ⟨_, started, ?_⟩
  intro s t v
  have live : s.phase = .live := rfl
  obtain ⟨-, ⟨k, result, greatest, -, -, -, -, -, -, applied, -⟩, inParts⟩ :=
    receive_batch (.refusing []) batch live
  obtain ⟨sameEditor, -, -, sameTally, -⟩ :=
    inParts .agreeing [.insert 2 ['y']] [.delete 9 1, .delete 0 1] _ rfl rfl
  have once : 1 = 0 + k := applied
  rw [Nat.zero_add] at once
  exact ⟨live, rfl, once ▸ greatest, rfl, rfl, rfl, sameEditor, sameTally⟩

end Session
end TextSync
