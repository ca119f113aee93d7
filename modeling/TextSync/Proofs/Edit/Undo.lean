import TextSync.Proofs.Edit.Smallest

/-!
# Taking an edit back

An edit of a text is taken back by the edit that stands in the same place, removes what was inserted
and inserts what was removed (`apply_undo`). It removes as much as the other inserts and the other
way round, so the smallest edit there, taken back, is the smallest edit back. `between` finds just
that one (`between_of_undo`): to find the way from one text to another is to find the way back.
-/

namespace TextSync.Edit

variable {old new text next : Text} {e : Edit}

/-- What takes an edit of a text back. A half that has nothing to do is left out. -/
def undo (text : Text) (e : Edit) : Edit where
  position := e.position
  removed := if e.insertedLength = 0 then none else some e.insertedLength
  inserted :=
    if e.removedLength = 0 then none else some ((text.drop e.position).take e.removedLength)

theorem undo_position (text : Text) (e : Edit) : (e.undo text).position = e.position := rfl

/-- As much is removed as was inserted. -/
theorem undo_removedLength (text : Text) (e : Edit) :
    (e.undo text).removedLength = e.insertedLength := by
  unfold undo removedLength
  dsimp only
  split
  · rename_i nothing
    exact nothing.symm
  · rfl

/-- What was removed is inserted. -/
theorem undo_insertedText (text : Text) (e : Edit) :
    (e.undo text).insertedText = (text.drop e.position).take e.removedLength := by
  unfold undo insertedText
  dsimp only
  split
  · rename_i nothing
    rw [nothing]
    rfl
  · rfl

/-- An edit that fits removes as many characters as it says. -/
theorem length_removed (fits : e.position + e.removedLength ≤ text.length) :
    ((text.drop e.position).take e.removedLength).length = e.removedLength := by
  apply List.length_take_of_le
  rw [List.length_drop]
  omega

theorem undo_insertedLength (fits : e.position + e.removedLength ≤ text.length) :
    (e.undo text).insertedLength = e.removedLength := by
  unfold insertedLength
  rw [undo_insertedText, length_removed fits]

/-- It has no half that does nothing. -/
theorem terse_undo (fits : e.position + e.removedLength ≤ text.length) :
    (e.undo text).terse = e.undo text := by
  have empty : ((text.drop e.position).take e.removedLength).isEmpty = true
      ↔ e.removedLength = 0 := by
    rw [List.isEmpty_iff, ← List.length_eq_zero_iff, length_removed fits]
  unfold terse
  simp only [undo_removedLength, undo_insertedText, empty]
  rfl

/-- **An edit that has been made can be taken back.** -/
theorem apply_undo (applied : e.apply text = .ok next) : (e.undo text).apply next = .ok text := by
  obtain ⟨fits, rfl⟩ := apply_eq_ok_iff.1 applied
  have front := length_front fits
  have back : text.take e.position ++ (e.undo text).insertedText
      ++ text.drop (e.position + e.removedLength) = text := by
    rw [undo_insertedText, ← List.drop_drop, List.append_assoc, List.take_append_drop,
      List.take_append_drop]
  have position : (e.undo text).position = (text.take e.position).length := front.symm
  rw [apply_append _ position (undo_removedLength text e), back]

/-- The edit between two texts, taken back, is the edit the other way. -/
theorem between_of_undo (found : between old new = some e) : between new old = some (e.undo old) := by
  have applied := apply_between found
  obtain ⟨fits, -⟩ := apply_eq_ok_iff.1 applied
  have length := undo_insertedLength fits
  cases foundBack : between new old with
  | none =>
    rw [between_eq_none_iff.1 foundBack, between_eq_none_iff.2 rfl] at found
    cases found
  | some back =>
    -- The edit there is no larger than the edit back, taken back, nor further to the left.
    obtain ⟨removed, -, position⟩ := between_smallest found (apply_undo (apply_between foundBack))
    rw [undo_removedLength] at removed
    rw [undo_position] at position
    have smallest : (e.undo old).terse = back := by
      apply terse_eq_of_smallest foundBack (apply_undo applied)
      · right
        rw [length]
        exact removed
      · exact position
    rw [← smallest, terse_undo fits]

/-- **The edit from one text to another gives away the edit back.** Both stand in the same place.
The one back removes as many characters as the one there inserts, and inserts just those that it
removes. One after the other they change nothing. -/
theorem between_undo (differ : old ≠ new) :
    ∃ e, between old new = some e ∧ between new old = some (e.undo old) ∧
      (e.undo old).position = e.position ∧
      (e.undo old).removed = (if e.insertedLength = 0 then none else some e.insertedLength) ∧
      (e.undo old).inserted = (if e.removedLength = 0 then none
        else some ((old.drop e.position).take e.removedLength)) ∧
      ((old.drop e.position).take e.removedLength).length = e.removedLength ∧
      e.apply old = .ok new ∧ (e.undo old).apply new = .ok old := by
  cases found : between old new with
  | none => exact absurd (between_eq_none_iff.1 found) differ
  | some e =>
    have applied := apply_between found
    obtain ⟨fits, -⟩ := apply_eq_ok_iff.1 applied
    exact ⟨e, rfl, between_of_undo found, rfl, rfl, rfl, length_removed fits, applied,
      apply_undo applied⟩

/-- One more of three equal characters: where the ending that both texts share would reach into the
beginning, it is cut short both ways. -/
theorem between_undo_repeated :
    between ['a', 'a'] ['a', 'a', 'a'] = some (.insert 2 ['a']) ∧
      between ['a', 'a', 'a'] ['a', 'a'] = some (.delete 2 1) ∧
      (Edit.delete 2 1).apply ['a', 'a', 'a'] = .ok ['a', 'a'] := by
  have differ : (['a', 'a'] : Text) ≠ ['a', 'a', 'a'] := by decide
  obtain ⟨e, found, back, -, -, -, -, -, restored⟩ := between_undo differ
  have inserts : between ['a', 'a'] ['a', 'a', 'a'] = some (.insert 2 ['a']) := by decide
  obtain rfl : e = .insert 2 ['a'] := Option.some.inj (found.symm.trans inserts)
  exact ⟨found, back, restored⟩

end TextSync.Edit
