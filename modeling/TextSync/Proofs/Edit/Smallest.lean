import TextSync.Proofs.Edit.Detection

/-!
# No edit is smaller than the one between two texts

An edit that leads from one text to another leaves a beginning and an ending of both alone. The one
that `between` finds takes the longest beginning first, and the ending only from what is left over.
Nothing is lost by that: beginning and ending together are as long as with any other edit
(`shared_le`), because an ending that the beginning cuts short is cut short by at most what the
beginning has gained. So no edit removes or inserts less (`between_smallest`), and of those that
remove as little none stands further to the right (`terse_eq_of_smallest`).
-/

namespace TextSync

/-! ## Shared beginnings and endings -/

theorem sharedLength_self (text : Text) : sharedLength text text = text.length := by
  induction text with
  | nil => rfl
  | cons a rest ih => simp [sharedLength, ih]

/-- No beginning that two texts share is longer than the one that is counted. -/
theorem le_sharedLength {n : Nat} {old new : Text} (inOld : n ≤ old.length)
    (same : old.take n = new.take n) : n ≤ sharedLength old new := by
  have counted := sharedLength_take n old new
  rw [← same, sharedLength_self, List.length_take_of_le inOld] at counted
  omega

/-- A beginning and an ending that two texts share, in neither of which they overlap, are together
no longer than those that are counted one after the other. -/
theorem shared_le {old new : Text} {front back : Nat} (inOld : front + back ≤ old.length)
    (inNew : front + back ≤ new.length) (begins : old.take front = new.take front)
    (ends : old.reverse.take back = new.reverse.take back) :
    front + back ≤ sharedLength old new
      + sharedLength (old.drop (sharedLength old new)).reverse
        (new.drop (sharedLength old new)).reverse := by
  have further : front ≤ sharedLength old new := le_sharedLength (by omega) begins
  have withinOld := sharedLength_le_left old new
  have withinNew := sharedLength_le_right old new
  generalize sharedLength old new = first at *
  -- What is left of the ending behind the longer beginning.
  let last := min back (min (old.length - first) (new.length - first))
  have left : old.reverse.take last = new.reverse.take last := by
    have shorter := congrArg (List.take last) ends
    rw [List.take_take, List.take_take, Nat.min_eq_left (Nat.min_le_left _ _)] at shorter
    exact shorter
  have leftOld : old.reverse.take last = (old.drop first).reverse.take last :=
    take_reverse_drop (by omega)
  have leftNew : new.reverse.take last = (new.drop first).reverse.take last :=
    take_reverse_drop (by omega)
  have counted : last ≤ sharedLength (old.drop first).reverse (new.drop first).reverse := by
    apply le_sharedLength
    · rw [List.length_reverse, List.length_drop]
      omega
    · rw [← leftOld, ← leftNew, left]
  omega

namespace Edit

variable {old new : Text} {e u : Edit}

/-! ## Edits that lead from one text to another -/

/-- What an edit leaves alone, at the beginning and at the end. -/
theorem ends_of_apply (applied : u.apply old = .ok new) :
    let back := old.length - (u.position + u.removedLength)
    old.take u.position = new.take u.position ∧ old.reverse.take back = new.reverse.take back := by
  intro back
  obtain ⟨fits, -⟩ := apply_eq_ok_iff.1 applied
  have length := length_of_apply applied
  have inOld : old.length - back = u.position + u.removedLength := by omega
  have inNew : new.length - back
      = u.position + u.removedLength + u.insertedLength - u.removedLength := by omega
  refine ⟨(take_of_apply applied (Nat.le_refl _)).symm, ?_⟩
  rw [List.take_reverse, List.take_reverse, inOld, inNew, drop_of_apply applied (Nat.le_refl _)]

/-- **No edit is smaller than the one between two texts**, and none that leads from the one to the
other begins further to the right. -/
theorem between_smallest (found : between old new = some e) (applied : u.apply old = .ok new) :
    e.removedLength ≤ u.removedLength ∧ e.insertedLength ≤ u.insertedLength ∧
      u.position ≤ e.position := by
  obtain ⟨fits, -⟩ := apply_eq_ok_iff.1 applied
  obtain ⟨begins, ends⟩ := ends_of_apply applied
  obtain ⟨position, removed, -⟩ := between_fields found
  have length := length_of_apply applied
  have lengthFound := length_of_apply (apply_between found)
  have further : u.position ≤ sharedLength old new := le_sharedLength (by omega) begins
  have together := shared_le (by omega) (by omega) begins ends
  rw [List.length_drop] at removed
  omega

/-- The same edit, with a half that does nothing left out. -/
def terse (e : Edit) : Edit where
  position := e.position
  removed := if e.removedLength = 0 then none else some e.removedLength
  inserted := if e.insertedText.isEmpty then none else some e.insertedText

/-- What is found is as terse as can be. -/
theorem terse_of_between (found : between old new = some e) : e.terse = e := by
  obtain ⟨removed, inserted⟩ := between_halves found
  obtain ⟨position, removal, insertion⟩ := e
  cases removal <;> cases insertion <;> simp_all [terse, removedLength, insertedText]

/-- Two edits that remove as much in one place and lead to one text insert the same. -/
theorem terse_eq_of_apply (first : u.apply old = .ok new) (second : e.apply old = .ok new)
    (position : u.position = e.position) (removed : u.removedLength = e.removedLength) :
    u.terse = e.terse := by
  obtain ⟨-, same⟩ := apply_eq_ok_iff.1 first
  obtain ⟨-, sameToo⟩ := apply_eq_ok_iff.1 second
  have inserted : u.insertedText = e.insertedText := by
    rw [same, position, removed] at sameToo
    exact List.append_cancel_left (List.append_cancel_right sameToo)
  unfold terse
  rw [position, removed, inserted]

/-- **Only the edit between two texts is as small and as far to the right.** -/
theorem terse_eq_of_smallest (found : between old new = some e) (applied : u.apply old = .ok new)
    (small : u.removedLength ≤ e.removedLength ∨ u.insertedLength ≤ e.insertedLength)
    (right : e.position ≤ u.position) : u.terse = e := by
  obtain ⟨removed, inserted, position⟩ := between_smallest found applied
  have length := length_of_apply applied
  have lengthFound := length_of_apply (apply_between found)
  rw [← terse_of_between found]
  exact terse_eq_of_apply applied (apply_between found) (by omega) (by omega)

end Edit
end TextSync
