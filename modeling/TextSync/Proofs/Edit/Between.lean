import TextSync.Edit.Between

/-!
# The edit between two texts does what it says

`between old new` cuts both texts at the same two places: what stands before the first cut and
behind the second is shared, and the edit puts the middle of the new text in place of the middle
of the old one. So it applies to the old text and gives the new one, for all texts, and there is
one exactly when the texts differ.
-/

namespace TextSync

/-- The ends that two texts share, as far as `sharedLength` finds them. -/
theorem drop_sharedLength_reverse (old new : Text) :
    old.drop (old.length - sharedLength old.reverse new.reverse)
      = new.drop (new.length - sharedLength old.reverse new.reverse) := by
  have shared := take_sharedLength old.reverse new.reverse
  rw [List.take_reverse, List.take_reverse] at shared
  exact List.reverse_inj.1 shared

namespace Edit

/-! ## What an edit changes -/

/-- An edit that fits keeps as many characters in front as its position says. -/
theorem length_front {e : Edit} {text : Text} (fits : e.position + e.removedLength ≤ text.length) :
    (text.take e.position).length = e.position := by
  apply List.length_take_of_le
  omega

/-- In front of what is kept behind stand those and what is inserted. -/
theorem length_front_append {e : Edit} {text : Text}
    (fits : e.position + e.removedLength ≤ text.length) :
    (text.take e.position ++ e.insertedText).length = e.position + e.insertedLength := by
  rw [List.length_append, length_front fits, insertedLength]

theorem length_of_apply {e : Edit} {text next : Text} (applied : e.apply text = .ok next) :
    next.length + e.removedLength = text.length + e.insertedLength := by
  obtain ⟨fits, rfl⟩ := apply_eq_ok_iff.1 applied
  rw [List.length_append, length_front_append fits, List.length_drop]
  omega

/-- What stands before its place is still there. -/
theorem le_length_of_apply {e : Edit} {text next : Text} {offset : Nat}
    (applied : e.apply text = .ok next) (upTo : offset ≤ e.position) : offset ≤ next.length := by
  have length := length_of_apply applied
  obtain ⟨fits, -⟩ := apply_eq_ok_iff.1 applied
  omega

/-- Before its place an edit changes nothing. -/
theorem take_of_apply {e : Edit} {text next : Text} {offset : Nat}
    (applied : e.apply text = .ok next) (before : offset ≤ e.position) :
    next.take offset = text.take offset := by
  obtain ⟨fits, rfl⟩ := apply_eq_ok_iff.1 applied
  have front := length_front fits
  rw [List.append_assoc, List.take_append_of_le_length (by omega), List.take_take,
    Nat.min_eq_left before]

/-- Behind the stretch it replaces an edit changes nothing but the offsets. -/
theorem drop_of_apply {e : Edit} {text next : Text} {offset : Nat}
    (applied : e.apply text = .ok next) (behind : e.position + e.removedLength ≤ offset) :
    next.drop (offset + e.insertedLength - e.removedLength) = text.drop offset := by
  obtain ⟨fits, rfl⟩ := apply_eq_ok_iff.1 applied
  obtain ⟨more, rfl⟩ := Nat.exists_eq_add_of_le behind
  have front := length_front_append fits
  have moved : e.position + e.removedLength + more + e.insertedLength - e.removedLength
      = (text.take e.position ++ e.insertedText).length + more := by omega
  rw [moved, List.drop_length_add_append, List.drop_drop]

/-! ## The two cuts -/

/-- An edit at the end of `front` that removes as much as `removed`. -/
theorem apply_append {e : Edit} {front removed : Text} (back : Text)
    (position : e.position = front.length) (length : e.removedLength = removed.length) :
    e.apply (front ++ removed ++ back) = .ok (front ++ e.insertedText ++ back) := by
  have fits : e.position + e.removedLength ≤ (front ++ removed ++ back).length := by
    simp [position, length]
  rw [apply_of_le fits]
  have before : (front ++ removed ++ back).take e.position = front := by
    rw [position, List.append_assoc, List.take_left]
  have behind : (front ++ removed ++ back).drop (e.position + e.removedLength) = back := by
    rw [position, length, ← List.length_append, List.drop_left]
  rw [before, behind]

theorem between_eq_none_iff {old new : Text} : between old new = none ↔ old = new := by
  unfold between
  split <;> simp_all

/-- What is left out of an edit counts as zero characters or as the empty text. -/
theorem between_fields {old new : Text} {e : Edit} (found : between old new = some e) :
    let front := sharedLength old new
    let back := sharedLength (old.drop front).reverse (new.drop front).reverse
    e.position = front ∧ e.removedLength = (old.drop front).length - back ∧
      e.insertedText = (new.drop front).take ((new.drop front).length - back) := by
  unfold between at found
  split at found
  · cases found
  · cases found
    refine ⟨rfl, ?_, ?_⟩
    · unfold removedLength
      dsimp only
      split
      · rename_i nothing
        exact nothing.symm
      · rfl
    · unfold insertedText
      dsimp only
      split
      · rename_i nothing
        exact (List.isEmpty_iff.1 nothing).symm
      · rfl

/-- The two cuts: the texts agree before the first and behind the second. -/
theorem between_splits {old new : Text} {e : Edit} (found : between old new = some e) :
    ∃ front removed back, old = front ++ removed ++ back ∧ new = front ++ e.insertedText ++ back ∧
      e.position = front.length ∧ e.removedLength = removed.length := by
  obtain ⟨position, removed, inserted⟩ := between_fields found
  generalize same : sharedLength old new = first at position removed inserted
  generalize sameEnd : sharedLength (old.drop first).reverse (new.drop first).reverse = last
    at removed inserted
  have fronts : old.take first = new.take first := same ▸ take_sharedLength old new
  have ends : (old.drop first).drop ((old.drop first).length - last)
      = (new.drop first).drop ((new.drop first).length - last) :=
    sameEnd ▸ drop_sharedLength_reverse (old.drop first) (new.drop first)
  refine ⟨old.take first, (old.drop first).take ((old.drop first).length - last),
    (old.drop first).drop ((old.drop first).length - last), ?_, ?_, ?_, ?_⟩
  · rw [List.append_assoc, List.take_append_drop, List.take_append_drop]
  · rw [ends, fronts, inserted, List.append_assoc, List.take_append_drop, List.take_append_drop]
  · rw [position, List.length_take_of_le (same ▸ sharedLength_le_left old new)]
  · rw [removed, List.length_take_of_le (Nat.sub_le _ _)]

/-- **The edit between two texts leads from the one to the other.** -/
theorem apply_between {old new : Text} {e : Edit} (found : between old new = some e) :
    e.apply old = .ok new := by
  obtain ⟨front, removed, back, oldSplit, newSplit, position, length⟩ := between_splits found
  rw [oldSplit, newSplit]
  exact apply_append back position length

/-- The edit between two texts changes something. -/
theorem isEmpty_of_between {old new : Text} {e : Edit} (found : between old new = some e) :
    e.isEmpty = false := by
  rw [Bool.eq_false_iff]
  intro void
  obtain ⟨removed, inserted⟩ : e.removedLength = 0 ∧ e.insertedText = [] := by
    simpa [isEmpty] using void
  obtain ⟨-, same⟩ := apply_eq_ok_iff.1 (apply_between found)
  rw [removed, inserted, Nat.add_zero, List.append_nil, List.take_append_drop] at same
  rw [between_eq_none_iff.2 same.symm] at found
  cases found

end Edit
end TextSync
