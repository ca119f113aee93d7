import TextSync.Proofs.Edit.Detection

/-!
# How an edit is carried out on a stored text

An edit counts characters, a stored text is cut by its bytes, and every count on the way is a word
of 64 bits. `applyStored?` carries an edit out in this way, with all that could go wrong in it: the
end of the removed stretch may be no word, and is then out of bounds. A character may not be there
whose place is asked for, a difference of places may be negative, the room that is set aside may be
more than there can be, a cut may fall inside a character. In those cases the result is none.

None of them occurs with texts of less than 2^62 bytes, whatever the numbers in the edit
(`applyStored?_eq`). What comes out is the splice of characters that `apply` is, or the same
refusal.
-/

namespace TextSync

/-- A sum of two counts, none if no word of 64 bits holds it. -/
def add? (a b : Nat) : Option Nat := if a + b ≤ maxOffset then some (a + b) else none

theorem add?_of_le {a b : Nat} (fits : a + b ≤ maxOffset) : add? a b = some (a + b) := if_pos fits

theorem add?_of_lt {a b : Nat} (beyond : maxOffset < a + b) : add? a b = none :=
  if_neg (Nat.not_le.2 beyond)

/-- Room for so many bytes. More than the largest signed word are not to be had. -/
def setAside? (bytes : Nat) : Option Nat := if bytes < 0x8000000000000000 then some bytes else none

namespace Edit

/-- Carries an edit out on a stored text. -/
def applyStored? (e : Edit) (text : Text) : Option (Except Fault Text) :=
  let refused := some (.error (.outOfBounds e.position e.removedLength text.length))
  match add? e.position e.removedLength with
  | none => refused
  | some stop =>
    if text.length < e.position ∨ text.length < stop then refused
    else do
      let first ← Text.place? text e.position
      let last ← Text.place? text stop
      let removed ← sub? last first
      let kept ← sub? (Text.byteSize text) removed
      let whole ← add? kept (Text.byteSize e.insertedText)
      let _ ← setAside? whole
      let front ← Text.slice? 0 first text
      let back ← Text.slice? last (Text.byteSize text) text
      return .ok (front ++ e.insertedText ++ back)

variable {e : Edit} {text next : Text}

/-- An edit that fits changes the bytes by those that it removes and those that it inserts. -/
theorem byteSize_of_apply (applied : e.apply text = .ok next) :
    Text.byteSize next + Text.byteOffset text (e.position + e.removedLength)
      = Text.byteSize text + Text.byteOffset text e.position + Text.byteSize e.insertedText := by
  obtain ⟨fits, rfl⟩ := apply_eq_ok_iff.1 applied
  have rest := Text.byteOffset_add_byteSize_drop text (e.position + e.removedLength)
  rw [Text.byteSize_append, Text.byteSize_append, ← Text.byteOffset_eq]
  omega

section Small

variable (small : Text.byteSize text < 0x4000000000000000)
  (insertedSmall : Text.byteSize e.insertedText < 0x4000000000000000)
include small insertedSmall

/-- An edit that fits is carried out: no count leaves its word, and no cut falls inside a
character. -/
theorem applyStored?_of_le (fits : e.position + e.removedLength ≤ text.length) :
    applyStored? e text = some (e.apply text) := by
  have applied := apply_of_le fits
  have size := byteSize_of_apply applied
  have short := Text.length_le_byteSize text
  have order : Text.byteOffset text e.position
      ≤ Text.byteOffset text (e.position + e.removedLength) :=
    Text.byteOffset_mono (Nat.le_add_right _ _) text
  have inside := Text.byteOffset_le text (e.position + e.removedLength)
  have stop : add? e.position e.removedLength = some (e.position + e.removedLength) := by
    apply add?_of_le
    unfold maxOffset
    omega
  have within : ¬ (text.length < e.position ∨ text.length < e.position + e.removedLength) := by
    omega
  have firstPlace : Text.place? text e.position = some (Text.byteOffset text e.position) :=
    Text.place?_of_le (by omega)
  have lastPlace : Text.place? text (e.position + e.removedLength)
      = some (Text.byteOffset text (e.position + e.removedLength)) := Text.place?_of_le fits
  unfold applyStored?
  rw [stop]
  simp only [if_neg within, firstPlace, lastPlace, Option.bind_eq_bind, Option.bind_some,
    Text.slice?_upTo, Text.slice?_onward, applied]
  generalize Text.byteOffset text e.position = first at *
  generalize Text.byteOffset text (e.position + e.removedLength) = last at *
  have removed : sub? last first = some (last - first) := sub?_of_le order
  have kept : sub? (Text.byteSize text) (last - first)
      = some (Text.byteSize text - (last - first)) := sub?_of_le (by omega)
  have whole : add? (Text.byteSize text - (last - first)) (Text.byteSize e.insertedText)
      = some (Text.byteSize text - (last - first) + Text.byteSize e.insertedText) := by
    apply add?_of_le
    unfold maxOffset
    omega
  have room : setAside? (Text.byteSize text - (last - first) + Text.byteSize e.insertedText)
      = some (Text.byteSize text - (last - first) + Text.byteSize e.insertedText) := by
    apply if_pos
    omega
  simp only [removed, kept, whole, room, Option.bind_some]
  rfl

/-- **On stored texts an edit does what it does to characters.** -/
theorem applyStored?_eq : applyStored? e text = some (e.apply text) := by
  rcases Nat.lt_or_ge text.length (e.position + e.removedLength) with beyond | fits
  · rw [apply_of_lt beyond]
    unfold applyStored?
    by_cases word : e.position + e.removedLength ≤ maxOffset
    · rw [add?_of_le word]
      simp only [beyond, or_true, if_true]
    · rw [add?_of_lt (Nat.not_le.1 word)]
  · exact applyStored?_of_le small insertedSmall fits

end Small

/-- **An edit is the exact splice of characters.** On stored texts it is carried out without a count
out of its word and without a cut inside a character. It fits exactly if it does not reach past the
end of the text, by whole numbers, and is otherwise refused with its numbers and the length of the
text. If it fits, the result is what stands before its position, what it inserts, and what stands
behind the removed stretch. The length changes by just as much, both places are boundaries, in
order, and the bytes of the result are those that room has been set aside for. -/
theorem applyStored?_eq_splice {e : Edit} {text : Text}
    (small : Text.byteSize text < 0x4000000000000000)
    (insertedSmall : Text.byteSize e.insertedText < 0x4000000000000000) :
    let first := Text.byteOffset text e.position
    let last := Text.byteOffset text (e.position + e.removedLength)
    applyStored? e text = some (e.apply text) ∧
      ((∃ next, e.apply text = .ok next) ↔ e.position + e.removedLength ≤ text.length) ∧
      (text.length < e.position + e.removedLength →
        e.apply text = .error (.outOfBounds e.position e.removedLength text.length)) ∧
      ∀ next, e.apply text = .ok next →
        next = text.take e.position ++ e.insertedText ++ text.drop (e.position + e.removedLength) ∧
        (next.length : Int) = text.length + e.insertedLength - e.removedLength ∧
        Text.IsBoundary text first ∧ Text.IsBoundary text last ∧ first ≤ last ∧
        last ≤ Text.byteSize text ∧
        Text.byteSize next
          = Text.byteSize text - (last - first) + Text.byteSize e.insertedText := by
  intro first last
  refine ⟨applyStored?_eq small insertedSmall, ?_, apply_of_lt, ?_⟩
  · constructor
    · rintro ⟨next, applied⟩
      exact (apply_eq_ok_iff.1 applied).1
    · intro fits
      exact ⟨_, apply_of_le fits⟩
  · intro next applied
    have length := length_of_apply applied
    have size := byteSize_of_apply applied
    have order : first ≤ last := Text.byteOffset_mono (Nat.le_add_right _ _) text
    have inside : last ≤ Text.byteSize text := Text.byteOffset_le text _
    obtain ⟨-, spliced⟩ := apply_eq_ok_iff.1 applied
    refine ⟨spliced, ?_, Text.isBoundary_byteOffset text _, Text.isBoundary_byteOffset text _,
      order, inside, ?_⟩
    · omega
    · omega

/-- Characters of three bytes with one of four put between them, and a stretch whose end is no word
of 64 bits. -/
theorem applyStored?_eq_splice_widths :
    applyStored? (.insert 2 ['🎉']) ['日', '本', '語'] = some (.ok ['日', '本', '🎉', '語']) ∧
      Text.byteOffset ['日', '本', '語'] 2 = 6 ∧ Text.IsBoundary ['日', '本', '語'] 6 ∧
      Text.byteSize ['日', '本', '🎉', '語'] = 13 ∧
      add? 1 maxOffset = none ∧
      applyStored? (.delete 1 maxOffset) ['a', 'b', 'c']
        = some (.error (.outOfBounds 1 maxOffset 3)) := by
  have small : Text.byteSize ['日', '本', '語'] < 0x4000000000000000 := by decide
  have insertedSmall : Text.byteSize (Edit.insert 2 ['🎉']).insertedText < 0x4000000000000000 := by
    decide
  have asciiSmall : Text.byteSize ['a', 'b', 'c'] < 0x4000000000000000 := by decide
  have nothingSmall : Text.byteSize (Edit.delete 1 maxOffset).insertedText < 0x4000000000000000 := by
    decide
  obtain ⟨stored, -, -, spliced⟩ := applyStored?_eq_splice small insertedSmall
  obtain ⟨beyondStored, -, refused, -⟩ := applyStored?_eq_splice asciiSmall nothingSmall
  obtain ⟨-, -, boundary, -, -, -, size⟩ := spliced ['日', '本', '🎉', '語'] rfl
  refine ⟨stored, by decide, boundary, size, by decide, ?_⟩
  rw [beyondStored, refused (by decide)]
  rfl

end Edit
end TextSync
