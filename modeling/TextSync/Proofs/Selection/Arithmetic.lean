import TextSync.Proofs.Selection

/-!
# The arithmetic of a moved selection

An edit moves a selection by a difference of two lengths read as signed words, and the move stops at
zero and at the largest offset before the ends are held within the new text. None of this shows. An
edit that fits removes no more than the old text has and inserts no more than the new text has, so
both lengths are what they are read as, and what is cut off at the largest offset would be cut off
at the end of the text in any case (`min_shift`). Each end goes where whole numbers take it
(`carried`), also one that lies far beyond the text, or a start that lies behind the stop.

Both ends are carried by one map, which puts no offset before a smaller one (`carried_mono`). So the
ends keep their order.
-/

namespace TextSync.Selection

variable {s : Selection} {e : Edit} {text next : Text}

/-- Where an edit carries an offset of a selection that begins at `start`: moved by the change in
length if the edit begins no later, and held within a text of the given length. -/
def carried (e : Edit) (start length offset : Nat) : Int :=
  if e.position ≤ start then
    max 0 (min (length : Int) ((offset : Int) + e.insertedLength - e.removedLength))
  else min (offset : Int) length

/-- No offset is carried before a smaller one. -/
theorem carried_mono (e : Edit) (start length : Nat) {offset further : Nat}
    (order : offset ≤ further) :
    carried e start length offset ≤ carried e start length further := by
  unfold carried
  split <;> omega

section Fits

variable (applied : e.apply text = .ok next) (small : text.length < 0x8000000000000000)
  (nextSmall : next.length < 0x8000000000000000)
include applied small nextSmall

/-- The lengths of an edit that fits are what they are read as. -/
theorem signed_lengths :
    signed e.insertedLength = e.insertedLength ∧ signed e.removedLength = e.removedLength := by
  have length := Edit.length_of_apply applied
  obtain ⟨fits, -⟩ := Edit.apply_eq_ok_iff.1 applied
  constructor
  · apply signed_of_lt
    omega
  · apply signed_of_lt
    omega

/-- Both ends go where whole numbers take them. -/
theorem remap_eq_carried :
    ((s.remap e next.length).start : Int) = carried e s.start next.length s.start ∧
      ((s.remap e next.length).stop : Int) = carried e s.start next.length s.stop := by
  unfold carried
  rcases Nat.lt_or_ge s.start e.position with behind | upTo
  · rw [remap_of_lt behind, if_neg (Nat.not_le.2 behind), if_neg (Nat.not_le.2 behind)]
    simp only [within]
    constructor
    · omega
    · omega
  · rw [remap_of_le applied small nextSmall upTo, if_pos upTo, if_pos upTo]
    simp only [within]
    constructor
    · omega
    · omega

/-- The ends keep their order, whichever comes first. -/
theorem remap_order (s : Selection) :
    (s.start ≤ s.stop → (s.remap e next.length).start ≤ (s.remap e next.length).stop) ∧
      (s.stop ≤ s.start → (s.remap e next.length).stop ≤ (s.remap e next.length).start) := by
  obtain ⟨start, stop⟩ := remap_eq_carried (s := s) applied small nextSmall
  constructor
  · intro order
    have kept := carried_mono e s.start next.length order
    omega
  · intro order
    have kept := carried_mono e s.start next.length order
    omega

/-- **A selection moves as whole numbers do, and keeps the order of its ends.** If an edit begins no
later than the selection, each end moves by the change in length and is held within the new text;
else it is held within the new text only. So both ends lie within the new text, neither passes the
other, and a caret stays a caret. Reading the lengths as signed words changes nothing, their
difference is a signed word again, and where a move is stopped at the largest offset the end comes
to lie where it would have without. -/
theorem remap_eq_clamp (s : Selection) :
    let moved := s.remap e next.length
    (e.position ≤ s.start →
        (moved.start : Int)
          = max 0 (min (next.length : Int) (s.start + e.insertedLength - e.removedLength)) ∧
        (moved.stop : Int)
          = max 0 (min (next.length : Int) (s.stop + e.insertedLength - e.removedLength))) ∧
      (s.start < e.position →
        moved.start = min s.start next.length ∧ moved.stop = min s.stop next.length) ∧
      moved.start ≤ next.length ∧ moved.stop ≤ next.length ∧
      (s.start ≤ s.stop → moved.start ≤ moved.stop) ∧
      (s.stop ≤ s.start → moved.stop ≤ moved.start) ∧
      (s.isCaret = true → moved.isCaret = true) ∧
      signed e.insertedLength = e.insertedLength ∧ signed e.removedLength = e.removedLength ∧
      -0x8000000000000000 ≤ e.lengthDelta ∧ e.lengthDelta < 0x8000000000000000 ∧
      ∀ offset, min (shift offset e.lengthDelta) next.length
        = min (offset + e.lengthDelta).toNat next.length := by
  intro moved
  obtain ⟨inserted, removed⟩ := signed_lengths applied small nextSmall
  obtain ⟨start, stop⟩ := remap_eq_carried (s := s) applied small nextSmall
  have length := Edit.length_of_apply applied
  have delta : e.lengthDelta = next.length - text.length :=
    Edit.lengthDelta_of_apply applied small nextSmall
  obtain ⟨forth, back⟩ := remap_order applied small nextSmall s
  refine ⟨?_, ?_, remap_start_le s e next.length, remap_stop_le s e next.length, forth, back, ?_,
    inserted, removed, ?_, ?_, ?_⟩
  · intro upTo
    unfold carried at start stop
    rw [if_pos upTo] at start stop
    exact ⟨start, stop⟩
  · intro behind
    have stays : moved = s.within next.length := remap_of_lt behind next.length
    rw [stays]
    exact ⟨rfl, rfl⟩
  · intro caret
    unfold isCaret at *
    rw [beq_iff_eq] at *
    exact Nat.le_antisymm (forth (Nat.le_of_eq caret)) (back (Nat.le_of_eq caret.symm))
  · omega
  · omega
  · intro offset
    apply min_shift
    unfold maxOffset
    omega

end Fits

/-- A selection made backwards, with its start at the largest offset. The move stops there, and the
start comes to lie at the end of the text. -/
theorem remap_eq_clamp_backwards :
    let e : Edit := .replace 1 1 ['x', 'y', 'z']
    let s : Selection := ⟨maxOffset, 2⟩
    e.apply ['a', 'b', 'c'] = .ok ['a', 'x', 'y', 'z', 'c'] ∧ s.remap e 5 = ⟨5, 4⟩ ∧
      ((s.remap e 5).start : Int) = max 0 (min 5 ((maxOffset : Int) + 3 - 1)) ∧
      ((s.remap e 5).stop : Int) = max 0 (min 5 (2 + 3 - 1)) ∧
      (s.remap e 5).stop ≤ (s.remap e 5).start ∧
      shift maxOffset e.lengthDelta = maxOffset ∧
      min (shift maxOffset e.lengthDelta) 5 = min (maxOffset + e.lengthDelta).toNat 5 := by
  intro e s
  have applied : e.apply ['a', 'b', 'c'] = .ok ['a', 'x', 'y', 'z', 'c'] := rfl
  obtain ⟨clamped, -, -, -, -, order, -, -, -, -, -, stopped⟩ :=
    remap_eq_clamp applied (by decide) (by decide) s
  obtain ⟨start, stop⟩ := clamped (by decide)
  exact ⟨applied, by decide, start, stop, order (by decide), by decide, stopped maxOffset⟩

end TextSync.Selection
