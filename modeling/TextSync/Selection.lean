import TextSync.Edit

/-!
The user's selection, from `start` to `stop`; `start` may lie behind `stop` when the user selects
backwards. A selection with both ends in one place is a caret.

A remote edit carries the selection along. Only `start` decides: an edit behind it leaves both
ends where they are, any other moves both by the change in length. Either way the ends are then
held within the new text.
-/

namespace TextSync

/-- A `Selection`, its `end` as `stop`. -/
structure Selection where
  start : Nat
  stop : Nat
deriving DecidableEq, Repr

namespace Selection

/-- Both ends in one place (`Selection::caret`). -/
def caret (offset : Nat) : Selection := ⟨offset, offset⟩

/-- Whether both ends are in one place (`is_caret`). -/
def isCaret (s : Selection) : Bool := s.start == s.stop

/-- Both ends held within a text of the given length. -/
def within (s : Selection) (length : Nat) : Selection := ⟨min s.start length, min s.stop length⟩

/-- The lower end, whichever it is. -/
def low (s : Selection) : Nat := min s.start s.stop

/-- The upper end, whichever it is. -/
def high (s : Selection) : Nat := max s.start s.stop

theorem low_le_high (s : Selection) : s.low ≤ s.high := by
  unfold low high
  omega

/-- An offset moved by `delta`, neither below zero nor above the largest offset: `shift_clamped`
before it clamps to the new length. -/
def shift (offset : Nat) (delta : Int) : Nat :=
  if delta < 0 then offset - delta.natAbs else addWithin offset delta.natAbs

/-- Where the selection is after an edit that leaves a text of the given length
(`Selection::remap`). -/
def remap (s : Selection) (e : Edit) (newLength : Nat) : Selection :=
  if s.start < e.position then s.within newLength
  else within ⟨shift s.start e.lengthDelta, shift s.stop e.lengthDelta⟩ newLength

/-- A selection that was carried along lies within the new text. -/
theorem remap_start_le (s : Selection) (e : Edit) (newLength : Nat) :
    (s.remap e newLength).start ≤ newLength := by
  unfold remap
  split <;> exact Nat.min_le_right _ _

theorem remap_stop_le (s : Selection) (e : Edit) (newLength : Nat) :
    (s.remap e newLength).stop ≤ newLength := by
  unfold remap
  split <;> exact Nat.min_le_right _ _

end Selection
end TextSync
