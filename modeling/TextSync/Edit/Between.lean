import TextSync.Edit

/-!
The edit that leads from one text to another. What the two texts share at their beginning and,
of the rest, at their end stays; all between is replaced. For texts that differ in one stretch
this is the smallest edit, taken as far right as it goes.
-/

namespace TextSync

/-- How many characters two texts share from their beginning. -/
def sharedLength : Text → Text → Nat
  | a :: old, b :: new => if a = b then sharedLength old new + 1 else 0
  | _, _ => 0

theorem sharedLength_le_left (old new : Text) : sharedLength old new ≤ old.length := by
  fun_induction sharedLength old new <;> simp_all

theorem sharedLength_le_right (old new : Text) : sharedLength old new ≤ new.length := by
  fun_induction sharedLength old new <;> simp_all

/-- As far as two texts share their beginning they are one. -/
theorem take_sharedLength (old new : Text) :
    old.take (sharedLength old new) = new.take (sharedLength old new) := by
  fun_induction sharedLength old new <;> simp_all

/-- The edit that turns `old` into `new`, none when they are the same text (`detect_change`). The
shared ending is sought only in what the shared beginning leaves over, so the two never overlap. -/
def Edit.between (old new : Text) : Option Edit :=
  if old = new then none
  else
    let front := sharedLength old new
    let oldRest := old.drop front
    let newRest := new.drop front
    let back := sharedLength oldRest.reverse newRest.reverse
    let removed := oldRest.length - back
    let inserted := newRest.take (newRest.length - back)
    some {
      position := front
      removed := if removed = 0 then none else some removed
      inserted := if inserted.isEmpty then none else some inserted }

end TextSync
