import TextSync.Proofs.Edit.Between
import TextSync.Proofs.Text.Bytes

/-!
# How the edit between two texts is found

The edit between two texts can be found in one pass from the front and one from the end. The pass
from the end counts on numbers that must not fall below zero, and what is inserted is cut out of the
stored text by its bytes. `detect?` is this computation with all that could go wrong in it: it is
none where a difference would be negative or a place is no boundary.

Neither happens. The pass from the end is held to what the pass from the front has left over, so it
counts what the two remainders share at their ends (`agreeing_reverse`), and both places are those
of characters. What is found is `between` (`detect?_eq_between`), for all texts.
-/

namespace TextSync

/-- A difference of two counts, none if it would be negative. -/
def sub? (a b : Nat) : Option Nat := if b ≤ a then some (a - b) else none

theorem sub?_of_le {a b : Nat} (fits : b ≤ a) : sub? a b = some (a - b) := if_pos fits

/-- In how many places, from the first on, the two characters agree. -/
def agreeing (places : List (Char × Char)) : Nat := (places.takeWhile fun p => p.1 == p.2).length

/-- Finds the edit that turns `old` into `new`, counting characters and cutting bytes. -/
def Edit.detect? (old new : Text) : Option (Option Edit) :=
  if old = new then some none
  else do
    let front := agreeing (old.zip new)
    let room ← sub? (min old.length new.length) front
    let back := agreeing ((old.reverse.zip new.reverse).take room)
    let removed ← sub? old.length (front + back)
    let last ← sub? new.length back
    let inserted ← Text.slice? (Text.byteOffset new front) (Text.byteOffset new last) new
    return some {
      position := front
      removed := if 0 < removed then some removed else none
      inserted := if inserted.isEmpty then none else some inserted }

/-! ## Two passes -/

theorem agreeing_zip (old new : Text) : agreeing (old.zip new) = sharedLength old new := by
  unfold agreeing
  fun_induction sharedLength old new with
  | case1 a old new ih => simp [ih]
  | case2 a old b new differ => simp [differ]
  | case3 old new none =>
    cases old with
    | nil => simp
    | cons a old =>
      cases new with
      | nil => simp
      | cons b new => exact absurd rfl (none a old b new rfl)

/-- Beginnings of two texts share what the texts share, up to their length. -/
theorem sharedLength_take (n : Nat) (old new : Text) :
    sharedLength (old.take n) (new.take n) = min n (sharedLength old new) := by
  induction n generalizing old new with
  | zero => simp [sharedLength]
  | succ n ih =>
    cases old with
    | nil => simp [sharedLength]
    | cons a old =>
      cases new with
      | nil => simp [sharedLength]
      | cons b new =>
        by_cases same : a = b
        · simp only [List.take_succ_cons, sharedLength, same, if_true, ih]
          omega
        · simp [sharedLength, same]

/-- From the end, the first characters are those of what a beginning leaves over. -/
theorem take_reverse_drop {front room : Nat} {text : Text} (fits : front + room ≤ text.length) :
    text.reverse.take room = (text.drop front).reverse.take room := by
  rw [List.take_reverse, List.take_reverse, List.drop_drop, List.length_drop]
  congr 2
  omega

/-- The pass from the end counts what two texts share at their ends, of what is left over. -/
theorem agreeing_reverse {front : Nat} {old new : Text} (inOld : front ≤ old.length)
    (inNew : front ≤ new.length) :
    agreeing ((old.reverse.zip new.reverse).take (min old.length new.length - front))
      = sharedLength (old.drop front).reverse (new.drop front).reverse := by
  have short := sharedLength_le_left (old.drop front).reverse (new.drop front).reverse
  have shortNew := sharedLength_le_right (old.drop front).reverse (new.drop front).reverse
  rw [List.length_reverse, List.length_drop] at short shortNew
  let room := min old.length new.length - front
  have endsOld : old.reverse.take room = (old.drop front).reverse.take room :=
    take_reverse_drop (by omega)
  have endsNew : new.reverse.take room = (new.drop front).reverse.take room :=
    take_reverse_drop (by omega)
  have pairs : (old.reverse.zip new.reverse).take room
      = (old.reverse.take room).zip (new.reverse.take room) := List.take_zipWith
  rw [pairs, endsOld, endsNew, agreeing_zip, sharedLength_take]
  exact Nat.min_eq_right (by omega)

namespace Edit

/-- **The edit is always found.** No count falls below zero, and what is inserted can be cut out. -/
theorem detect?_eq (old new : Text) : detect? old new = some (between old new) := by
  have inOld := sharedLength_le_left old new
  have inNew := sharedLength_le_right old new
  have ends := agreeing_reverse inOld inNew
  have backOld := sharedLength_le_left (old.drop (sharedLength old new)).reverse
    (new.drop (sharedLength old new)).reverse
  have backNew := sharedLength_le_right (old.drop (sharedLength old new)).reverse
    (new.drop (sharedLength old new)).reverse
  unfold detect? between
  simp only [agreeing_zip]
  generalize sharedLength old new = front at *
  generalize sharedLength (old.drop front).reverse (new.drop front).reverse = back at *
  rw [List.length_reverse, List.length_drop] at backOld backNew
  split
  · rfl
  · have room : sub? (min old.length new.length) front
        = some (min old.length new.length - front) := sub?_of_le (by omega)
    have removed : sub? old.length (front + back) = some (old.length - front - back) := by
      rw [sub?_of_le (by omega), Nat.sub_sub]
    have last : sub? new.length back = some (new.length - back) := sub?_of_le (by omega)
    have inserted :
        Text.slice? (Text.byteOffset new front) (Text.byteOffset new (new.length - back)) new
          = some ((new.drop front).take (new.length - front - back)) := by
      rw [Text.slice?_byteOffset (by omega)]
      congr 2
      omega
    have present (n : Nat) : (if 0 < n then some n else none) = if n = 0 then none else some n := by
      cases n <;> rfl
    simp only [room, ends, removed, last, inserted, present, Option.bind_eq_bind, Option.bind_some,
      List.length_drop]
    rfl

/-- What is left out of the edit between two texts is not written as nothing. -/
theorem between_halves {old new : Text} {e : Edit} (found : between old new = some e) :
    e.removed ≠ some 0 ∧ e.inserted ≠ some [] := by
  unfold between at found
  split at found
  · cases found
  · cases found
    constructor
    · dsimp only
      split
      · simp
      · rename_i some
        exact fun zero => some (Option.some.inj zero)
    · dsimp only
      split
      · simp
      · rename_i some
        exact fun empty => some (List.isEmpty_iff.2 (Option.some.inj empty))

/-- An edit that leads from one text to another makes up for the difference in length, for texts
whose lengths are signed words. -/
theorem lengthDelta_of_apply {e : Edit} {old new : Text} (applied : e.apply old = .ok new)
    (oldSmall : old.length < 0x8000000000000000) (newSmall : new.length < 0x8000000000000000) :
    e.lengthDelta = new.length - old.length := by
  obtain ⟨fits, -⟩ := apply_eq_ok_iff.1 applied
  have length := length_of_apply applied
  unfold lengthDelta
  rw [signed_of_lt (by omega), signed_of_lt (by omega)]
  omega

/-- **The edit between two texts is found, and is a good one.** For all texts it is found without
a count below zero and without a cut inside a character. There is none exactly when the texts are
the same. Otherwise it leads from the old text to the new one, it is worth sending, it stays
within the old text, neither of its halves is there for nothing, and it makes up for the
difference in length. -/
theorem detect?_eq_between (old new : Text) :
    detect? old new = some (between old new) ∧
      (between old new = none ↔ old = new) ∧
      ∀ e, between old new = some e →
        e.apply old = .ok new ∧ e.check = .ok () ∧ e.position + e.removedLength ≤ old.length ∧
          e.removed ≠ some 0 ∧ e.inserted ≠ some [] ∧
          (old.length < 0x8000000000000000 → new.length < 0x8000000000000000 →
            e.lengthDelta = new.length - old.length) := by
  refine ⟨detect?_eq old new, between_eq_none_iff, ?_⟩
  intro e found
  have applied := apply_between found
  obtain ⟨removed, inserted⟩ := between_halves found
  have worth : e.check = .ok () := by simp [check, isEmpty_of_between found]
  exact ⟨applied, worth, (apply_eq_ok_iff.1 applied).1, removed, inserted,
    lengthDelta_of_apply applied⟩

/-- Two characters that begin with the same byte, and one text that ends the other in two ways. -/
theorem detect?_eq_between_shared :
    detect? ['a', 'é'] ['a', 'è'] = some (some (.replace 1 1 ['è'])) ∧
      (Edit.replace 1 1 ['è']).apply ['a', 'é'] = .ok ['a', 'è'] ∧
      detect? ['é', 'é'] ['é', 'é', 'é'] = some (some (.insert 2 ['é'])) ∧
      (Edit.insert 2 ['é']).lengthDelta = 1 ∧
      detect? ['日', '本', '語'] ['日', '語'] = some (some (.delete 1 1)) ∧
      detect? ['é'] ['é'] = some none := by
  have replaces : between ['a', 'é'] ['a', 'è'] = some (.replace 1 1 ['è']) := by decide
  have inserts : between ['é', 'é'] ['é', 'é', 'é'] = some (.insert 2 ['é']) := by decide
  have deletes : between ['日', '本', '語'] ['日', '語'] = some (.delete 1 1) := by decide
  obtain ⟨first, -, replaced⟩ := detect?_eq_between ['a', 'é'] ['a', 'è']
  obtain ⟨second, -, inserted⟩ := detect?_eq_between ['é', 'é'] ['é', 'é', 'é']
  obtain ⟨third, -, -⟩ := detect?_eq_between ['日', '本', '語'] ['日', '語']
  obtain ⟨fourth, none, -⟩ := detect?_eq_between ['é'] ['é']
  obtain ⟨-, -, -, -, -, longer⟩ := inserted _ inserts
  exact ⟨first.trans (congrArg some replaces), (replaced _ replaces).1,
    second.trans (congrArg some inserts), longer (by decide) (by decide),
    third.trans (congrArg some deletes), fourth.trans (congrArg some (none.2 rfl))⟩

end Edit
end TextSync
