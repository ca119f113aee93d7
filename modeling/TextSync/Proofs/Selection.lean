import TextSync.Proofs.Edit.Detection
import TextSync.Proofs.History
import TextSync.Selection

/-!
# Where a selection goes

A selection that an edit carries along moves by the change in length, as whole numbers do, and is
then held within the new text (`remap_of_le`, `remap_of_lt`).

Where the edit ends before the selection, or begins behind its start and not before its end, nothing
is held back, and the selected text stays what it was (`selected_remap`). A batch takes the
selection along edit by edit (`through`). An edit that ends before the caret or begins behind it
changes only what is on that side, so a batch of such edits comes apart into two, one for each side
(`parts_of_aside`).

An edit that begins at the caret and removes something is neither. It counts as one before the
caret, and takes the caret with it (`le_caret_remap_iff`).
-/

namespace TextSync

namespace Edit

variable {e : Edit} {text next : Text} {offset : Nat}

/-! ## The two sides of a place in a text -/

/-- The same edit of what is left of a text from a place on. -/
def seenFrom (offset : Nat) (e : Edit) : Edit := { e with position := e.position - offset }

/-- An edit that ends before a place is an edit of what stands before it. -/
theorem apply_take (applied : e.apply text = .ok next)
    (before : e.position + e.removedLength ≤ offset) (inText : offset ≤ text.length) :
    e.apply (text.take offset)
      = .ok (next.take (offset + e.insertedLength - e.removedLength)) := by
  obtain ⟨fits, rfl⟩ := apply_eq_ok_iff.1 applied
  obtain ⟨more, rfl⟩ := Nat.exists_eq_add_of_le before
  have front := length_front_append fits
  have moved : e.position + e.removedLength + more + e.insertedLength - e.removedLength
      = (text.take e.position ++ e.insertedText).length + more := by omega
  rw [apply_of_le (by rw [List.length_take_of_le inText]; exact before), moved,
    List.take_length_add_append, List.take_take, List.drop_take,
    Nat.min_eq_left (by omega), Nat.add_sub_cancel_left]

/-- An edit that begins at a place or behind it is an edit of what stands from there on. -/
theorem apply_drop (applied : e.apply text = .ok next) (behind : offset ≤ e.position) :
    (e.seenFrom offset).apply (text.drop offset) = .ok (next.drop offset) := by
  obtain ⟨fits, rfl⟩ := apply_eq_ok_iff.1 applied
  have front : offset ≤ (text.take e.position).length := by
    rw [length_front fits]
    exact behind
  have reach : offset + (e.position - offset + e.removedLength)
      = e.position + e.removedLength := by omega
  have fitsRest : (e.seenFrom offset).position + (e.seenFrom offset).removedLength
      ≤ (text.drop offset).length := by
    rw [List.length_drop]
    show e.position - offset + e.removedLength ≤ _
    omega
  rw [apply_of_le fitsRest, List.append_assoc, List.append_assoc, List.drop_append_of_le_length front,
    List.drop_take]
  show Except.ok ((text.drop offset).take (e.position - offset) ++ (e.insertedText
    ++ (text.drop offset).drop (e.position - offset + e.removedLength))) = _
  rw [List.drop_drop, reach]

end Edit

namespace Selection

variable {s : Selection} {e : Edit} {text next : Text}

/-! ## One edit -/

/-- The text between the two ends of a selection. -/
def selected (s : Selection) (text : Text) : Text := (text.take s.stop).drop s.start

/-- By how much a selection is to move with an edit, as a whole number. -/
def movedBy (e : Edit) (s : Selection) : Int :=
  if e.position ≤ s.start then e.insertedLength - e.removedLength else 0

/-- What is cut off at the largest offset would be cut off at the end of the text in any case. -/
theorem min_shift {offset length : Nat} {delta : Int} (fits : length ≤ maxOffset) :
    min (shift offset delta) length = min (offset + delta).toNat length := by
  unfold shift addWithin
  split <;> omega

/-- An edit behind the start leaves the selection where it is, within the text. -/
theorem remap_of_lt (behind : s.start < e.position) (length : Nat) :
    s.remap e length = s.within length := if_pos behind

/-- Any other edit moves both ends by the change in length, held within the text. -/
theorem remap_of_le (applied : e.apply text = .ok next) (small : text.length < 0x8000000000000000)
    (nextSmall : next.length < 0x8000000000000000) (upTo : e.position ≤ s.start) :
    s.remap e next.length = within ⟨s.start + e.insertedLength - e.removedLength,
      s.stop + e.insertedLength - e.removedLength⟩ next.length := by
  have length := Edit.length_of_apply applied
  have delta := Edit.lengthDelta_of_apply applied small nextSmall
  have fits : next.length ≤ maxOffset := by
    unfold maxOffset
    omega
  have moved (offset : Nat) :
      ((offset : Int) + (next.length - text.length)).toNat
        = offset + e.insertedLength - e.removedLength := by omega
  unfold remap
  rw [if_neg (Nat.not_lt.2 upTo), delta]
  simp only [within, min_shift fits, moved]

theorem within_of_le {length : Nat} (start : s.start ≤ length) (stop : s.stop ≤ length) :
    s.within length = s := by
  unfold within
  rw [Nat.min_eq_left start, Nat.min_eq_left stop]

/-- An edit that ends before the selection moves it as a whole. -/
theorem remap_of_before (applied : e.apply text = .ok next)
    (small : text.length < 0x8000000000000000) (nextSmall : next.length < 0x8000000000000000)
    (start : s.start ≤ text.length) (stop : s.stop ≤ text.length)
    (before : e.position + e.removedLength ≤ s.start) :
    s.remap e next.length = ⟨s.start + e.insertedLength - e.removedLength,
      s.stop + e.insertedLength - e.removedLength⟩ := by
  have length := Edit.length_of_apply applied
  rw [remap_of_le applied small nextSmall (by omega)]
  apply within_of_le
  · show s.start + e.insertedLength - e.removedLength ≤ _
    omega
  · show s.stop + e.insertedLength - e.removedLength ≤ _
    omega

/-- An edit that begins behind the start of a selection and not before its end leaves it alone. -/
theorem remap_of_behind (applied : e.apply text = .ok next) (behind : s.start < e.position)
    (stop : s.stop ≤ e.position) : s.remap e next.length = s := by
  rw [remap_of_lt behind]
  exact within_of_le (Edit.le_length_of_apply applied (Nat.le_of_lt behind))
    (Edit.le_length_of_apply applied stop)

/-- **The selected text stays what it was** where the edit ends before the selection, or begins
behind its start and not before its end, and the selection moves by the change in length. -/
theorem selected_remap (applied : e.apply text = .ok next)
    (small : text.length < 0x8000000000000000) (nextSmall : next.length < 0x8000000000000000)
    (order : s.start ≤ s.stop) (stop : s.stop ≤ text.length)
    (aside : e.position + e.removedLength ≤ s.start ∨ s.start < e.position ∧ s.stop ≤ e.position) :
    (s.remap e next.length).selected next = s.selected text ∧
      ((s.remap e next.length).start : Int) = s.start + s.movedBy e ∧
      ((s.remap e next.length).stop : Int) = s.stop + s.movedBy e := by
  obtain before | ⟨behind, after⟩ := aside
  · have moves : s.movedBy e = e.insertedLength - e.removedLength := if_pos (by omega)
    rw [remap_of_before applied small nextSmall (by omega) stop before, moves]
    refine ⟨?_, ?_, ?_⟩
    · unfold selected
      show (next.take (s.stop + e.insertedLength - e.removedLength)).drop
        (s.start + e.insertedLength - e.removedLength) = _
      rw [List.drop_take, List.drop_take, Edit.drop_of_apply applied before]
      congr 1
      omega
    · show ((s.start + e.insertedLength - e.removedLength : Nat) : Int) = _
      omega
    · show ((s.stop + e.insertedLength - e.removedLength : Nat) : Int) = _
      omega
  · have stays : s.movedBy e = 0 := if_neg (by omega)
    rw [remap_of_behind applied behind after, stays]
    refine ⟨?_, by omega, by omega⟩
    unfold selected
    rw [Edit.take_of_apply applied after]

/-! ## A batch -/

/-- Where a selection goes when the edits of a batch are made one after the other. What does not fit
ends it. -/
def through : List Edit → Text → Selection → Selection
  | [], _, s => s
  | e :: rest, text, s =>
    match e.apply text with
    | .ok next => through rest next (s.remap e next.length)
    | .error _ => s

variable {batch earlier later : List Edit} {result : Text} {caret : Nat}

theorem through_of_ok (rest : List Edit) (applied : e.apply text = .ok next) (s : Selection) :
    through (e :: rest) text s = through rest next (s.remap e next.length) := by
  simp only [through, applied]

/-- A batch in two parts takes the selection through the text between them. -/
theorem through_append (fits : Edit.applyEach earlier text = .ok next) (later : List Edit)
    (s : Selection) :
    through (earlier ++ later) text s = through later next (through earlier text s) := by
  induction earlier generalizing text s with
  | nil =>
    cases fits
    rfl
  | cons e rest ih =>
    obtain ⟨middle, applied, reached⟩ := Edit.applyEach_cons_eq_ok fits
    rw [List.cons_append, through_of_ok _ applied, through_of_ok _ applied, ih reached]

/-- A caret stays a caret. -/
theorem remap_caret (caret : Nat) (e : Edit) (length : Nat) :
    (Selection.caret caret).remap e length
      = .caret ((Selection.caret caret).remap e length).start := by
  unfold remap
  split <;> rfl

theorem through_caret (batch : List Edit) (text : Text) (caret : Nat) :
    through batch text (.caret caret) = .caret (through batch text (.caret caret)).start := by
  induction batch generalizing text caret with
  | nil => rfl
  | cons e rest ih =>
    cases applied : e.apply text with
    | error fault => simp only [through, applied, Selection.caret]
    | ok next =>
      rw [through_of_ok rest applied, remap_caret]
      exact ih next _

/-- Where the caret is when the edits have been made one after the other. -/
def caretAfter (edits : List Edit) (text : Text) (caret : Nat) : Nat :=
  (through edits text (.caret caret)).start

theorem caretAfter_of_ok (rest : List Edit) (applied : e.apply text = .ok next) (caret : Nat) :
    caretAfter (e :: rest) text caret
      = caretAfter rest next ((Selection.caret caret).remap e next.length).start := by
  unfold caretAfter
  rw [through_of_ok rest applied, ← remap_caret]

theorem caretAfter_le (reached : Edit.applyEach batch text = .ok result)
    (inText : caret ≤ text.length) : caretAfter batch text caret ≤ result.length := by
  induction batch generalizing text caret with
  | nil =>
    cases reached
    exact inText
  | cons e rest ih =>
    obtain ⟨next, applied, reached⟩ := Edit.applyEach_cons_eq_ok reached
    rw [caretAfter_of_ok rest applied]
    exact ih reached (remap_start_le _ e next.length)

/-- The edit changes the text on one side of the caret only. The other side is still there, and the
caret between the two. -/
def OneSided (e : Edit) (text : Text) (caret : Nat) (next : Text) (moved : Nat) : Prop :=
  next.drop moved = text.drop caret ∧ e.apply (text.take caret) = .ok (next.take moved) ∨
    next.take moved = text.take caret ∧
      (e.seenFrom caret).apply (text.drop caret) = .ok (next.drop moved)

/-- An edit that ends before the caret or begins behind it. -/
theorem oneSided_of_apply (applied : e.apply text = .ok next)
    (small : text.length < 0x8000000000000000) (nextSmall : next.length < 0x8000000000000000)
    (inText : caret ≤ text.length)
    (aside : e.position + e.removedLength ≤ caret ∨ caret < e.position) :
    OneSided e text caret next ((Selection.caret caret).remap e next.length).start := by
  obtain before | behind := aside
  · left
    rw [remap_of_before applied small nextSmall inText inText before]
    exact ⟨Edit.drop_of_apply applied before, Edit.apply_take applied before inText⟩
  · right
    rw [remap_of_behind applied behind (Nat.le_of_lt behind)]
    exact ⟨Edit.take_of_apply applied (Nat.le_of_lt behind),
      Edit.apply_drop applied (Nat.le_of_lt behind)⟩

section Batch

/-! An edit of a batch is made to the text, and to the caret, that the edits before it have led to. -/

variable (small : ∀ earlier later middle, batch = earlier ++ later →
    Edit.applyEach earlier text = .ok middle → middle.length < 0x8000000000000000)
  (aside : ∀ earlier e later, batch = earlier ++ e :: later →
    e.position + e.removedLength ≤ caretAfter earlier text caret ∨
      caretAfter earlier text caret < e.position)
include small aside

/-- Each edit of such a batch changes the text on one side of the caret only. -/
theorem oneSided_of_aside (inText : caret ≤ text.length) {before after : Text}
    (split : batch = earlier ++ e :: later) (reached : Edit.applyEach earlier text = .ok before)
    (applied : e.apply before = .ok after) :
    OneSided e before (caretAfter earlier text caret) after
      (caretAfter (earlier ++ [e]) text caret) := by
  have onward : Edit.applyEach (earlier ++ [e]) text = .ok after := by
    rw [Edit.applyEach_append, reached]
    exact Edit.applyEach_of_ok [] applied
  have moved : caretAfter (earlier ++ [e]) text caret
      = ((Selection.caret (caretAfter earlier text caret)).remap e after.length).start := by
    show (through (earlier ++ [e]) text (.caret caret)).start = _
    rw [through_append reached, through_of_ok [] applied, through_caret]
    rfl
  rw [moved]
  apply oneSided_of_apply applied
  · exact small earlier (e :: later) before split reached
  · exact small (earlier ++ [e]) later after (by simp [split]) onward
  · exact caretAfter_le reached inText
  · exact aside earlier e later split

/-- Such a batch comes apart into edits of what stands before the caret and edits of what stands
behind it. Each side is what its own edits make of it. -/
theorem parts_of_aside (inText : caret ≤ text.length)
    (reached : Edit.applyEach batch text = .ok result) :
    ∃ left right, left.length + right.length = batch.length ∧
      Edit.applyEach left (text.take caret)
        = .ok (result.take (caretAfter batch text caret)) ∧
      Edit.applyEach right (text.drop caret)
        = .ok (result.drop (caretAfter batch text caret)) := by
  induction batch generalizing text caret with
  | nil =>
    cases reached
    exact ⟨[], [], rfl, rfl, rfl⟩
  | cons e rest ih =>
    obtain ⟨next, applied, reached⟩ := Edit.applyEach_cons_eq_ok reached
    rw [caretAfter_of_ok rest applied]
    have one : OneSided e text caret next ((Selection.caret caret).remap e next.length).start :=
      oneSided_of_apply applied (small [] (e :: rest) text rfl rfl)
        (small [e] rest next rfl (Edit.applyEach_of_ok [] applied)) inText (aside [] e rest rfl)
    obtain ⟨left, right, count, first, second⟩ := ih
      (fun earlier later middle split led => small (e :: earlier) later middle
        (congrArg (e :: ·) split) ((Edit.applyEach_of_ok earlier applied).trans led))
      (fun earlier f later split => by
        rw [← caretAfter_of_ok earlier applied]
        exact aside (e :: earlier) f later (congrArg (e :: ·) split))
      (remap_start_le _ e next.length) reached
    obtain ⟨kept, changed⟩ | ⟨kept, changed⟩ := one
    · refine ⟨e :: left, right, by simp only [List.length_cons]; omega, ?_, kept ▸ second⟩
      rw [Edit.applyEach_of_ok left changed, first]
    · refine ⟨left, e.seenFrom caret :: right, by simp only [List.length_cons]; omega,
        kept ▸ first, ?_⟩
      rw [Edit.applyEach_of_ok right changed, second]

end Batch

/-- **A selection aside from the edits keeps its text.** An edit that ends before the selection
leaves all that stands behind the start and behind the end where the moved selection has them. One
that begins behind the start leaves the start and what stands before it, and the end too if it does
not begin before that. In both cases the selected text is the same, and the selection has moved by
just the change in length or not at all: nothing is cut off.

A batch in which every edit, at its turn, ends before the caret or begins behind it changes the text
on one side of the caret with each edit, and leaves the other side. All in all, each side is what
its own edits make of it. -/
theorem remap_keeps_text :
    (∀ (s : Selection) (e : Edit) (text next : Text), s.start ≤ s.stop → s.stop ≤ text.length →
      e.apply text = .ok next → text.length < 0x8000000000000000 →
      next.length < 0x8000000000000000 →
        let t := s.remap e next.length
        (e.position + e.removedLength ≤ s.start →
          next.drop t.start = text.drop s.start ∧ next.drop t.stop = text.drop s.stop) ∧
        (s.start < e.position → t.start = s.start ∧ next.take t.start = text.take s.start ∧
          (s.stop ≤ e.position → t.stop = s.stop)) ∧
        (e.position + e.removedLength ≤ s.start ∨ s.start < e.position ∧ s.stop ≤ e.position →
          t.selected next = s.selected text ∧
            (t.start : Int) = s.start + s.movedBy e ∧ (t.stop : Int) = s.stop + s.movedBy e)) ∧
    ∀ (batch : List Edit) (text : Text) (caret : Nat), caret ≤ text.length →
      (∀ earlier later middle, batch = earlier ++ later →
        Edit.applyEach earlier text = .ok middle → middle.length < 0x8000000000000000) →
      (∀ earlier e later, batch = earlier ++ e :: later →
        e.position + e.removedLength ≤ caretAfter earlier text caret ∨
          caretAfter earlier text caret < e.position) →
        (∀ earlier e later before after, batch = earlier ++ e :: later →
          Edit.applyEach earlier text = .ok before → e.apply before = .ok after →
            OneSided e before (caretAfter earlier text caret) after
              (caretAfter (earlier ++ [e]) text caret)) ∧
        ∀ result, Edit.applyEach batch text = .ok result →
          ∃ left right, left.length + right.length = batch.length ∧
            Edit.applyEach left (text.take caret)
              = .ok (result.take (caretAfter batch text caret)) ∧
            Edit.applyEach right (text.drop caret)
              = .ok (result.drop (caretAfter batch text caret)) := by
  refine ⟨fun s e text next order stop applied small nextSmall => ⟨fun before => ?_,
    fun behind => ?_, selected_remap applied small nextSmall order stop⟩, ?_⟩
  · rw [remap_of_before applied small nextSmall (Nat.le_trans order stop) stop before]
    exact ⟨Edit.drop_of_apply applied before,
      Edit.drop_of_apply applied (Nat.le_trans before order)⟩
  · have start : min s.start next.length = s.start :=
      Nat.min_eq_left (Edit.le_length_of_apply applied (Nat.le_of_lt behind))
    rw [remap_of_lt behind]
    show min s.start next.length = s.start ∧ next.take (min s.start next.length) = _ ∧
      (_ → min s.stop next.length = s.stop)
    rw [start]
    exact ⟨rfl, Edit.take_of_apply applied (Nat.le_of_lt behind),
      fun upTo => Nat.min_eq_left (Edit.le_length_of_apply applied upTo)⟩
  · intro batch text caret inText small aside
    exact ⟨fun _ _ _ _ _ split reached applied =>
      oneSided_of_aside small aside inText split reached applied,
      fun _ reached => parts_of_aside small aside inText reached⟩

/-- One edit ends just where the selection starts, one begins just where it stops. In the batch one
edit stands at the caret, one behind it, and one reaches from the beginning up to the caret. -/
theorem remap_keeps_text_borders :
    let text : Text := ['a', 'b', 'c', 'd', 'e', 'f']
    let batch : List Edit := [.insert 2 ['x'], .delete 4 1, .delete 0 3]
    (Edit.replace 0 2 ['x', 'y', 'z']).apply text = .ok ['x', 'y', 'z', 'c', 'd', 'e', 'f'] ∧
      (Selection.mk 2 4).remap (.replace 0 2 ['x', 'y', 'z']) 7 = ⟨3, 5⟩ ∧
      (Selection.mk 3 5).selected ['x', 'y', 'z', 'c', 'd', 'e', 'f']
        = (Selection.mk 2 4).selected text ∧
      (Edit.insert 4 ['x']).apply text = .ok ['a', 'b', 'c', 'd', 'x', 'e', 'f'] ∧
      (Selection.mk 2 4).remap (.insert 4 ['x']) 7 = ⟨2, 4⟩ ∧
      (Selection.mk 2 4).selected ['a', 'b', 'c', 'd', 'x', 'e', 'f']
        = (Selection.mk 2 4).selected text ∧
      Edit.applyEach batch text = .ok ['c', 'e', 'f'] ∧ caretAfter batch text 2 = 0 ∧
      OneSided (.delete 4 1) ['a', 'b', 'x', 'c', 'd', 'e', 'f'] 3 ['a', 'b', 'x', 'c', 'e', 'f'] 3 ∧
      ∃ left right, left.length + right.length = 3 ∧ Edit.applyEach left ['a', 'b'] = .ok [] ∧
        Edit.applyEach right ['c', 'd', 'e', 'f'] = .ok ['c', 'e', 'f'] := by
  intro text batch
  have small : ∀ earlier later middle, batch = earlier ++ later →
      Edit.applyEach earlier text = .ok middle → middle.length < 0x8000000000000000 := by
    rintro (_ | ⟨_, _ | ⟨_, _ | ⟨_, _ | ⟨_, _⟩⟩⟩⟩) later middle split led <;>
      change [Edit.insert 2 ['x'], .delete 4 1, .delete 0 3] = _ at split <;> cases split <;>
      cases led <;> decide
  have aside : ∀ earlier e later, batch = earlier ++ e :: later →
      e.position + e.removedLength ≤ caretAfter earlier text 2 ∨
        caretAfter earlier text 2 < e.position := by
    rintro (_ | ⟨_, _ | ⟨_, _ | ⟨_, _ | ⟨_, _⟩⟩⟩⟩) e later split <;>
      change [Edit.insert 2 ['x'], .delete 4 1, .delete 0 3] = _ at split <;> cases split <;> decide
  obtain ⟨one, many⟩ := remap_keeps_text
  obtain ⟨-, -, kept⟩ := one ⟨2, 4⟩ (.replace 0 2 ['x', 'y', 'z']) text _ (by decide) (by decide) rfl
    (by decide) (by decide)
  obtain ⟨-, -, keptToo⟩ := one ⟨2, 4⟩ (.insert 4 ['x']) text _ (by decide) (by decide) rfl
    (by decide) (by decide)
  obtain ⟨turns, parts⟩ := many batch text 2 (by decide) small aside
  exact ⟨rfl, rfl, (kept (.inl (by decide))).1, rfl, rfl, (keptToo (.inr (by decide))).1, rfl, rfl,
    turns [.insert 2 ['x']] (.delete 4 1) [.delete 0 3] _ _ rfl rfl rfl, parts _ rfl⟩

/-! ## An edit at the caret -/

/-- **An edit at the caret or behind it leaves what stands before the caret, and takes the caret to
the left exactly if it begins there and removes more than it inserts.** The caret then moves by the
change in length, as with an edit before it, and not beyond the beginning. Behind the caret an edit
does not move it at all. -/
theorem le_caret_remap_iff {caret : Nat} (applied : e.apply text = .ok next)
    (small : text.length < 0x8000000000000000) (nextSmall : next.length < 0x8000000000000000)
    (inText : caret ≤ text.length) (upTo : caret ≤ e.position) :
    let moved := ((Selection.caret caret).remap e next.length).start
    next.take caret = text.take caret ∧
      (caret < e.position → moved = caret) ∧
      (e.position = caret →
        (moved : Int) = max 0 ((caret : Int) + e.insertedLength - e.removedLength)) ∧
      (caret ≤ moved ↔
        ¬ (e.position = caret ∧ e.insertedLength < e.removedLength ∧ 0 < caret)) ∧
      (text.take caret <+: next.take moved ↔ caret ≤ moved) := by
  intro moved
  have length := Edit.length_of_apply applied
  have same := Edit.take_of_apply applied upTo
  obtain ⟨fits, -⟩ := Edit.apply_eq_ok_iff.1 applied
  have behind : caret < e.position → moved = caret := fun behind =>
    congrArg start (remap_of_behind (s := .caret caret) applied behind upTo)
  have here : e.position = caret → moved = caret + e.insertedLength - e.removedLength := by
    intro here
    have carried : moved = min (caret + e.insertedLength - e.removedLength) next.length :=
      congrArg start (remap_of_le (s := .caret caret) applied small nextSmall (Nat.le_of_eq here))
    omega
  refine ⟨same, behind, fun place => ?_, ?_, fun stays => ?_, fun stays => ?_⟩
  · rw [here place]
    omega
  · obtain place | after := Nat.eq_or_lt_of_le upTo
    · rw [here place.symm]
      omega
    · rw [behind after]
      omega
  · have longer := stays.length_le
    rw [List.length_take_of_le inText, List.length_take] at longer
    exact Nat.le_trans longer (Nat.min_le_left _ _)
  · rw [← same]
    exact List.take_prefix_take_left stays

/-- At the caret, one character is replaced by as many and the caret stays, or two by one and the
caret goes one to the left, so that a character that no one has touched comes to its right. -/
theorem le_caret_remap_iff_replaced :
    let text := ['a', 'b', 'c', 'd']
    let even := Edit.replace 2 1 ['x']
    let shrinking := Edit.replace 2 2 ['x']
    even.apply text = .ok ['a', 'b', 'x', 'd'] ∧ shrinking.apply text = .ok ['a', 'b', 'x'] ∧
      ((Selection.caret 2).remap even 4).start = 2 ∧
      ((Selection.caret 2).remap shrinking 3).start = 1 ∧
      text.take 2 <+: ['a', 'b', 'x', 'd'].take 2 ∧ ¬ text.take 2 <+: ['a', 'b', 'x'].take 1 := by
  intro text even shrinking
  have applied : even.apply text = .ok ['a', 'b', 'x', 'd'] := rfl
  have appliedToo : shrinking.apply text = .ok ['a', 'b', 'x'] := rfl
  obtain ⟨-, -, moved, -, whole⟩ :=
    le_caret_remap_iff applied (by decide) (by decide) (by decide) (Nat.le_refl 2)
  obtain ⟨-, -, movedToo, pulled, wholeToo⟩ :=
    le_caret_remap_iff appliedToo (by decide) (by decide) (by decide) (Nat.le_refl 2)
  have two : ((Selection.caret 2).remap even 4).start = 2 := Int.ofNat.inj (moved rfl)
  have one : ((Selection.caret 2).remap shrinking 3).start = 1 := Int.ofNat.inj (movedToo rfl)
  have left : ¬ 2 ≤ ((Selection.caret 2).remap shrinking 3).start := fun stays =>
    pulled.1 stays ⟨rfl, by decide, by decide⟩
  have kept : text.take 2 <+: ['a', 'b', 'x', 'd'].take ((Selection.caret 2).remap even 4).start :=
    whole.2 (Nat.le_of_eq two.symm)
  have lost : ¬ text.take 2 <+: ['a', 'b', 'x'].take
      ((Selection.caret 2).remap shrinking 3).start := fun kept => left (wholeToo.1 kept)
  rw [two] at kept
  rw [one] at lost
  exact ⟨applied, appliedToo, two, one, kept, lost⟩

/-- A caret in the middle of a text, where others remove two characters that stand behind it: it goes
to the very beginning, past the two characters that stood before it. -/
theorem caret_pulled_left :
    (Edit.delete 2 2).apply ['a', 'b', 'c', 'd', 'e', 'f'] = .ok ['a', 'b', 'e', 'f'] ∧
      2 ≤ (Edit.delete 2 2).position ∧
      ((Selection.caret 2).remap (.delete 2 2) 4).start = 0 ∧
      ¬ 2 ≤ ((Selection.caret 2).remap (.delete 2 2) 4).start :=
  ⟨rfl, by decide, rfl, by decide⟩

end Selection
end TextSync
