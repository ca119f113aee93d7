import Mathlib.Data.String.Basic
import TextSync.Text

/-!
# Texts as they are stored

A text is stored as the bytes of its characters in UTF-8, one to four for each. A place in a stored
text is the number of bytes before it, and it is a boundary if a character begins or the text ends
there. A text can be cut only at boundaries (`slice?`).

Whoever counts characters finds the place of one with `byteOffset`, which is a boundary, and of two
characters in order the places are in order. So a text can be cut at any two of them, and what is
cut out is what stands between the two characters (`slice?_byteOffset`). In the same way other text
can take the place of what stands between them (`replaceBytes?_byteOffset`).
-/

namespace TextSync.Text

/-- How many bytes a text takes. -/
def byteSize (s : Text) : Nat := (String.ofList s).utf8ByteSize

/-- The characters of a text, each with its place. The first stands at the given one. -/
def charIndices (place : Nat) : Text → List (Nat × Char)
  | [] => []
  | c :: rest => (place, c) :: charIndices (place + c.utf8Size) rest

/-- The place of the character that so many others come before, the end if there is none. -/
def byteOffset (s : Text) (chars : Nat) : Nat :=
  match (charIndices 0 s)[chars]? with
  | some (place, _) => place
  | none => byteSize s

/-- What is stored between two places, none if they are not in order or one is no boundary. -/
def slice? (first last : Nat) (s : Text) : Option Text :=
  let stored := String.ofList s
  if first ≤ last ∧ String.Pos.Raw.isValid stored ⟨first⟩ ∧ String.Pos.Raw.isValid stored ⟨last⟩
  then
    some (String.Pos.Raw.extract stored ⟨first⟩ ⟨last⟩).toList
  else none

/-- A character begins at the place, or the text ends there. -/
def IsBoundary (s : Text) (place : Nat) : Prop :=
  String.Pos.Raw.isValid (String.ofList s) ⟨place⟩ = true

/-- The place of a character for one who promises that so many others come before it, none if the
promise is broken. -/
def place? (s : Text) (chars : Nat) : Option Nat :=
  if chars ≤ s.length then some (byteOffset s chars) else none

/-- What is stored when other text takes the place of all between two places, none if that cannot be
cut out. -/
def replaceBytes? (first last : Nat) (new s : Text) : Option Text := do
  let _ ← slice? first last s
  let front ← slice? 0 first s
  let back ← slice? last (byteSize s) s
  return front ++ new ++ back

variable {s t : Text}

theorem byteSize_eq (s : Text) : byteSize s = String.utf8Len s := String.utf8ByteSize_ofList s

@[simp] theorem byteSize_nil : byteSize [] = 0 := rfl

@[simp] theorem byteSize_append (s t : Text) : byteSize (s ++ t) = byteSize s + byteSize t := by
  simp [byteSize_eq, String.utf8Len_append]

theorem byteSize_cons (c : Char) (s : Text) : byteSize (c :: s) = c.utf8Size + byteSize s := by
  simp [byteSize_eq, String.utf8Len_cons, Nat.add_comm]

/-- Before a character stand the bytes of those before it. -/
theorem getElem?_charIndices (place n : Nat) (s : Text) :
    (charIndices place s)[n]? = s[n]?.map fun c => (place + byteSize (s.take n), c) := by
  induction s generalizing place n with
  | nil => simp [charIndices]
  | cons c rest ih =>
    cases n with
    | zero => simp [charIndices]
    | succ n => simp [charIndices, ih, byteSize_cons, Nat.add_assoc]

theorem byteOffset_eq (s : Text) (n : Nat) : byteOffset s n = byteSize (s.take n) := by
  unfold byteOffset
  rw [getElem?_charIndices]
  cases found : s[n]? with
  | some c => simp
  | none => simp [List.take_of_length_le (List.getElem?_eq_none_iff.1 found)]

/-- The end of a beginning of a text is a boundary. -/
theorem isValid_byteSize (s t : Text) :
    String.Pos.Raw.isValid (String.ofList (s ++ t)) ⟨byteSize s⟩ = true := by
  rw [String.Pos.Raw.isValid_eq_true_iff, String.Pos.Raw.isValid_ofList]
  exact ⟨s.length, by simp [byteSize]⟩

theorem slice?_append (front middle back : Text) :
    slice? (byteSize front) (byteSize front + byteSize middle) (front ++ middle ++ back)
      = some middle := by
  have first := isValid_byteSize front (middle ++ back)
  have last := isValid_byteSize (front ++ middle) back
  rw [← List.append_assoc] at first
  rw [byteSize_append] at last
  have cut : String.Pos.Raw.extract (String.ofList (front ++ middle ++ back)) ⟨byteSize front⟩
      ⟨byteSize front + byteSize middle⟩ = String.ofList middle := by
    simp only [byteSize_eq]
    exact String.extract_of_valid front middle back
  unfold slice?
  simp only [first, last, cut, Nat.le_add_right, and_self, if_true, String.toList_ofList]

/-- **A text can be cut at any two of its characters.** -/
theorem slice?_byteOffset {first last : Nat} (order : first ≤ last) (s : Text) :
    slice? (byteOffset s first) (byteOffset s last) s
      = some ((s.drop first).take (last - first)) := by
  have split : s = s.take first ++ (s.drop first).take (last - first) ++ s.drop last := by
    have rest : (s.drop first).drop (last - first) = s.drop last := by
      rw [List.drop_drop]
      congr 1
      omega
    rw [← rest, List.append_assoc, List.take_append_drop, List.take_append_drop]
  have place : byteSize (s.take last)
      = byteSize (s.take first) + byteSize ((s.drop first).take (last - first)) := by
    have whole : s.take last = s.take first ++ (s.drop first).take (last - first) := by
      have parts := List.take_add (l := s) (i := first) (j := last - first)
      rwa [Nat.add_sub_cancel' order] at parts
    rw [whole, byteSize_append]
  have cut := slice?_append (s.take first) ((s.drop first).take (last - first)) (s.drop last)
  rw [← split] at cut
  rw [byteOffset_eq, byteOffset_eq, place]
  exact cut

/-- Two characters of two bytes each can be told apart, but not cut in the middle. -/
example : slice? 0 2 ['é', 'è'] = some ['é'] ∧ slice? 0 1 ['é', 'è'] = none := by decide

/-! ## Places of characters -/

/-- No character takes less than a byte. -/
theorem length_le_byteSize (s : Text) : s.length ≤ byteSize s := by
  induction s with
  | nil => simp
  | cons c rest ih =>
    have takes := c.utf8Size_pos
    rw [List.length_cons, byteSize_cons]
    omega

/-- A text takes the bytes before a character and those from it on. -/
theorem byteOffset_add_byteSize_drop (s : Text) (n : Nat) :
    byteOffset s n + byteSize (s.drop n) = byteSize s := by
  rw [byteOffset_eq, ← byteSize_append, List.take_append_drop]

theorem byteOffset_le (s : Text) (n : Nat) : byteOffset s n ≤ byteSize s := by
  have parts := byteOffset_add_byteSize_drop s n
  omega

theorem place?_of_le {n : Nat} (fits : n ≤ s.length) : place? s n = some (byteOffset s n) :=
  if_pos fits

/-- Characters in order have places in order. -/
theorem byteOffset_mono {first last : Nat} (order : first ≤ last) (s : Text) :
    byteOffset s first ≤ byteOffset s last := by
  have front : (s.take last).take first = s.take first := by
    rw [List.take_take, Nat.min_eq_left order]
  rw [byteOffset_eq, byteOffset_eq, ← front, ← byteOffset_eq]
  exact byteOffset_le _ _

theorem isBoundary_byteOffset (s : Text) (n : Nat) : IsBoundary s (byteOffset s n) := by
  have boundary := isValid_byteSize (s.take n) (s.drop n)
  rw [List.take_append_drop, ← byteOffset_eq] at boundary
  exact boundary

@[simp] theorem byteOffset_zero (s : Text) : byteOffset s 0 = 0 := by
  simp [byteOffset_eq]

theorem slice?_upTo (s : Text) (n : Nat) : slice? 0 (byteOffset s n) s = some (s.take n) := by
  have cut := slice?_byteOffset (Nat.zero_le n) s
  simpa using cut

theorem slice?_onward (s : Text) (n : Nat) :
    slice? (byteOffset s n) (byteSize s) s = some (s.drop n) := by
  have cut := slice?_append (s.take n) (s.drop n) []
  rw [List.append_nil, List.take_append_drop, ← byteOffset_eq, byteOffset_add_byteSize_drop] at cut
  exact cut

/-- **Text put in place of what stands between two characters** goes where it belongs. -/
theorem replaceBytes?_byteOffset {first last : Nat} (order : first ≤ last) (new s : Text) :
    replaceBytes? (byteOffset s first) (byteOffset s last) new s
      = some (s.take first ++ new ++ s.drop last) := by
  unfold replaceBytes?
  rw [slice?_byteOffset order, slice?_upTo, slice?_onward]
  rfl

end TextSync.Text
