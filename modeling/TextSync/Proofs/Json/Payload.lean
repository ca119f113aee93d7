import TextSync.Proofs.Json.Reading

/-!
# Values from their readings

A reading turns into a value again as long as there is room for its nesting. Objects are sorted on
the way, so the value is the same if its names are in order already (`toJson?_reading`). A `Payload`
is a value that travels unharmed: whole numbers, names in order, nested no deeper than the body of a
message may be.
-/

namespace TextSync.Json

/-! ## The order of names -/

theorem precedes_irrefl (name : Text) : precedes name name = false := by
  induction name with
  | nil => rfl
  | cons c rest ih => simp [precedes, ih]

theorem precedes_asymm {a b : Text} (before : precedes a b = true) : precedes b a = false := by
  fun_induction precedes a b with
  | case1 => cases before
  | case2 => rfl
  | case3 => cases before
  | case4 a as b bs ih =>
    simp only [Bool.or_eq_true, decide_eq_true_eq, Bool.and_eq_true, beq_iff_eq] at before
    obtain less | ⟨rfl, less⟩ := before
    · have notLess : ¬ b < a := Char.lt_asymm less
      have differ : b ≠ a := (Char.ne_of_lt less).symm
      simp [precedes, notLess, differ]
    · simp [precedes, ih less]

/-- Names in order, each once. -/
def Ascending (names : List Text) : Prop := names.Pairwise fun a b => precedes a b = true

instance (names : List Text) : Decidable (Ascending names) :=
  inferInstanceAs (Decidable (List.Pairwise _ _))

/-- A name behind all others goes to the end. -/
theorem insert_of_last {name : Text} {value : Json} {members : List (Text × Json)}
    (last : ∀ m ∈ members, precedes m.1 name = true) :
    insert name value members = members ++ [(name, value)] := by
  induction members with
  | nil => rfl
  | cons m rest ih =>
    have before := last m List.mem_cons_self
    have differ : name ≠ m.1 := by
      intro same
      rw [same, precedes_irrefl] at before
      cases before
    rw [insert, if_neg differ, precedes_asymm before,
      ih fun later member => last later (List.mem_cons_of_mem _ member)]
    rfl

/-- Members in order stay as they are when they are sorted. -/
theorem sorted_of_ascending {members : List (Text × Json)}
    (ascending : Ascending (members.map (·.1))) : sorted members = members := by
  suffices all : ∀ done : List (Text × Json), Ascending ((done ++ members).map (·.1)) →
      members.foldl (fun done m => insert m.1 m.2 done) done = done ++ members from
    all [] ascending
  clear ascending
  intro done ascending
  induction members generalizing done with
  | nil => simp
  | cons m rest ih =>
    have split : done ++ m :: rest = (done ++ [m]) ++ rest := by simp
    have last : ∀ earlier ∈ done, precedes earlier.1 m.1 = true := by
      intro earlier member
      rw [Ascending, List.map_append, List.pairwise_append] at ascending
      exact ascending.2.2 _ (List.mem_map_of_mem member) _ (by simp)
    have first : insert m.1 m.2 done = done ++ [m] := insert_of_last last
    rw [split] at ascending ⊢
    rw [← ih (done ++ [m]) ascending, ← first]
    rfl

/-! ## Depth and order of a value -/

mutual

/-- How many lists and objects are open at once in a value. -/
def depth : Json → Nat
  | .arr items => itemsDepth items + 1
  | .obj members => membersDepth members + 1
  | _ => 0

def itemsDepth : List Json → Nat
  | [] => 0
  | item :: rest => max item.depth (itemsDepth rest)

def membersDepth : List (Text × Json) → Nat
  | [] => 0
  | (_, value) :: rest => max value.depth (membersDepth rest)

end

mutual

/-- Whether all objects in a value have their names in order. -/
def isSorted : Json → Bool
  | .arr items => areSorted items
  | .obj members => decide (Ascending (members.map (·.1))) && membersSorted members
  | _ => true

def areSorted : List Json → Bool
  | [] => true
  | item :: rest => item.isSorted && areSorted rest

def membersSorted : List (Text × Json) → Bool
  | [] => true
  | (_, value) :: rest => value.isSorted && membersSorted rest

end

namespace Reading

mutual

/-- **A value turns back from its reading**, if there is room for its nesting. -/
theorem toJson?_reading : ∀ (j : Json) (room : Nat), j.depth ≤ room →
    ∃ k, toJson? room j.reading = some k ∧ (j.isSorted = true → k = j)
  | .null, _, _ => ⟨.null, rfl, fun _ => rfl⟩
  | .bool b, _, _ => ⟨.bool b, rfl, fun _ => rfl⟩
  | .int n, _, _ => ⟨.int n, rfl, fun _ => rfl⟩
  | .float x, _, _ => ⟨.float x, rfl, fun _ => rfl⟩
  | .str s, _, _ => ⟨.str s, rfl, fun _ => rfl⟩
  | .arr items, room, fits => by
    have some : room ≠ 0 := by simp only [depth] at fits; omega
    obtain ⟨values, same, back⟩ := toItems?_readings items (room - 1) (by
      simp only [depth] at fits; omega)
    refine ⟨.arr values, by simp [Json.reading, toJson?, some, same], fun isSorted => ?_⟩
    rw [back isSorted]
  | .obj members, room, fits => by
    have some : room ≠ 0 := by simp only [depth] at fits; omega
    obtain ⟨values, same, back⟩ := toMembers?_memberReadings members (room - 1) (by
      simp only [depth] at fits; omega)
    refine ⟨.obj (sorted values), by simp [Json.reading, toJson?, some, same], fun isSorted => ?_⟩
    obtain ⟨ascending, inner⟩ := Bool.and_eq_true_iff.1 isSorted
    rw [back inner, sorted_of_ascending (of_decide_eq_true ascending)]

theorem toItems?_readings : ∀ (items : List Json) (room : Nat), itemsDepth items ≤ room →
    ∃ values, toItems? room (readings items) = some values ∧
      (areSorted items = true → values = items)
  | [], _, _ => ⟨[], rfl, fun _ => rfl⟩
  | item :: rest, room, fits => by
    simp only [itemsDepth] at fits
    obtain ⟨value, same, back⟩ := toJson?_reading item room (by omega)
    obtain ⟨values, others, rest⟩ := toItems?_readings rest room (by omega)
    refine ⟨value :: values, by simp [readings, toItems?, same, others], fun isSorted => ?_⟩
    obtain ⟨first, more⟩ := Bool.and_eq_true_iff.1 isSorted
    rw [back first, rest more]

theorem toMembers?_memberReadings : ∀ (members : List (Text × Json)) (room : Nat),
    membersDepth members ≤ room → ∃ values, toMembers? room (memberReadings members) = some values ∧
      (membersSorted members = true → values = members)
  | [], _, _ => ⟨[], rfl, fun _ => rfl⟩
  | (name, item) :: rest, room, fits => by
    simp only [membersDepth] at fits
    obtain ⟨value, same, back⟩ := toJson?_reading item room (by omega)
    obtain ⟨values, others, rest⟩ := toMembers?_memberReadings rest room (by omega)
    refine ⟨(name, value) :: values, by simp [memberReadings, toMembers?, same, others],
      fun isSorted => ?_⟩
    obtain ⟨first, more⟩ := Bool.and_eq_true_iff.1 isSorted
    rw [back first, rest more]

end

end Reading

/-! ## Payloads -/

/-- A value with whole numbers that fit a word and with names in order, which leaves room for a message
around it. -/
structure Payload (j : Json) : Prop where
  whole : j.isWhole = true
  isSorted : j.isSorted = true
  shallow : j.depth < nestingLimit

instance (j : Json) : Decidable (Payload j) :=
  decidable_of_iff (j.isWhole = true ∧ j.isSorted = true ∧ j.depth < nestingLimit)
    ⟨fun ⟨whole, isSorted, shallow⟩ => ⟨whole, isSorted, shallow⟩,
      fun payload => ⟨payload.whole, payload.isSorted, payload.shallow⟩⟩

/-- A payload turns back from its reading within a message. -/
theorem Payload.toJson? {j : Json} (payload : Payload j) :
    j.reading.toJson? (nestingLimit - 1) = some j := by
  obtain ⟨k, same, back⟩ := Reading.toJson?_reading j (nestingLimit - 1)
    (Nat.le_sub_one_of_lt payload.shallow)
  rw [same, back payload.isSorted]

end TextSync.Json
