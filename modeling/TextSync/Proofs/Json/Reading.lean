import TextSync.Proofs.Json.Grammar

/-!
# Printed values read back

What is printed is one of the written forms of the value, without a blank (`writes_print`). The
induction goes over the value. So whoever reads written values reads what is printed.
-/

namespace TextSync.Json

/-! ## Values without floating point numbers -/

mutual

/-- Whether all numbers in a value are whole and fit a word. -/
def isWhole : Json → Bool
  | .int n => decide (FitsWord n)
  | .float _ => false
  | .arr items => areWhole items
  | .obj members => membersWhole members
  | _ => true

def areWhole : List Json → Bool
  | [] => true
  | item :: rest => item.isWhole && areWhole rest

def membersWhole : List (Text × Json) → Bool
  | [] => true
  | (_, value) :: rest => value.isWhole && membersWhole rest

end

/-! ## Printed values -/

theorem blanks_nil : Blanks [] := nofun

/-- No blanks are blanks as well. -/
theorem Writes.padded {s : Text} {r : Reading} (writes : Writes s r) : Padded s r := by
  have padded := Padded.intro blanks_nil writes blanks_nil
  rwa [List.nil_append, List.append_nil] at padded

/-- What is escaped is one way to write a text. -/
theorem writes_write (text : Text) : Writes (Quoted.write text) (.str text) := by
  obtain ⟨pieces, writes, spells⟩ := Quoted.writes_escaped text
  have written := Writes.quoted writes
  rwa [spells] at written

theorem writes_printWhole {n : Int} (fits : FitsWord n) : Writes (printInt n) (.int n) := by
  have written := Writes.number (Numeral.writes_printInt n)
  rwa [Numeral.value_printInt fits] at written

/-- A printed member has no blank around any of its parts. -/
theorem writesMember_print (name : Text) {s : Text} {r : Reading} (writes : Writes s r) :
    WritesMember (Quoted.write name ++ ':' :: s) (.text name, r) := by
  obtain ⟨pieces, isName, spells⟩ := Quoted.writes_escaped name
  have written := WritesMember.intro blanks_nil isName blanks_nil writes.padded
  rw [spells] at written
  simpa [Quoted.write] using written

theorem printItems_cons_cons (item next : Json) (items : List Json) :
    printItems (item :: next :: items) = item.print ++ ',' :: printItems (next :: items) := by
  simp [printItems]

theorem printMembers_cons_cons (name : Text) (item : Json) (next : Text × Json)
    (members : List (Text × Json)) :
    printMembers ((name, item) :: next :: members)
      = Quoted.write name ++ ':' :: item.print ++ ',' :: printMembers (next :: members) := by
  simp [printMembers]

mutual

/-- What is printed is one way to write a value. -/
theorem writes_print : ∀ j : Json, j.isWhole = true → Writes j.print j.reading
  | .null, _ => .null
  | .bool true, _ => .yes
  | .bool false, _ => .no
  | .int _, whole => writes_printWhole (of_decide_eq_true whole)
  | .float _, whole => nomatch whole
  | .str s, _ => writes_write s
  | .arr [], _ => .noItems blanks_nil
  | .arr (item :: items), whole => .list (writesItems_print (item :: items) nofun whole)
  | .obj [], _ => .noMembers blanks_nil
  | .obj (member :: members), whole => .object (writesMembers_print (member :: members) nofun whole)

theorem writesItems_print : ∀ items : List Json, items ≠ [] → areWhole items = true →
    WritesItems (printItems items) (readings items)
  | [], nonempty, _ => absurd rfl nonempty
  | [item], _, whole => .last (writes_print item (Bool.and_eq_true_iff.1 whole).1).padded
  | item :: next :: items, _, whole => by
    obtain ⟨wholeItem, wholeItems⟩ := Bool.and_eq_true_iff.1 whole
    rw [printItems_cons_cons]
    exact .more (writes_print item wholeItem).padded
      (writesItems_print (next :: items) nofun wholeItems)

theorem writesMembers_print : ∀ members : List (Text × Json), members ≠ [] →
    membersWhole members = true → WritesMembers (printMembers members) (memberReadings members)
  | [], nonempty, _ => absurd rfl nonempty
  | [(name, item)], _, whole =>
    .last (writesMember_print name (writes_print item (Bool.and_eq_true_iff.1 whole).1))
  | (name, item) :: next :: members, _, whole => by
    obtain ⟨wholeItem, wholeMembers⟩ := Bool.and_eq_true_iff.1 whole
    rw [printMembers_cons_cons]
    exact .more (writesMember_print name (writes_print item wholeItem))
      (writesMembers_print (next :: members) nofun wholeMembers)

end

end TextSync.Json
