import Mathlib.Data.List.Count
import TextSync.Wire.Record

/-!
# Records from objects

The members of an object are read one after the other (`Takes`). As long as the fields of a record
do not get in each other's way (`Independent`), two members can change places (`Takes.swap`). So
what an object says depends neither on the order of its members nor on those of unknown names
(`ofMembers_of_perm`). A field that stands there twice is never read
(`ofMembers_ne_ok_of_twice`).
-/

namespace TextSync.Wire

open Json (Name Reading)

/-- A stored field is read as its value, which is put in its place. -/
theorem Field.exists_of_stored_read {δ α : Type} {name : String} {optional : Bool}
    {get : δ → Option α} {put : δ → α → δ} {decode : Decoder α} {form : Form} {value : Reading}
    {d d' : δ} (read : (Field.stored name optional get put decode).read form value d = .ok d') :
    ∃ a, decode form value = .ok a ∧ put d a = d' := by
  simp only [Field.stored] at read
  cases decoded : decode form value with
  | error fault =>
    rw [decoded] at read
    cases read
  | ok a =>
    rw [decoded] at read
    exact ⟨a, rfl, Except.ok.inj read⟩

namespace Record

variable {δ α : Type} {r : Record δ α} {form : Form} {closed : Bool} {d d₁ d₂ d' : δ}
  {f g : Field δ} {name : Text} {m a b : Name × Reading}
  {members others before rest : List (Name × Reading)}

def field? (r : Record δ α) (name : Text) : Option (Field δ) :=
  r.fields.find? (·.name.toList == name)

theorem mem_of_field? (known : r.field? name = some f) : f ∈ r.fields :=
  List.mem_of_find?_eq_some known

theorem name_of_field? (known : r.field? name = some f) : f.name.toList = name := by
  have found := List.find?_some known
  exact eq_of_beq found

/-- Whether a member is one of the record. -/
def knows (r : Record δ α) (m : Name × Reading) : Bool :=
  match m.1 with
  | .text name => (r.field? name).isSome
  | _ => false

/-- How a member is read: it fills a field that is still empty, or it is passed over. -/
inductive Takes (r : Record δ α) (form : Form) : δ → Name × Reading → δ → Prop
  | passed {d : δ} {name : Text} {value : Reading} (unknown : r.field? name = none)
    (grammatical : value.isGrammatical = true) : Takes r form d (.text name, value) d
  | filled {d d' : δ} {name : Text} {value : Reading} {f : Field δ}
    (known : r.field? name = some f) (empty : f.present d = false)
    (read : f.read form value d = .ok d') : Takes r form d (.text name, value) d'

theorem Takes.stored {β : Type} {label : String} {optional : Bool} {get : δ → Option β}
    {put : δ → β → δ} {decode : Decoder β} {value : Reading} {b : β}
    (known : r.field? name = some (.stored label optional get put decode)) (empty : get d = none)
    (reads : decode form value = .ok b) : r.Takes form d (.text name, value) (put d b) :=
  .filled known (by simp [Field.stored, empty]) (by simp [Field.stored, reads, Except.map])

theorem ofMembers_cons (takes : r.Takes form d m d₁) (rest : List (Name × Reading)) :
    r.ofMembers form closed (m :: rest) d = r.ofMembers form closed rest d₁ := by
  cases takes with
  | passed unknown grammatical =>
    unfold field? at unknown
    simp [ofMembers, unknown, grammatical]
  | filled known empty read =>
    unfold field? at known
    simp [ofMembers, known, empty, read]

theorem takes_of_ofMembers_cons (read : r.ofMembers form closed (m :: rest) d = .ok d') :
    ∃ d₁, r.Takes form d m d₁ ∧ r.ofMembers form closed rest d₁ = .ok d' := by
  obtain ⟨name, value⟩ := m
  cases name with
  | meaningless | absent => cases read
  | text name =>
    unfold ofMembers at read
    split at read
    · rename_i unknown
      split at read
      · rename_i grammatical
        exact ⟨d, .passed unknown grammatical, read⟩
      · cases read
    · rename_i f known
      split at read
      · cases read
      · rename_i empty
        split at read
        · rename_i d₁ filled
          exact ⟨d₁, .filled known (Bool.eq_false_iff.2 empty) filled, read⟩
        · cases read

/-- What has been read of the members in front is what the others are added to. -/
theorem ofMembers_append (read : r.ofMembers form true before d = .ok d₁)
    (rest : List (Name × Reading)) :
    r.ofMembers form closed (before ++ rest) d = r.ofMembers form closed rest d₁ := by
  induction before generalizing d with
  | nil =>
    cases read
    rfl
  | cons m before ih =>
    obtain ⟨d₂, takes, read⟩ := takes_of_ofMembers_cons read
    rw [List.cons_append, ofMembers_cons takes, ih read]

/-- Fields that do not get in each other's way: each is marked when it is read, which leaves the
others as they are, and it makes no difference which one comes first. -/
structure Independent (r : Record δ α) : Prop where
  marks : ∀ {form value d d₁}, ∀ f ∈ r.fields, f.read form value d = .ok d₁ → f.present d₁ = true
  keeps : ∀ {form value d d₁}, ∀ f ∈ r.fields, ∀ g ∈ r.fields, f.name ≠ g.name →
    f.read form value d = .ok d₁ → g.present d₁ = g.present d
  commutes : ∀ {form value other d d₁ d₂}, ∀ f ∈ r.fields, ∀ g ∈ r.fields, f.name ≠ g.name →
    f.read form value d = .ok d₁ → g.read form other d₁ = .ok d₂ →
    ∃ d₃, g.read form other d = .ok d₃ ∧ f.read form value d₃ = .ok d₂

theorem name_ne_of_field? {name other : Text} (known : r.field? name = some f)
    (knownOther : r.field? other = some g) (differ : name ≠ other) : f.name ≠ g.name := by
  intro same
  apply differ
  rw [← name_of_field? known, ← name_of_field? knownOther, same]

/-- Two members can change places. -/
theorem Takes.swap (independent : r.Independent) (first : r.Takes form d a d₁)
    (second : r.Takes form d₁ b d₂) : ∃ d₃, r.Takes form d b d₃ ∧ r.Takes form d₃ a d₂ := by
  cases first with
  | passed unknown grammatical => exact ⟨d₂, second, .passed unknown grammatical⟩
  | @filled _ name _ f known empty read =>
    cases second with
    | passed unknown grammatical => exact ⟨d, .passed unknown grammatical, .filled known empty read⟩
    | @filled _ other _ g knownOther emptyOther readOther =>
      have isField := mem_of_field? known
      have isOther := mem_of_field? knownOther
      by_cases same : name = other
      · subst same
        obtain rfl : f = g := Option.some.inj (known.symm.trans knownOther)
        rw [independent.marks f isField read] at emptyOther
        cases emptyOther
      · have differ := name_ne_of_field? known knownOther same
        obtain ⟨d₃, otherFirst, later⟩ :=
          independent.commutes f isField g isOther differ read readOther
        rw [independent.keeps f isField g isOther differ read] at emptyOther
        have stillEmpty := independent.keeps g isOther f isField differ.symm otherFirst
        exact ⟨d₃, .filled knownOther emptyOther otherFirst,
          .filled known (stillEmpty.trans empty) later⟩

theorem ofMembers_perm (independent : r.Independent) (perm : others.Perm members)
    (read : r.ofMembers form true others d = .ok d') :
    r.ofMembers form true members d = .ok d' := by
  induction perm generalizing d with
  | nil => exact read
  | cons m _ ih =>
    obtain ⟨d₁, takes, read⟩ := takes_of_ofMembers_cons read
    rw [ofMembers_cons takes, ih read]
  | swap a b rest =>
    obtain ⟨d₁, first, read⟩ := takes_of_ofMembers_cons read
    obtain ⟨d₂, second, read⟩ := takes_of_ofMembers_cons read
    obtain ⟨d₃, second, first⟩ := first.swap independent second
    rw [ofMembers_cons second, ofMembers_cons first, read]
  | trans _ _ first second => exact second (first read)

/-- **Order and unknown members make no difference.** An object says what its known members say in
any order. -/
theorem ofMembers_of_perm (independent : r.Independent)
    (passed : ∀ m ∈ members, r.knows m = false → ∀ d, r.Takes form d m d)
    (perm : (members.filter r.knows).Perm others)
    (read : r.ofMembers form true others d = .ok d') :
    r.ofMembers form true members d = .ok d' := by
  have known := ofMembers_perm independent perm.symm read
  clear perm read
  induction members generalizing d with
  | nil => exact known
  | cons m members ih =>
    obtain ⟨first, later⟩ := List.forall_mem_cons.1 passed
    cases isKnown : r.knows m with
    | true =>
      rw [List.filter_cons_of_pos isKnown] at known
      obtain ⟨d₁, takes, known⟩ := takes_of_ofMembers_cons known
      rw [ofMembers_cons takes, ih later known]
    | false =>
      rw [List.filter_cons_of_neg (Bool.eq_false_iff.1 isKnown)] at known
      rw [ofMembers_cons (first isKnown d), ih later known]

/-- The members in front were read as well. -/
theorem exists_of_ofMembers_append (read : r.ofMembers form closed (before ++ rest) d = .ok d') :
    ∃ d₁, r.ofMembers form true before d = .ok d₁ := by
  induction before generalizing d with
  | nil => exact ⟨d, rfl⟩
  | cons m before ih =>
    obtain ⟨d₂, takes, read⟩ := takes_of_ofMembers_cons read
    obtain ⟨d₁, read⟩ := ih read
    exact ⟨d₁, (ofMembers_cons takes before).trans read⟩

/-! ## Fields that stand there twice -/

/-- A field has been read as often as it stands there. -/
theorem present_of_ofMembers (independent : r.Independent) (known : r.field? name = some f)
    (read : r.ofMembers form true members d = .ok d') :
    (f.present d').toNat = (f.present d).toNat + (members.map (·.1)).count (.text name) := by
  induction members generalizing d with
  | nil =>
    cases read
    rfl
  | cons m members ih =>
    obtain ⟨d₁, takes, read⟩ := takes_of_ofMembers_cons read
    rw [ih read, List.map_cons]
    cases takes with
    | @passed other _ unknown =>
      have differ : Name.text other ≠ .text name := by
        rintro ⟨⟩
        rw [known] at unknown
        cases unknown
      rw [List.count_cons_of_ne differ]
    | @filled _ other _ g knownOther empty filled =>
      by_cases same : other = name
      · subst same
        obtain rfl : f = g := Option.some.inj (known.symm.trans knownOther)
        rw [List.count_cons_self, empty, independent.marks f (mem_of_field? known) filled]
        simp only [Bool.toNat_true, Bool.toNat_false]
        omega
      · have differ : Name.text other ≠ .text name := fun equal => same (Name.text.inj equal)
        rw [List.count_cons_of_ne differ, independent.keeps g (mem_of_field? knownOther) f
          (mem_of_field? known) (name_ne_of_field? knownOther known same) filled]

/-- **An object with a field twice is no record**, whatever else it holds. -/
theorem ofMembers_ne_ok_of_twice (independent : r.Independent) (known : r.field? name = some f)
    (twice : 2 ≤ (members.map (·.1)).count (.text name)) :
    r.ofMembers form true members d ≠ .ok d' := by
  intro read
  have counted := present_of_ofMembers independent known read
  have atMost := Bool.toNat_le (f.present d')
  omega

/-- The second of two members for one field is refused for its name, if all is well up to there. -/
theorem ofMembers_of_twice (independent : r.Independent) (known : r.field? name = some f)
    (read : r.ofMembers form true before d = .ok d₁) (earlier : .text name ∈ before.map (·.1))
    (value : Reading) (rest : List (Name × Reading)) :
    r.ofMembers form closed (before ++ (.text name, value) :: rest) d
      = .error (.duplicate f.name) := by
  have counted := present_of_ofMembers independent known read
  have some := List.count_pos_iff.2 earlier
  have present : f.present d₁ = true := by
    cases absent : f.present d₁ with
    | true => rfl
    | false =>
      rw [absent, Bool.toNat_false] at counted
      omega
  unfold field? at known
  rw [ofMembers_append read]
  simp [ofMembers, known, present]

end Record
end TextSync.Wire
