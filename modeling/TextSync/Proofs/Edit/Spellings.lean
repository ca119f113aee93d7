import TextSync.Edit.Format
import TextSync.Proofs.Json.Accepted
import TextSync.Proofs.Wire.Decoding
import TextSync.Proofs.Wire.Record

/-!
# All texts of one edit

An edit can be written in more than one way: with its fields in any order, with members of other
names between them, with an absent half as null or not at all, as a list, with blanks anywhere, and
with any spelling of each name, number and text. All these texts decode to the edit
(`decodeText_of_written`).
-/

namespace TextSync.Edit

open Json (Name Reading)
open Wire

variable {e : Edit} {form : Form} {members before after : List (Name × Reading)}
  {items : List Reading}

/-- The names of the fields. -/
def fieldNames : List String := ["position", "num_delete", "insert"]

/-- Whether a member has the name of a field. -/
def isField (m : Name × Reading) : Bool := fieldNames.any fun name => m.1 = .text name.toList

/-- How a half may stand in an object: by its value or, if it is absent, as null or not at all. -/
inductive Half (name : String) : Option Reading → List (Name × Reading) → Prop
  | present (value : Reading) : Half name (some value) [(.text name.toList, value)]
  | null : Half name none [(.text name.toList, .null)]
  | leftOut : Half name none []

def removedReading (e : Edit) : Option Reading := e.removed.map fun (count : Nat) => .int count

def insertedReading (e : Edit) : Option Reading := e.inserted.map .str

/-- Members that give an edit: each of its fields once, in any order, and any others. A name is a
text; with half of a surrogate pair it would be none, and a fault of the object. -/
structure GivenBy (e : Edit) (members : List (Name × Reading)) : Prop where
  named : ∀ m ∈ members, ∃ name, m.1 = .text name
  fields : ∃ removed inserted, Half "num_delete" e.removedReading removed ∧
    Half "insert" e.insertedReading inserted ∧
    (members.filter isField).Perm
      ((.text "position".toList, .int e.position) :: (removed ++ inserted))

/-- Items that give an edit: the fields in their order. At the end, absent halves may be left
out. -/
def ListedBy (e : Edit) (items : List Reading) : Prop :=
  ∃ leftOut, items ++ List.replicate leftOut .null
    = [.int e.position, e.removedReading.getD .null, e.insertedReading.getD .null]

/-! ## The record of an edit -/

theorem knows_text (name : Text) (value : Reading) :
    record.knows (.text name, value) = isField (.text name, value) := by
  have names : fieldNames = record.fields.map (·.name) := rfl
  have same (f : Wire.Field Draft) :
      decide (Name.text name = .text f.name.toList) = (f.name.toList == name) := by
    rw [Bool.eq_iff_iff, decide_eq_true_iff, beq_iff_eq, Name.text.injEq, eq_comm]
  simp only [Record.knows, Record.field?, List.isSome_find?, isField, names, List.any_map,
    Function.comp_def, same]

/-- The three fields are stored in places of their own. -/
theorem independent_record : record.Independent where
  marks f isF read := by
    simp only [record, List.mem_cons, List.not_mem_nil, or_false] at isF
    rcases isF with rfl | rfl | rfl <;>
      (obtain ⟨a, -, rfl⟩ := Field.exists_of_stored_read read; rfl)
  keeps f isF g isG differ read := by
    simp only [record, List.mem_cons, List.not_mem_nil, or_false] at isF isG
    rcases isF with rfl | rfl | rfl <;> rcases isG with rfl | rfl | rfl <;>
      first
        | exact absurd rfl differ
        | (obtain ⟨a, -, rfl⟩ := Field.exists_of_stored_read read; rfl)
  commutes f isF g isG differ first second := by
    simp only [record, List.mem_cons, List.not_mem_nil, or_false] at isF isG
    rcases isF with rfl | rfl | rfl <;> rcases isG with rfl | rfl | rfl <;>
      first
        | exact absurd rfl differ
        | (obtain ⟨a, readFirst, rfl⟩ := Field.exists_of_stored_read first
           obtain ⟨b, readSecond, rfl⟩ := Field.exists_of_stored_read second
           simp [Field.stored, readFirst, readSecond, Except.map])

theorem exists_field_of_mem {name : String} (isName : name ∈ fieldNames) :
    ∃ f, record.field? name.toList = some f ∧ f.name = name := by
  simp only [fieldNames, List.mem_cons, List.not_mem_nil, or_false] at isName
  rcases isName with rfl | rfl | rfl <;> exact ⟨_, rfl, rfl⟩

theorem optional_removed (e : Edit) (form : Form) :
    Decoder.optional .offset form (e.removedReading.getD .null) = .ok e.removed := by
  obtain ⟨_, removed, _⟩ := e
  cases removed with
  | none => rfl
  | some count => exact congrArg (Except.map some) (Decoder.offset_ofNat form count)

theorem optional_inserted (e : Edit) (form : Form) :
    Decoder.optional .text form (e.insertedReading.getD .null) = .ok e.inserted := by
  obtain ⟨_, _, inserted⟩ := e
  cases inserted <;> rfl

theorem complete_eq_ok {count : Option (Option Nat)} {text : Option (Option Text)}
    (isCount : count.join = e.removed) (isText : text.join = e.inserted) :
    record.complete ⟨some e.position, count, text⟩ = .ok e := by
  simp [record, isCount, isText]

/-! ## Objects -/

/-- A half fills its place, or leaves it empty if it is left out. -/
theorem Half.ofMembers {name : String} {value : Option Reading} {α : Type} {half : Option α}
    {get : Draft → Option (Option α)} {put : Draft → Option α → Draft} {decode : Decoder α}
    {d : Draft} (stands : Half name value members)
    (known : record.field? name.toList = some (.stored name true get put (.optional decode)))
    (reads : Decoder.optional decode form (value.getD .null) = .ok half) (empty : get d = none)
    (rest : List (Name × Reading)) :
    ∃ found : Option (Option α), found.join = half ∧
      record.ofMembers form true (members ++ rest) d
        = record.ofMembers form true rest (found.elim d (put d)) := by
  cases stands with
  | present | null =>
    exact ⟨some half, rfl, Record.ofMembers_cons (.stored known empty reads) rest⟩
  | leftOut => exact ⟨none, Except.ok.inj reads, rfl⟩

/-- The fields in their own order are read as the edit. -/
theorem ofMembers_fields {removed inserted : List (Name × Reading)}
    (isRemoved : Half "num_delete" e.removedReading removed)
    (isInserted : Half "insert" e.insertedReading inserted) (form : Form) :
    ∃ d, record.ofMembers form true
        ((.text "position".toList, .int e.position) :: (removed ++ inserted)) record.blank = .ok d ∧
      record.complete d = .ok e := by
  have known : record.field? "position".toList = some (.stored "position" false Draft.position
      (fun d p => { d with position := some p }) .offset) := rfl
  have position := Record.Takes.stored (d := record.blank) known rfl
    (Decoder.offset_ofNat form e.position)
  obtain ⟨count, isCount, removedRead⟩ := isRemoved.ofMembers (d := ⟨some e.position, none, none⟩)
    rfl (e.optional_removed form) rfl inserted
  obtain ⟨text, isText, insertedRead⟩ := isInserted.ofMembers (d := ⟨some e.position, count, none⟩)
    rfl (e.optional_inserted form) rfl []
  refine ⟨⟨some e.position, count, text⟩, ?_, ?_⟩
  · refine (Record.ofMembers_cons position _).trans (removedRead.trans ?_)
    rw [List.append_nil] at insertedRead
    cases count <;> cases text <;> exact insertedRead
  · exact complete_eq_ok isCount isText

/-- Members that give an edit are read as it. -/
theorem ofMembers_of_given (given : e.GivenBy members)
    (grammatical : ∀ m ∈ members, m.2.isGrammatical = true) (form : Form) :
    ∃ d, record.ofMembers form true members record.blank = .ok d ∧ record.complete d = .ok e := by
  obtain ⟨removed, inserted, isRemoved, isInserted, perm⟩ := given.fields
  obtain ⟨d, read, complete⟩ := ofMembers_fields isRemoved isInserted form
  have known : members.filter record.knows = members.filter isField := by
    refine List.filter_congr fun m isMember => ?_
    obtain ⟨name, value⟩ := m
    obtain ⟨name, rfl⟩ := given.named _ isMember
    exact knows_text name value
  have passed : ∀ m ∈ members, record.knows m = false → ∀ d, record.Takes form d m d := by
    intro m isMember unknown d
    obtain ⟨name, value⟩ := m
    obtain ⟨name, rfl⟩ := given.named _ isMember
    exact .passed (Option.isNone_iff_eq_none.1 (Option.isSome_eq_false_iff.1 unknown))
      (grammatical _ isMember)
  rw [← known] at perm
  exact ⟨d, Record.ofMembers_of_perm independent_record passed perm read, complete⟩

/-! ## Lists -/

/-- Items that give an edit are read as it. -/
theorem ofItems_of_listed (listed : e.ListedBy items) (form : Form) :
    ∃ d, record.ofItems form items true record.fields items record.blank = .ok d ∧
      record.complete d = .ok e := by
  obtain ⟨leftOut, same⟩ := listed
  have position := Decoder.offset_ofNat form e.position
  have removed := e.optional_removed form
  have inserted := e.optional_inserted form
  match leftOut with
  | 0 =>
    obtain rfl : items = _ := (List.append_nil items).symm.trans same
    refine ⟨⟨some e.position, some e.removed, some e.inserted⟩, ?_, complete_eq_ok rfl rfl⟩
    simp only [Record.ofItems, record, Field.stored, position, removed, inserted, Except.map]
    rfl
  | 1 =>
    obtain ⟨rfl, last⟩ := List.append_inj' (show items ++ [.null] = [_, _] ++ [_] from same) rfl
    rw [← List.head_eq_of_cons_eq last] at inserted
    refine ⟨⟨some e.position, some e.removed, none⟩, ?_,
      complete_eq_ok rfl (Except.ok.inj inserted)⟩
    simp only [Record.ofItems, record, Field.stored, position, removed, Except.map]
    rfl
  | 2 =>
    obtain ⟨rfl, last⟩ :=
      List.append_inj' (show items ++ [.null, .null] = [_] ++ [_, _] from same) rfl
    rw [← List.head_eq_of_cons_eq last] at removed
    rw [← List.head_eq_of_cons_eq (List.tail_eq_of_cons_eq last)] at inserted
    refine ⟨⟨some e.position, none, none⟩, ?_,
      complete_eq_ok (Except.ok.inj removed) (Except.ok.inj inserted)⟩
    simp only [Record.ofItems, record, Field.stored, position, Except.map]
    rfl
  | more + 3 =>
    -- The position is never left out.
    cases items with
    | nil => cases same
    | cons item items =>
      have length := congrArg List.length same
      simp only [List.length_append, List.length_cons, List.length_nil,
        List.length_replicate] at length
      omega

/-! ## Texts -/

/-- **Any text of an edit decodes to it**, be it an object with its fields in any order among
members of other names, or a list. An object with a field twice is refused, and for this reason if
nothing else is wrong with it. -/
theorem decodeText_of_written (e : Edit) :
    (∀ s members, Json.Padded s (.obj members true) → e.GivenBy members →
      decodeText decode s = .ok e) ∧
    (∀ s items, Json.Padded s (.arr items true) → e.ListedBy items →
      decodeText decode s = .ok e) ∧
    (∀ s members, ∀ name ∈ fieldNames, Json.Padded s (.obj members true) →
      2 ≤ (members.map (·.1)).count (.text name.toList) →
      ∃ fault, decodeText decode s = .error fault) ∧
    ∀ s before value after, ∀ name ∈ fieldNames,
      Json.Padded s (.obj (before ++ (.text name.toList, value) :: after) true) →
      e.GivenBy (before ++ after) → .text name.toList ∈ before.map (·.1) →
      decodeText decode s = .error (.duplicate name) := by
  refine ⟨?_, ?_, ?_, ?_⟩
  · intro s members padded given
    obtain ⟨d, read, complete⟩ := ofMembers_of_given given padded.membersGrammatical .text
    rw [decodeText_padded _ padded]
    simp [decode, Record.decode, read, complete, bind, Except.bind]
  · intro s items padded listed
    obtain ⟨d, read, complete⟩ := ofItems_of_listed listed .text
    rw [decodeText_padded _ padded]
    simp [decode, Record.decode, read, complete, bind, Except.bind]
  · intro s members name isName padded twice
    obtain ⟨f, known, -⟩ := exists_field_of_mem isName
    rw [decodeText_padded _ padded]
    cases read : record.ofMembers .text true members record.blank with
    | ok d => exact absurd read (Record.ofMembers_ne_ok_of_twice independent_record known twice)
    | error fault => exact ⟨fault, by simp [decode, Record.decode, read, bind, Except.bind]⟩
  · intro s before value after name isName padded given earlier
    obtain ⟨f, known, rfl⟩ := exists_field_of_mem isName
    have grammatical : ∀ m ∈ before ++ after, m.2.isGrammatical = true := by
      intro m isMember
      refine padded.membersGrammatical m ?_
      rw [List.mem_append] at isMember ⊢
      exact isMember.imp_right (List.mem_cons_of_mem _)
    obtain ⟨d, read, -⟩ := ofMembers_of_given given grammatical .text
    obtain ⟨d₁, read⟩ := Record.exists_of_ofMembers_append read
    have refused : record.ofMembers .text true (before ++ (.text f.name.toList, value) :: after)
        record.blank = .error (.duplicate f.name) :=
      Record.ofMembers_of_twice independent_record known read earlier value after
    rw [decodeText_padded _ padded]
    simp [decode, Record.decode, refused, bind, Except.bind]

/-- An object with its fields back to front, escapes in a name and in the text, blanks of all kinds,
and an unknown field whose value holds half of a surrogate pair; two lists; and two objects with a
field twice. -/
theorem decodeText_of_written_anyhow :
    decodeText decode (" \x7b\"x\":[\"\\ud800\",1e999,\x7b\"position\":[ ]\x7d],\t\"insert\" :"
      ++ "\"\\u0061\\/\\ud83d\\ude00\" ,\n\"num_delete\":null,\"pos\\u0069tion\":10\x7d\r").toList
        = .ok ⟨10, none, some "a/😀".toList⟩ ∧
    decodeText decode "[10, null,\"a/😀\"]\n".toList = .ok ⟨10, none, some "a/😀".toList⟩ ∧
    decodeText decode "[10]".toList = .ok (.mk 10 none none) ∧
    (∃ fault, decodeText decode "\x7b\"insert\":3,\"insert\":\"a\"\x7d".toList = .error fault) ∧
    decodeText decode "\x7b\"position\":10,\"x\":1,\"position\":\"a\"\x7d".toList
      = .error (.duplicate "position") := by
  refine ⟨?_, ?_, ?_, ?_, ?_⟩
  · have inOrder := List.reverse_perm [(Name.text "position".toList, Reading.int 10),
      (.text "num_delete".toList, .null), (.text "insert".toList, .str "a/😀".toList)]
    exact (decodeText_of_written _).1 _
      [(.text "x".toList,
          .arr [.meaningless, .meaningless, .obj [(.text "position".toList, .arr [] true)] true] true),
        (.text "insert".toList, .str "a/😀".toList), (.text "num_delete".toList, .null),
        (.text "position".toList, .int 10)]
      (by decide +kernel) ⟨by simp, _, _, .null, .present _, inOrder⟩
  · exact (decodeText_of_written _).2.1 _ [.int 10, .null, .str "a/😀".toList]
      (by decide +kernel) ⟨0, rfl⟩
  · exact (decodeText_of_written _).2.1 _ [.int 10]
      (by decide +kernel) ⟨2, rfl⟩
  · exact (decodeText_of_written (.insert 0 [])).2.2.1 _
      [(.text "insert".toList, .int 3), (.text "insert".toList, .str "a".toList)] "insert"
      (by decide) (by decide +kernel) (by decide)
  · exact (decodeText_of_written (.mk 10 none none)).2.2.2 _
      [(.text "position".toList, .int 10), (.text "x".toList, .int 1)] (.str "a".toList) []
      "position" (by decide) (by decide +kernel)
      ⟨by simp, [], [], .leftOut, .leftOut, .refl _⟩ (by decide)

end TextSync.Edit
