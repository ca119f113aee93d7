import TextSync.Proofs.Json.Numeral
import TextSync.Proofs.Json.Quoted

/-!
# Written values

The grammar of values: which texts are written forms of which values (`Writes`), with blanks around
every part (`Padded`), in all the spellings that numbers and quoted texts have. Reading takes each
of these texts for what it is (`ofText_of_padded`). The fuel lasts because of two steps into a value
at least one takes a character off the text, so twice the length of the text is enough.
-/

namespace TextSync.Json

/-- What may stand between the parts of a value. -/
def Blanks (s : Text) : Prop := ∀ c ∈ s, c = ' ' ∨ c = '\t' ∨ c = '\n' ∨ c = '\r'

instance (s : Text) : Decidable (Blanks s) := inferInstanceAs (Decidable (∀ c ∈ s, _))

mutual

/-- A text that is a written value, without blanks around it. -/
inductive Writes : Text → Reading → Prop
  | null : Writes ['n', 'u', 'l', 'l'] .null
  | yes : Writes ['t', 'r', 'u', 'e'] (.bool true)
  | no : Writes ['f', 'a', 'l', 's', 'e'] (.bool false)
  | number {s : Text} {n : Numeral} (isNumber : Numeral.Writes s n) :
    Writes s (.ofNumber n.value)
  | quoted {s : Text} {pieces : List Piece} (isBody : Quoted.Writes s pieces) :
    Writes ('"' :: s ++ ['"']) ((Quoted.spell pieces).elim .meaningless .str)
  | noItems {s : Text} (blanks : Blanks s) : Writes ('[' :: s ++ [']']) (.arr [] true)
  | list {s : Text} {items : List Reading} (areItems : WritesItems s items) :
    Writes ('[' :: s ++ [']']) (.arr items true)
  | noMembers {s : Text} (blanks : Blanks s) : Writes ('\x7b' :: s ++ ['\x7d']) (.obj [] true)
  | object {s : Text} {members : List (Name × Reading)} (areMembers : WritesMembers s members) :
    Writes ('\x7b' :: s ++ ['\x7d']) (.obj members true)

/-- A text that is a written value with blanks before and after it. -/
inductive Padded : Text → Reading → Prop
  | intro {before s after : Text} {r : Reading} (blanksBefore : Blanks before)
    (writes : Writes s r) (blanksAfter : Blanks after) : Padded (before ++ s ++ after) r

/-- A text that is the inside of a list. -/
inductive WritesItems : Text → List Reading → Prop
  | last {s : Text} {item : Reading} (isItem : Padded s item) : WritesItems s [item]
  | more {s t : Text} {item : Reading} {items : List Reading} (isItem : Padded s item)
    (areItems : WritesItems t items) : WritesItems (s ++ ',' :: t) (item :: items)

/-- A text that is a member of an object, with blanks around its parts. -/
inductive WritesMember : Text → Name × Reading → Prop
  | intro {before name after s : Text} {pieces : List Piece} {item : Reading}
    (blanksBefore : Blanks before) (isName : Quoted.Writes name pieces) (blanksAfter : Blanks after)
    (isItem : Padded s item) :
    WritesMember (before ++ '"' :: name ++ '"' :: after ++ ':' :: s)
      ((Quoted.spell pieces).elim .meaningless .text, item)

/-- A text that is the inside of an object. -/
inductive WritesMembers : Text → List (Name × Reading) → Prop
  | last {s : Text} {member : Name × Reading} (isMember : WritesMember s member) :
    WritesMembers s [member]
  | more {s t : Text} {member : Name × Reading} {members : List (Name × Reading)}
    (isMember : WritesMember s member) (areMembers : WritesMembers t members) :
    WritesMembers (s ++ ',' :: t) (member :: members)

end

/-! ## Every written value is grammatical -/

namespace Reading

theorem isGrammatical_elim (text : Option Text) :
    (text.elim Reading.meaningless .str).isGrammatical = true := by
  cases text <;> rfl

theorem isGrammatical_ofNumber (value : Option Json) : (ofNumber value).isGrammatical = true := by
  unfold ofNumber
  split <;> rfl

end Reading

mutual

/-- What is written by the grammar is grammatical as a reading. -/
theorem Writes.isGrammatical {s : Text} {r : Reading} : Writes s r → r.isGrammatical = true
  | .null | .yes | .no | .noItems _ | .noMembers _ => rfl
  | .number _ => Reading.isGrammatical_ofNumber _
  | .quoted _ => Reading.isGrammatical_elim _
  | .list areItems => by simp [Reading.isGrammatical, areItems.areGrammatical]
  | .object areMembers => by simp [Reading.isGrammatical, areMembers.areGrammatical]

theorem Padded.isGrammatical {s : Text} {r : Reading} : Padded s r → r.isGrammatical = true
  | .intro _ writes _ => writes.isGrammatical

theorem WritesItems.areGrammatical {s : Text} {items : List Reading} :
    WritesItems s items → Reading.areGrammatical items = true
  | .last isItem => by simp [Reading.areGrammatical, isItem.isGrammatical]
  | .more isItem areItems => by
    simp [Reading.areGrammatical, isItem.isGrammatical, areItems.areGrammatical]

theorem WritesMember.isGrammatical {s : Text} {member : Name × Reading} :
    WritesMember s member → member.2.isGrammatical = true
  | .intro _ _ _ isItem => isItem.isGrammatical

theorem WritesMembers.areGrammatical {s : Text} {members : List (Name × Reading)} :
    WritesMembers s members → Reading.membersGrammatical members = true
  | .last isMember => by simp [Reading.membersGrammatical, isMember.isGrammatical]
  | .more isMember areMembers => by
    simp [Reading.membersGrammatical, isMember.isGrammatical, areMembers.areGrammatical]

end

theorem Reading.isGrammatical_of_mem {members : List (Name × Reading)}
    (grammatical : Reading.membersGrammatical members = true) :
    ∀ m ∈ members, m.2.isGrammatical = true := by
  induction members with
  | nil => simp
  | cons m members ih =>
    rw [Reading.membersGrammatical, Bool.and_eq_true] at grammatical
    exact List.forall_mem_cons.2 ⟨grammatical.1, ih grammatical.2⟩

theorem Padded.membersGrammatical {s : Text} {members : List (Name × Reading)} {closed : Bool}
    (padded : Padded s (.obj members closed)) : ∀ m ∈ members, m.2.isGrammatical = true := by
  have grammatical := padded.isGrammatical
  rw [Reading.isGrammatical, Bool.and_eq_true] at grammatical
  exact Reading.isGrammatical_of_mem grammatical.1

/-! ## What a text begins with and what may follow it -/

namespace Reading

variable {s rest b : Text} {r : Reading} {fuel : Nat}

/-- What may follow a value that is part of a longer one, or the end of the text. -/
def Follows (rest : Text) : Prop := ∀ c ∈ rest.head?, c = ',' ∨ c = ']' ∨ c = '\x7d'

theorem follows_nil : Follows [] := fun _ none => nomatch none

theorem follows_comma (rest : Text) : Follows (',' :: rest) := by
  rintro c ⟨⟩
  exact .inl rfl

theorem follows_bracket (rest : Text) : Follows (']' :: rest) := by
  rintro c ⟨⟩
  exact .inr (.inl rfl)

theorem follows_brace (rest : Text) : Follows ('\x7d' :: rest) := by
  rintro c ⟨⟩
  exact .inr (.inr rfl)

/-- Neither blanks nor what follows a value go on with a number. -/
theorem Follows.ends (follows : Follows rest) (blanks : Blanks b) : Numeral.Ends (b ++ rest) := by
  intro c first
  cases b with
  | nil => obtain rfl | rfl | rfl := follows c first <;> decide
  | cons d b =>
    obtain rfl : d = c := Option.some.inj first
    obtain rfl | rfl | rfl | rfl := blanks d List.mem_cons_self <;> decide

/-- Blanks are passed over, however many. -/
theorem skipBlanks_append (blanks : Blanks b) (s : Text) :
    skipBlanks (b ++ s) = skipBlanks s :=
  List.dropWhile_append_of_pos fun c member => by simpa [isBlank, or_assoc] using blanks c member

theorem skipBlanks_cons {c : Char} (solid : isBlank c = false) (rest : Text) :
    skipBlanks (c :: rest) = c :: rest := by
  simp [skipBlanks, solid]

theorem skipBlanks_eq_nil (blanks : Blanks b) : skipBlanks b = [] := by
  have all := skipBlanks_append blanks []
  rwa [List.append_nil] at all

/-- A character that a written value may start with. -/
def Starts (c : Char) : Prop := isBlank c = false ∧ c ≠ ']' ∧ c ≠ '\x7d'

instance (c : Char) : Decidable (Starts c) := inferInstanceAs (Decidable (_ ∧ _))

/-- A number is neither blank nor the beginning of any other value. -/
theorem ne_of_number {c : Char} (number : c = '-' ∨ Numeral.isDigit c = true) (d : Char)
    (other : d ≠ '-' ∧ Numeral.isDigit d = false) : c ≠ d := by
  rintro rfl
  obtain rfl | digit := number
  · exact other.1 rfl
  · rw [other.2] at digit
    cases digit

theorem starts_of_number {c : Char} (number : c = '-' ∨ Numeral.isDigit c = true) : Starts c := by
  refine ⟨?_, ne_of_number number ']' (by decide), ne_of_number number '\x7d' (by decide)⟩
  simp [isBlank, ne_of_number number ' ' (by decide), ne_of_number number '\t' (by decide),
    ne_of_number number '\n' (by decide), ne_of_number number '\r' (by decide)]

end Reading

theorem Numeral.Writes.first {s : Text} {n : Numeral} (writes : Numeral.Writes s n) :
    ∃ c rest, s = c :: rest ∧ (c = '-' ∨ Numeral.isDigit c = true) := by
  obtain ⟨negative, isWhole, -, -⟩ := writes
  rename_i whole _ _ f x
  cases negative with
  | true => exact ⟨'-', whole ++ f ++ x, by simp [Numeral.sign], .inl rfl⟩
  | false =>
    obtain ⟨c, rest, rfl⟩ := List.exists_cons_of_ne_nil isWhole.some
    exact ⟨c, rest ++ f ++ x, by simp [Numeral.sign], .inr (isWhole.all c List.mem_cons_self)⟩

open Reading (Starts skipBlanks)

/-- A written value begins with a character that tells it from an end. -/
theorem Writes.first {s : Text} {r : Reading} (writes : Writes s r) :
    ∃ c rest, s = c :: rest ∧ Starts c := by
  cases writes with
  | null | yes | no | quoted | noItems | list | noMembers | object =>
    exact ⟨_, _, rfl, by decide⟩
  | number isNumber =>
    obtain ⟨c, rest, same, number⟩ := isNumber.first
    exact ⟨c, rest, same, Reading.starts_of_number number⟩

theorem Padded.first {s : Text} {r : Reading} (padded : Padded s r) (rest : Text) :
    ∃ c after, skipBlanks (s ++ rest) = c :: after ∧ Starts c := by
  obtain ⟨blanks, writes, -⟩ := padded
  obtain ⟨c, after, rfl, starts⟩ := writes.first
  rw [List.append_assoc, List.append_assoc, Reading.skipBlanks_append blanks, List.cons_append,
    Reading.skipBlanks_cons starts.1]
  exact ⟨c, _, rfl, starts⟩

/-- The inside of a list begins like its first item. -/
theorem WritesItems.first {s : Text} {items : List Reading} (writes : WritesItems s items)
    (rest : Text) : ∃ c after, skipBlanks (s ++ rest) = c :: after ∧ Starts c := by
  cases writes with
  | last isItem => exact isItem.first rest
  | more isItem =>
    rw [List.append_assoc]
    exact isItem.first _

/-- The inside of an object begins with the quote before the name of its first member. -/
theorem WritesMembers.first {s : Text} {members : List (Name × Reading)}
    (writes : WritesMembers s members) (rest : Text) :
    ∃ c after, skipBlanks (s ++ rest) = c :: after ∧ Starts c := by
  have quote {s : Text} {member : Name × Reading} (isMember : WritesMember s member)
      (rest : Text) : ∃ after, skipBlanks (s ++ rest) = '"' :: after := by
    obtain ⟨blanks, -, -, -⟩ := isMember
    simp only [List.append_assoc, List.cons_append]
    rw [Reading.skipBlanks_append blanks, Reading.skipBlanks_cons (by decide)]
    exact ⟨_, rfl⟩
  cases writes with
  | last isMember =>
    obtain ⟨after, same⟩ := quote isMember rest
    exact ⟨'"', after, same, by decide⟩
  | more isMember =>
    rw [List.append_assoc]
    obtain ⟨after, same⟩ := quote isMember _
    exact ⟨'"', after, same, by decide⟩

/-! ## The reader, rule by rule -/

namespace Reading

section Rules

variable {fuel : Nat} {b s t rest left : Text} {item : Reading} {more : List Reading}
  {pairs : List (Name × Reading)} {closed : Bool}

/-- The reader does not mind blanks before a value. -/
theorem value_blanks (blanks : Blanks b) (fuel : Nat) (s : Text) :
    value fuel (b ++ s) = value fuel s := by
  cases fuel with
  | zero => rfl
  | succ fuel =>
    unfold value
    rw [skipBlanks_append blanks]

theorem word_append (expected : String) {letters : Text} (spelt : expected.toList = letters)
    (reading : Reading) (rest : Text) : word expected reading (letters ++ rest) = (reading, rest) := by
  subst spelt
  simp [word, ← String.length_toList]

theorem value_of_number {c : Char} (number : c = '-' ∨ Numeral.isDigit c = true) (rest : Text) :
    value (fuel + 1) (c :: rest) = Reading.number (c :: rest) := by
  unfold value
  rw [skipBlanks_cons (starts_of_number number).1]
  split <;> try rfl
  all_goals
    rename_i same
    exact absurd (List.cons.inj same).1 (ne_of_number number _ (by decide))

theorem value_list (first : ∃ c after, skipBlanks s = c :: after ∧ Starts c)
    (reads : items fuel s = (more, closed, rest)) :
    value (fuel + 1) ('[' :: s) = (.arr more closed, rest) := by
  obtain ⟨c, after, same, starts⟩ := first
  simp [value, skipBlanks_cons (show isBlank '[' = false by decide), same, starts.2.1, reads]

theorem value_object (first : ∃ c after, skipBlanks s = c :: after ∧ Starts c)
    (reads : members fuel s = (pairs, closed, rest)) :
    value (fuel + 1) ('\x7b' :: s) = (.obj pairs closed, rest) := by
  obtain ⟨c, after, same, starts⟩ := first
  simp [value, skipBlanks_cons (show isBlank '\x7b' = false by decide), same, starts.2.2, reads]

theorem items_last (reads : value fuel s = (item, t)) (ends : skipBlanks t = ']' :: rest) :
    items (fuel + 1) s = ([item], true, rest) := by
  simp [items, reads, ends]

theorem items_more (reads : value fuel s = (item, t))
    (ends : skipBlanks t = ',' :: rest) (next : items fuel rest = (more, closed, left)) :
    items (fuel + 1) s = (item :: more, closed, left) := by
  simp [items, reads, ends, next]

/-- A member, and the end of the object or the next member behind it. -/
theorem members_member {before name after : Text} {pieces : List Piece}
    (blanksBefore : Blanks before) (isName : Quoted.Writes name pieces)
    (blanksAfter : Blanks after) (reads : value fuel s = (item, t)) :
    let start := before ++ '"' :: name ++ '"' :: after ++ ':' :: s
    let first := ((Quoted.spell pieces).elim Name.meaningless .text, item)
    (∀ rest, skipBlanks t = '\x7d' :: rest → members (fuel + 1) start = ([first], true, rest)) ∧
    ∀ rest pairs closed left, skipBlanks t = ',' :: rest →
      members fuel rest = (pairs, closed, left) →
      members (fuel + 1) start = (first :: pairs, closed, left) := by
  have nameRead := Quoted.body_of_writes isName (after ++ ':' :: s)
  constructor
  · intro rest ends
    simp [members, skipBlanks_append blanksBefore,
      skipBlanks_cons (show isBlank '"' = false by decide), nameRead, skipBlanks_append blanksAfter,
      skipBlanks_cons (show isBlank ':' = false by decide), reads, ends]
  · intro rest pairs closed left ends next
    simp [members, skipBlanks_append blanksBefore,
      skipBlanks_cons (show isBlank '"' = false by decide), nameRead, skipBlanks_append blanksAfter,
      skipBlanks_cons (show isBlank ':' = false by decide), reads, ends, next]

end Rules

/-! ## Reading what is written -/

mutual

/-- With fuel enough a written value is read for what it is, whatever may follow it. -/
theorem value_of_writes {s : Text} {r : Reading} : Writes s r → ∀ (fuel : Nat) {rest : Text},
    2 * s.length + 1 ≤ fuel → Numeral.Ends rest → value fuel (s ++ rest) = (r, rest)
  | _, 0, _, enough, _ => by omega
  | .null, _ + 1, rest, _, _ => by
    simpa [value, skipBlanks, isBlank] using word_append "null" rfl .null rest
  | .yes, _ + 1, rest, _, _ => by
    simpa [value, skipBlanks, isBlank] using word_append "true" rfl (.bool true) rest
  | .no, _ + 1, rest, _, _ => by
    simpa [value, skipBlanks, isBlank] using word_append "false" rfl (.bool false) rest
  | .number isNumber, fuel + 1, rest, _, ends => by
    obtain ⟨c, digits, same, number⟩ := isNumber.first
    have reads := Numeral.read_of_writes isNumber ends
    rw [same, List.cons_append] at reads ⊢
    rw [value_of_number number, Reading.number, reads]
  | .quoted isBody, fuel + 1, rest, _, _ => by
    have reads := Quoted.body_of_writes isBody rest
    simp [value, skipBlanks_cons (show isBlank '"' = false by decide), quoted, reads]
  | .noItems blanks, fuel + 1, rest, _, _ => by
    simp [value, skipBlanks_cons (show isBlank '[' = false by decide), skipBlanks_append blanks,
      skipBlanks_cons (show isBlank ']' = false by decide)]
  | .noMembers blanks, fuel + 1, rest, _, _ => by
    simp [value, skipBlanks_cons (show isBlank '\x7b' = false by decide), skipBlanks_append blanks,
      skipBlanks_cons (show isBlank '\x7d' = false by decide)]
  | .list areItems, fuel + 1, rest, enough, _ => by
    have reads := items_of_writes areItems fuel rest (by simp at enough; omega)
    rw [List.cons_append, List.cons_append, List.append_assoc]
    exact value_list (areItems.first _) reads
  | .object areMembers, fuel + 1, rest, enough, _ => by
    have reads := members_of_writes areMembers fuel rest (by simp at enough; omega)
    rw [List.cons_append, List.cons_append, List.append_assoc]
    exact value_object (areMembers.first _) reads

theorem value_of_padded {s : Text} {r : Reading} : Padded s r → ∀ (fuel : Nat) {rest : Text},
    2 * s.length + 1 ≤ fuel → Follows rest →
    ∃ after, Blanks after ∧ value fuel (s ++ rest) = (r, after ++ rest)
  | .intro blanks writes blanksAfter, fuel, rest, enough, follows => by
    refine ⟨_, blanksAfter, ?_⟩
    rw [List.append_assoc, List.append_assoc, value_blanks blanks]
    exact value_of_writes writes fuel (by simp at enough; omega) (follows.ends blanksAfter)

theorem items_of_writes {s : Text} {items : List Reading} : WritesItems s items →
    ∀ (fuel : Nat) (rest : Text), 2 * s.length + 2 ≤ fuel →
    Reading.items fuel (s ++ ']' :: rest) = (items, true, rest)
  | _, 0, _, enough => by omega
  | .last isItem, fuel + 1, rest, enough => by
    obtain ⟨after, blanks, reads⟩ :=
      value_of_padded isItem fuel (by omega) (follows_bracket rest)
    refine items_last reads ?_
    rw [skipBlanks_append blanks, skipBlanks_cons (by decide)]
  | .more (t := t) isItem areItems, fuel + 1, rest, enough => by
    have room := enough
    simp only [List.length_append, List.length_cons] at room
    obtain ⟨after, blanks, reads⟩ :=
      value_of_padded isItem fuel (by omega) (follows_comma (t ++ ']' :: rest))
    have more := items_of_writes areItems fuel rest (by omega)
    rw [List.append_assoc]
    refine items_more reads ?_ more
    rw [skipBlanks_append blanks, skipBlanks_cons (by decide)]

theorem member_of_writes {s : Text} {member : Name × Reading} : WritesMember s member →
    ∀ (fuel : Nat) (rest : Text), 2 * s.length + 1 ≤ fuel →
    members (fuel + 1) (s ++ '\x7d' :: rest) = ([member], true, rest) ∧
    ∀ pairs closed left, members fuel rest = (pairs, closed, left) →
      members (fuel + 1) (s ++ ',' :: rest) = (member :: pairs, closed, left)
  | .intro (s := s) blanksBefore isName blanksAfter isItem, fuel, rest, enough => by
    have room : 2 * s.length + 1 ≤ fuel := by
      simp only [List.length_append, List.length_cons] at enough
      omega
    simp only [List.append_assoc, List.cons_append]
    constructor
    · obtain ⟨after, blanks, reads⟩ := value_of_padded isItem fuel room (follows_brace rest)
      have ends : skipBlanks (after ++ '\x7d' :: rest) = '\x7d' :: rest := by
        rw [skipBlanks_append blanks, skipBlanks_cons (by decide)]
      simpa using (members_member blanksBefore isName blanksAfter reads).1 rest ends
    · intro pairs closed left next
      obtain ⟨after, blanks, reads⟩ := value_of_padded isItem fuel room (follows_comma rest)
      have ends : skipBlanks (after ++ ',' :: rest) = ',' :: rest := by
        rw [skipBlanks_append blanks, skipBlanks_cons (by decide)]
      simpa using (members_member blanksBefore isName blanksAfter reads).2 _ _ _ _ ends next

/-- The inside of an object is read for what it is, if the fuel lasts. -/
theorem members_of_writes {s : Text} {pairs : List (Name × Reading)} : WritesMembers s pairs →
    ∀ (fuel : Nat) (rest : Text), 2 * s.length + 2 ≤ fuel →
    members fuel (s ++ '\x7d' :: rest) = (pairs, true, rest)
  | _, 0, _, enough => by omega
  | .last isMember, fuel + 1, rest, enough => (member_of_writes isMember fuel rest (by omega)).1
  | .more (t := t) isMember areMembers, fuel + 1, rest, enough => by
    have room := enough
    simp only [List.length_append, List.length_cons] at room
    have more := members_of_writes areMembers fuel rest (by omega)
    rw [List.append_assoc]
    exact (member_of_writes isMember fuel (t ++ '\x7d' :: rest) (by omega)).2 _ _ _ more

end

/-- **A written value is read for what it is**, with blanks behind it left. -/
theorem ofText_of_padded {s : Text} {r : Reading} (padded : Padded s r) :
    ∃ after, ofText s = (r, after) ∧ skipBlanks after = [] := by
  obtain ⟨after, blanks, reads⟩ := value_of_padded padded (2 * s.length + 2) (by omega)
    follows_nil
  rw [List.append_nil, List.append_nil] at reads
  exact ⟨after, reads, skipBlanks_eq_nil blanks⟩

end Reading

end TextSync.Json
