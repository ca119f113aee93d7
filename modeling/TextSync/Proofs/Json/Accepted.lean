import Mathlib.Data.List.TakeWhile
import TextSync.Proofs.Json.Grammar

/-!
# Nothing but written values is read to its end

The other way round: a text whose reading is grammatical to its end is a written value
(`padded_of_ofText`). Each part of the reader takes a part of the grammar off the front of the text.
So the grammar is neither too narrow nor too wide for the reader (`padded_iff`), and whether a text
is in it can be seen by reading it.
-/

namespace TextSync.Json

variable {s rest : Text}

/-! ## Numbers -/

namespace Numeral

theorem exists_of_someDigits {digits : List Char} (found : someDigits s = some (digits, rest)) :
    Digits digits ∧ s = digits ++ rest := by
  unfold someDigits at found
  split at found
  · cases found
  · rename_i some
    rw [List.span_eq_takeWhile_dropWhile] at found
    obtain ⟨rfl, rfl⟩ := Prod.mk.inj (Option.some.inj found)
    refine ⟨⟨?_, fun c isDigit => List.mem_takeWhile_imp isDigit⟩,
      List.takeWhile_append_dropWhile.symm⟩
    simpa using some

/-- Whole digits that are read begin with a zero only if it is the only one. -/
theorem exists_of_readWhole {digits : List Char} (found : readWhole s = some (digits, rest)) :
    Whole digits ∧ s = digits ++ rest := by
  unfold readWhole at found
  split at found
  · cases found
  · rename_i single
    obtain ⟨isDigits, same⟩ := exists_of_someDigits found
    refine ⟨⟨isDigits, ?_⟩, same⟩
    rintro more rfl
    cases more with
    | nil => rfl
    | cons c more => exact absurd found (single c more rest)

theorem exists_of_readFraction {digits : List Char}
    (found : readFraction s = some (digits, rest)) : ∃ f, Fraction f digits ∧ s = f ++ rest := by
  unfold readFraction at found
  split at found
  · obtain ⟨isDigits, rfl⟩ := exists_of_someDigits found
    exact ⟨_, .point isDigits, rfl⟩
  · obtain ⟨rfl, rfl⟩ := Prod.mk.inj (Option.some.inj found)
    exact ⟨[], .absent, rfl⟩

theorem exists_of_readExponent {exponent : Option (Bool × List Char)}
    (found : readExponent s = some (exponent, rest)) :
    ∃ x, Exponent x exponent ∧ s = x ++ rest := by
  unfold readExponent at found
  split at found
  · rename_i mark tail
    split at found
    · rename_i isMark
      simp only [Option.map_eq_some_iff, Prod.exists, Prod.mk.injEq] at found
      obtain ⟨digits, after, digitsFound, rfl, rfl⟩ := found
      obtain ⟨isDigits, same⟩ := exists_of_someDigits digitsFound
      split at same
      · exact ⟨_, .marked isMark .upward isDigits, by simpa using same⟩
      · exact ⟨_, .marked isMark .downward isDigits, by simpa using same⟩
      · exact ⟨_, .marked isMark .unsaid isDigits, by simpa using same⟩
    · obtain ⟨rfl, rfl⟩ := Prod.mk.inj (Option.some.inj found)
      exact ⟨[], .absent, rfl⟩
  · obtain ⟨rfl, rfl⟩ := Prod.mk.inj (Option.some.inj found)
    exact ⟨[], .absent, rfl⟩

theorem exists_of_parts (negative : Bool) {whole fraction : List Char}
    {exponent : Option (Bool × List Char)} {t u : Text}
    (wholeFound : readWhole s = some (whole, t)) (fractionFound : readFraction t = some (fraction, u))
    (exponentFound : readExponent u = some (exponent, rest)) :
    ∃ t, Writes t ⟨negative, whole, fraction, exponent⟩ ∧ sign negative ++ s = t ++ rest := by
  obtain ⟨isWhole, rfl⟩ := exists_of_readWhole wholeFound
  obtain ⟨f, isFraction, rfl⟩ := exists_of_readFraction fractionFound
  obtain ⟨x, isExponent, rfl⟩ := exists_of_readExponent exponentFound
  exact ⟨_, .intro negative isWhole isFraction isExponent, by simp⟩

/-- What is read as a number off the front of a text is a written number. -/
theorem exists_of_read {n : Numeral} (found : read s = some (n, rest)) :
    ∃ t, Writes t n ∧ s = t ++ rest := by
  unfold read at found
  split at found
  rename_i negative unsigned same
  simp only [Option.bind_eq_bind, Option.bind_eq_some_iff, Prod.exists, Option.pure_def,
    Option.some.injEq, Prod.mk.injEq] at found
  obtain ⟨_, _, wholeFound, _, _, fractionFound, _, _, exponentFound, rfl, rfl⟩ := found
  split at same
  · cases same
    exact exists_of_parts true wholeFound fractionFound exponentFound
  · cases same
    exact exists_of_parts false wholeFound fractionFound exponentFound

end Numeral

/-! ## Quoted texts -/

namespace Quoted

theorem mem_of_unescape {l c : Char} (stands : unescape l = some c) : (l, c) ∈ letters := by
  unfold unescape at stands
  split_ifs at stands with itself b f n r t
  · obtain rfl := Option.some.inj stands
    rcases itself with rfl | rfl | rfl <;> simp [letters]
  all_goals
    subst l
    obtain rfl := Option.some.inj stands
    simp [letters]

/-- What is read up to the closing quote is a written body. -/
theorem exists_of_body {pieces : List Piece} (found : body s = some (pieces, rest)) :
    ∃ t, Writes t pieces ∧ s = t ++ '"' :: rest := by
  fun_induction body s generalizing pieces rest with
  | case1 => cases found
  | case2 after =>
    obtain ⟨rfl, rfl⟩ := Prod.mk.inj (Option.some.inj found)
    exact ⟨[], .nil, rfl⟩
  | case3 a b c d after ih =>
    simp only [Option.bind_eq_bind, Option.bind_eq_some_iff, Prod.exists, Option.pure_def,
      Option.some.injEq, Prod.mk.injEq] at found
    obtain ⟨unit, digits, more, left, found, rfl, rfl⟩ := found
    obtain ⟨t, writes, rfl⟩ := ih found
    exact ⟨_, .unit digits writes, rfl⟩
  | case4 l after noUnit ih =>
    simp only [Option.bind_eq_bind, Option.bind_eq_some_iff, Prod.exists, Option.pure_def,
      Option.some.injEq, Prod.mk.injEq] at found
    obtain ⟨c, stands, more, left, found, rfl, rfl⟩ := found
    obtain ⟨t, writes, rfl⟩ := ih found
    exact ⟨_, .letter (mem_of_unescape stands) writes, rfl⟩
  | case5 => cases found
  | case6 c after noQuote noUnit noLetter next noControl =>
    rename_i ih
    unfold next at found
    simp only [Option.bind_eq_bind, Option.bind_eq_some_iff, Prod.exists, Option.pure_def,
      Option.some.injEq, Prod.mk.injEq] at found
    obtain ⟨more, left, found, rfl, rfl⟩ := found
    have noBackslash : c ≠ '\\' := by
      rintro rfl
      cases after with
      | nil => cases found
      | cons l after => exact noLetter l after rfl rfl
    obtain ⟨t, writes, rfl⟩ := ih found
    exact ⟨_, .itself noQuote noBackslash (Nat.not_lt.1 noControl) writes, rfl⟩

end Quoted

/-! ## Values -/

namespace Reading

theorem exists_blanks (s : Text) : ∃ b, Blanks b ∧ s = b ++ skipBlanks s := by
  refine ⟨s.takeWhile isBlank, fun c isBlank => ?_, List.takeWhile_append_dropWhile.symm⟩
  have blank := List.mem_takeWhile_imp isBlank
  simpa [Reading.isBlank, or_assoc] using blank

theorem exists_of_word {expected : String} {letters : Text} (spelt : expected.toList = letters)
    {reading r : Reading} (found : word expected reading s = (r, rest))
    (grammatical : r.isGrammatical = true) : r = reading ∧ s = letters ++ rest := by
  subst spelt
  unfold word at found
  split at found
  · rename_i isPrefix
    obtain ⟨rfl, rfl⟩ := Prod.mk.inj found
    obtain ⟨more, rfl⟩ := List.isPrefixOf_iff_prefix.1 isPrefix
    simp [← String.length_toList]
  · obtain ⟨rfl, rfl⟩ := Prod.mk.inj found
    cases grammatical

theorem exists_of_number {r : Reading} (found : Reading.number s = (r, rest))
    (grammatical : r.isGrammatical = true) : ∃ t, Writes t r ∧ s = t ++ rest := by
  unfold Reading.number at found
  split at found
  · rename_i reads
    obtain ⟨rfl, rfl⟩ := Prod.mk.inj found
    obtain ⟨t, isNumber, same⟩ := Numeral.exists_of_read reads
    exact ⟨t, .number isNumber, same⟩
  · obtain ⟨rfl, rfl⟩ := Prod.mk.inj found
    cases grammatical

theorem exists_of_quoted {r : Reading} (found : quoted s = (r, rest))
    (grammatical : r.isGrammatical = true) : ∃ t, Writes t r ∧ '"' :: s = t ++ rest := by
  unfold quoted at found
  split at found
  · rename_i reads
    obtain ⟨rfl, rfl⟩ := Prod.mk.inj found
    obtain ⟨t, isBody, rfl⟩ := Quoted.exists_of_body reads
    exact ⟨_, .quoted isBody, by simp⟩
  · obtain ⟨rfl, rfl⟩ := Prod.mk.inj found
    cases grammatical

/-- The blanks around a value are a part of it. -/
theorem padded_of_writes {r : Reading}
    (exists_writes : ∃ t, Writes t r ∧ skipBlanks s = t ++ rest) :
    ∃ u, Padded u r ∧ s = u ++ skipBlanks rest := by
  obtain ⟨t, writes, start⟩ := exists_writes
  obtain ⟨b, blanks, same⟩ := exists_blanks s
  obtain ⟨after, blanksAfter, sameAfter⟩ := exists_blanks rest
  refine ⟨_, .intro blanks writes blanksAfter, ?_⟩
  rw [same, start]
  simpa using sameAfter

theorem writesMember_of_padded {inside left more t : Text} {pieces : List Piece} {item : Reading}
    (start : skipBlanks s = '"' :: inside) (nameFound : Quoted.body inside = some (pieces, left))
    (colon : skipBlanks left = ':' :: (t ++ more)) (isItem : Padded t item) :
    ∃ u, WritesMember u ((Quoted.spell pieces).elim .meaningless .text, item) ∧ s = u ++ more := by
  obtain ⟨b, blanks, same⟩ := exists_blanks s
  obtain ⟨after, blanksAfter, sameAfter⟩ := exists_blanks left
  obtain ⟨name, isName, rfl⟩ := Quoted.exists_of_body nameFound
  refine ⟨_, .intro blanks isName blanksAfter isItem, ?_⟩
  rw [same, start, sameAfter, colon]
  simp

/-! The induction is on the fuel of the reader. What a fault has cut off is never grammatical to its
end, so nothing has to be said of it. -/

mutual

theorem padded_of_value : ∀ (fuel : Nat) {s rest : Text} {r : Reading},
    value fuel s = (r, rest) → r.isGrammatical = true → ∃ u, Padded u r ∧ s = u ++ skipBlanks rest
  | 0, _, _, _, found, grammatical => by
    obtain ⟨rfl, rfl⟩ := Prod.mk.inj found
    cases grammatical
  | fuel + 1, s, rest, r, found, grammatical => by
    apply padded_of_writes
    unfold value at found
    split at found
    · rename_i inside start
      rw [start]
      split at found
      · rename_i ends
        obtain ⟨rfl, rfl⟩ := Prod.mk.inj found
        obtain ⟨b, blanks, same⟩ := exists_blanks inside
        exact ⟨_, .noItems blanks, by simpa [ends] using same⟩
      · rcases reads : Reading.items fuel inside with ⟨items, closed, left⟩
        rw [reads] at found
        cases found
        obtain ⟨grammaticalItems, rfl⟩ := Bool.and_eq_true_iff.1 grammatical
        obtain ⟨t, areItems, rfl⟩ := writesItems_of_items fuel reads grammaticalItems
        exact ⟨_, .list areItems, by simp⟩
    · rename_i inside start
      rw [start]
      split at found
      · rename_i ends
        obtain ⟨rfl, rfl⟩ := Prod.mk.inj found
        obtain ⟨b, blanks, same⟩ := exists_blanks inside
        exact ⟨_, .noMembers blanks, by simpa [ends] using same⟩
      · rcases reads : members fuel inside with ⟨pairs, closed, left⟩
        rw [reads] at found
        cases found
        obtain ⟨grammaticalMembers, rfl⟩ := Bool.and_eq_true_iff.1 grammatical
        obtain ⟨t, areMembers, rfl⟩ := writesMembers_of_members fuel reads grammaticalMembers
        exact ⟨_, .object areMembers, by simp⟩
    · rename_i inside start
      rw [start]
      exact exists_of_quoted found grammatical
    · rename_i inside start
      obtain ⟨rfl, same⟩ := exists_of_word rfl found grammatical
      exact ⟨_, .null, start.trans same⟩
    · rename_i inside start
      obtain ⟨rfl, same⟩ := exists_of_word rfl found grammatical
      exact ⟨_, .yes, start.trans same⟩
    · rename_i inside start
      obtain ⟨rfl, same⟩ := exists_of_word rfl found grammatical
      exact ⟨_, .no, start.trans same⟩
    · exact exists_of_number found grammatical

theorem writesItems_of_items : ∀ (fuel : Nat) {s rest : Text} {items : List Reading},
    Reading.items fuel s = (items, true, rest) → areGrammatical items = true →
    ∃ t, WritesItems t items ∧ s = t ++ ']' :: rest
  | 0, _, _, _, found, _ => nomatch found
  | fuel + 1, s, rest, items, found, grammatical => by
    unfold Reading.items at found
    split at found
    rename_i item left itemFound
    split at found
    · rename_i ends
      cases found
      obtain ⟨grammatical, -⟩ := Bool.and_eq_true_iff.1 grammatical
      obtain ⟨t, isItem, same⟩ := padded_of_value fuel itemFound grammatical
      exact ⟨t, .last isItem, by rw [same, ends]⟩
    · rename_i next ends
      rcases reads : Reading.items fuel next with ⟨more, closed, left⟩
      rw [reads] at found
      cases found
      obtain ⟨grammatical, grammaticalMore⟩ := Bool.and_eq_true_iff.1 grammatical
      obtain ⟨t, isItem, same⟩ := padded_of_value fuel itemFound grammatical
      obtain ⟨u, areItems, rfl⟩ := writesItems_of_items fuel reads grammaticalMore
      exact ⟨_, .more isItem areItems, by simp [same, ends]⟩
    · cases found

theorem writesMembers_of_members : ∀ (fuel : Nat) {s rest : Text}
    {pairs : List (Name × Reading)}, members fuel s = (pairs, true, rest) →
    membersGrammatical pairs = true → ∃ t, WritesMembers t pairs ∧ s = t ++ '\x7d' :: rest
  | 0, _, _, _, found, _ => nomatch found
  | fuel + 1, s, rest, pairs, found, grammatical => by
    unfold members at found
    split at found
    · rename_i inside start
      split at found
      · cases found
      · rename_i pieces left nameFound
        split at found
        · rename_i content colon
          split at found
          rename_i item behind itemFound
          split at found
          · rename_i ends
            cases found
            obtain ⟨grammatical, -⟩ := Bool.and_eq_true_iff.1 grammatical
            obtain ⟨t, isItem, rfl⟩ := padded_of_value fuel itemFound grammatical
            obtain ⟨u, isMember, same⟩ := writesMember_of_padded start nameFound colon isItem
            exact ⟨u, .last isMember, by rw [same, ends]⟩
          · rename_i next ends
            rcases reads : members fuel next with ⟨more, closed, left⟩
            rw [reads] at found
            cases found
            obtain ⟨grammatical, grammaticalMore⟩ := Bool.and_eq_true_iff.1 grammatical
            obtain ⟨t, isItem, rfl⟩ := padded_of_value fuel itemFound grammatical
            obtain ⟨u, isMember, same⟩ := writesMember_of_padded start nameFound colon isItem
            obtain ⟨v, areMembers, rfl⟩ := writesMembers_of_members fuel reads grammaticalMore
            exact ⟨_, .more isMember areMembers, by simp [same, ends]⟩
          · cases found
        · cases found
    · cases found

end

/-- A text that is read to its end is a written value. -/
theorem padded_of_ofText {r : Reading} {after : Text} (found : ofText s = (r, after))
    (grammatical : r.isGrammatical = true) (ends : skipBlanks after = []) : Padded s r := by
  obtain ⟨t, padded, same⟩ := padded_of_value _ found grammatical
  rwa [same, ends, List.append_nil]

/-- **The grammar is what is read to the end of a text.** -/
theorem padded_iff {r : Reading} :
    Padded s r ↔ r.isGrammatical = true ∧ ∃ after, ofText s = (r, after) ∧ skipBlanks after = [] :=
  ⟨fun padded => ⟨padded.isGrammatical, ofText_of_padded padded⟩,
    fun ⟨grammatical, _, found, ends⟩ => padded_of_ofText found grammatical ends⟩

/-! ## Deciding what a text says -/

mutual

/-- Whether two readings are the same, by recursion through lists and objects. -/
def same : Reading → Reading → Bool
  | .unreadable, .unreadable | .meaningless, .meaningless | .null, .null => true
  | .bool a, .bool b => a == b
  | .int a, .int b => a == b
  | .float a, .float b => a == b
  | .str a, .str b => a == b
  | .arr as closed, .arr bs closed' => closed == closed' && sameItems as bs
  | .obj as closed, .obj bs closed' => closed == closed' && sameMembers as bs
  | _, _ => false

def sameItems : List Reading → List Reading → Bool
  | [], [] => true
  | a :: as, b :: bs => same a b && sameItems as bs
  | _, _ => false

def sameMembers : List (Name × Reading) → List (Name × Reading) → Bool
  | [], [] => true
  | (name, a) :: as, (name', b) :: bs => name == name' && same a b && sameMembers as bs
  | _, _ => false

end

mutual

theorem same_iff : ∀ a b : Reading, same a b = true ↔ a = b
  | .unreadable, b | .meaningless, b | .null, b => by cases b <;> simp [same]
  | .bool _, b | .int _, b | .float _, b | .str _, b => by cases b <;> simp [same]
  | .arr as _, b => by cases b <;> simp [same, sameItems_iff as, and_comm]
  | .obj as _, b => by cases b <;> simp [same, sameMembers_iff as, and_comm]

theorem sameItems_iff : ∀ as bs : List Reading, sameItems as bs = true ↔ as = bs
  | [], bs => by cases bs <;> simp [sameItems]
  | a :: as, bs => by cases bs <;> simp [sameItems, same_iff a, sameItems_iff as]

theorem sameMembers_iff : ∀ as bs : List (Name × Reading), sameMembers as bs = true ↔ as = bs
  | [], bs => by cases bs <;> simp [sameMembers]
  | (name, a) :: as, bs => by
    cases bs <;>
      simp [sameMembers, same_iff a, sameMembers_iff as, Prod.ext_iff]

end

instance : DecidableEq Reading := fun _ _ => decidable_of_iff _ (same_iff _ _)

end Reading

/-- Whether a text is a written form of a value can be seen by reading it. -/
instance (s : Text) (r : Reading) : Decidable (Padded s r) :=
  decidable_of_iff (r.isGrammatical = true ∧ (Reading.ofText s).1 = r ∧
      Reading.skipBlanks (Reading.ofText s).2 = []) <| by
    rw [Reading.padded_iff]
    refine and_congr_right fun _ => ⟨fun ⟨isReading, ends⟩ => ⟨_, Prod.ext isReading rfl, ends⟩, ?_⟩
    rintro ⟨after, found, ends⟩
    rw [found]
    exact ⟨rfl, ends⟩

end TextSync.Json
