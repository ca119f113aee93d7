import Mathlib.Data.List.TakeDrop
import Mathlib.Data.Nat.Digits.Defs
import TextSync.Json.Printer
import TextSync.Json.Reading

/-!
# Written numbers

A number is written as a sign, digits, a fraction and an exponent (`Writes`), and is read wherever
it stands, as long as what follows does not go on with it (`read_of_writes`).

A whole number is printed with all its digits (`writes_printInt`), and what is gathered of them is
the number as long as it fits a word (`value_printInt`).
-/

namespace TextSync.Json

/-- Whether a whole number fits a word of 64 bits, signed or unsigned. -/
def FitsWord (n : Int) : Prop := -0x8000000000000000 ≤ n ∧ n ≤ maxOffset

instance (n : Int) : Decidable (FitsWord n) := inferInstanceAs (Decidable (_ ∧ _))

theorem fitsWord_ofNat {n : Nat} : FitsWord n ↔ n ≤ maxOffset := by
  unfold FitsWord maxOffset
  omega

namespace Numeral

/-! ## Digits -/

theorem isDigit_of_isDigit {c : Char} (digit : c.isDigit = true) : isDigit c = true := by
  simpa [isDigit, Char.isDigit, Char.le_def] using digit

theorem digit_digitChar {d : Nat} (small : d < 10) : digit (Nat.digitChar d) = d := by
  unfold digit
  rw [Nat.toNat_digitChar_of_lt_ten small]
  exact Nat.add_sub_cancel_left 48 d

theorem isDigit_of_mem_toDigits {n : Nat} {c : Char} (member : c ∈ Nat.toDigits 10 n) :
    isDigit c = true :=
  isDigit_of_isDigit (Nat.isDigit_of_mem_toDigits (by decide) (by decide) member)

/-- All digits but the last are those of the tenth part. -/
theorem toDigits_of_le {n : Nat} (large : 10 ≤ n) :
    Nat.toDigits 10 n = Nat.toDigits 10 (n / 10) ++ [Nat.digitChar (n % 10)] :=
  Nat.toDigits_of_base_le (by decide) large

/-- The first digit of a number is a zero only if it is the only one. -/
theorem toDigits_ne_zero_cons (n : Nat) (c : Char) (rest : List Char) :
    Nat.toDigits 10 n ≠ '0' :: c :: rest := by
  induction n using Nat.strong_induction_on generalizing c rest with
  | _ n ih =>
    intro same
    by_cases small : n < 10
    · rw [Nat.toDigits_of_lt_base small] at same
      exact absurd (congrArg List.length same) (by simp)
    · rw [toDigits_of_le (by omega)] at same
      have positive : 0 < n / 10 := by omega
      match front : Nat.toDigits 10 (n / 10) with
      | [] => exact Nat.toDigits_ne_nil front
      | [first] =>
        -- The tenth part has one digit, so it is that digit, which is no zero.
        rw [front] at same
        obtain ⟨rfl, -⟩ := List.cons.inj same
        have value : Nat.ofDigitChars 10 ['0'] 0 = n / 10 := by
          rw [← front]
          exact Nat.ofDigitChars_ten_toDigits
        have zero : n / 10 = 0 := value.symm
        omega
      | first :: second :: more =>
        rw [front] at same
        obtain ⟨rfl, -⟩ := List.cons.inj same
        exact ih (n / 10) (by omega) second more front

/-- Reading gathers the digits of a number that fits, and goes on with what follows them. -/
theorem gather_toDigits {n : Nat} (fits : n ≤ maxOffset) (rest : List Char) :
    gather 0 (Nat.toDigits 10 n ++ rest) = gather n rest := by
  induction n using Nat.strong_induction_on generalizing rest with
  | _ n ih =>
    have last : digit (Nat.digitChar (n % 10)) = n % 10 := digit_digitChar (by omega)
    by_cases small : n < 10
    · rw [Nat.mod_eq_of_lt small] at last
      rw [Nat.toDigits_of_lt_base small]
      simp [gather, last, fits]
    · have value : 10 * (n / 10) + n % 10 = n := by omega
      rw [toDigits_of_le (by omega), List.append_assoc, ih (n / 10) (by omega) (by omega)]
      simp [gather, last, value, fits]

/-! ## The written form -/

/-- At least one digit. -/
structure Digits (digits : List Char) : Prop where
  some : digits ≠ []
  all : ∀ c ∈ digits, isDigit c = true

/-- The digits of a whole part. A zero stands in front of no other digit. -/
structure Whole (digits : List Char) : Prop extends Digits digits where
  alone : ∀ rest, digits = '0' :: rest → rest = []

/-- A text for the digits of a fraction. -/
inductive Fraction : Text → List Char → Prop
  | absent : Fraction [] []
  | point {digits : List Char} (isDigits : Digits digits) : Fraction ('.' :: digits) digits

/-- A text that says whether an exponent goes downward. Upward need not be said. -/
inductive Direction : Text → Bool → Prop
  | unsaid : Direction [] false
  | upward : Direction ['+'] false
  | downward : Direction ['-'] true

/-- A text for an exponent. -/
inductive Exponent : Text → Option (Bool × List Char) → Prop
  | absent : Exponent [] none
  | marked {mark : Char} {d : Text} {downward : Bool} {digits : List Char}
    (isMark : mark = 'e' ∨ mark = 'E') (direction : Direction d downward)
    (isDigits : Digits digits) : Exponent (mark :: d ++ digits) (some (downward, digits))

def sign (negative : Bool) : Text := if negative then ['-'] else []

/-- A text that is a written number. -/
inductive Writes : Text → Numeral → Prop
  | intro (negative : Bool) {whole fraction : List Char} {exponent : Option (Bool × List Char)}
    {f x : Text} (isWhole : Whole whole) (isFraction : Fraction f fraction)
    (isExponent : Exponent x exponent) :
    Writes (sign negative ++ whole ++ f ++ x) ⟨negative, whole, fraction, exponent⟩

theorem whole_toDigits (n : Nat) : Whole (Nat.toDigits 10 n) where
  some := Nat.toDigits_ne_nil
  all _ := isDigit_of_mem_toDigits
  alone rest same := by
    cases rest with
    | nil => rfl
    | cons c rest => exact absurd same (toDigits_ne_zero_cons n c rest)

theorem writes_printInt (n : Int) :
    Writes (printInt n) ⟨decide (n < 0), Nat.toDigits 10 n.natAbs, [], none⟩ := by
  have written := Writes.intro (decide (n < 0)) (whole_toDigits n.natAbs) .absent .absent
  by_cases negative : n < 0
  · simpa [printInt, sign, negative] using written
  · simpa [printInt, sign, negative] using written

/-! ## Reading -/

/-- Whether a text does not go on with a number that ends before it. -/
def Ends (rest : Text) : Prop :=
  ∀ c ∈ rest.head?, isDigit c = false ∧ c ≠ '.' ∧ c ≠ 'e' ∧ c ≠ 'E'

variable {s rest : Text}

/-- All digits are taken if what follows is none. -/
theorem someDigits_append {digits : List Char} (isDigits : Digits digits)
    (stops : ∀ c ∈ rest.head?, isDigit c = false) :
    someDigits (digits ++ rest) = some (digits, rest) := by
  have takes : (digits ++ rest).takeWhile isDigit = digits := by
    rw [List.takeWhile_append_of_pos isDigits.all]
    cases rest with
    | nil => simp
    | cons c rest => simp [stops c rfl]
  have drops : (digits ++ rest).dropWhile isDigit = rest := by
    rw [List.dropWhile_append_of_pos isDigits.all]
    cases rest with
    | nil => rfl
    | cons c rest => simp [stops c rfl]
  unfold someDigits
  rw [List.span_eq_takeWhile_dropWhile, takes, drops]
  simp [isDigits.some]

theorem readWhole_append {digits : List Char} (isWhole : Whole digits)
    (stops : ∀ c ∈ rest.head?, isDigit c = false) :
    readWhole (digits ++ rest) = some (digits, rest) := by
  unfold readWhole
  rw [someDigits_append isWhole.toDigits stops]
  split
  · rename_i same
    simp only [Option.some.injEq, Prod.mk.injEq] at same
    exact absurd (isWhole.alone _ same.1) (List.cons_ne_nil _ _)
  · rfl

theorem readFraction_append {f : Text} {digits : List Char} (isFraction : Fraction f digits)
    (stops : ∀ c ∈ rest.head?, isDigit c = false ∧ c ≠ '.') :
    readFraction (f ++ rest) = some (digits, rest) := by
  cases isFraction with
  | absent =>
    rw [List.nil_append]
    unfold readFraction
    split
    · exact absurd rfl (stops '.' rfl).2
    · rfl
  | point isDigits => exact someDigits_append isDigits fun c first => (stops c first).1

/-- A digit is none of the signs that may stand before it. -/
theorem Digits.unsigned {digits tail : List Char} (isDigits : Digits digits) {c : Char}
    (sign : isDigit c = false) : digits ++ rest ≠ c :: tail := by
  intro same
  obtain ⟨first, more, rfl⟩ := List.exists_cons_of_ne_nil isDigits.some
  obtain ⟨rfl, -⟩ := List.cons.inj same
  have digit := isDigits.all first List.mem_cons_self
  rw [sign] at digit
  cases digit

theorem readExponent_append {x : Text} {exponent : Option (Bool × List Char)}
    (isExponent : Exponent x exponent) (ends : Ends rest) :
    readExponent (x ++ rest) = some (exponent, rest) := by
  have stops : ∀ c ∈ rest.head?, isDigit c = false := fun c first => (ends c first).1
  cases isExponent with
  | absent =>
    unfold readExponent
    cases rest with
    | nil => rfl
    | cons c rest =>
      obtain ⟨-, -, lower, upper⟩ := ends c rfl
      simp [lower, upper]
  | @marked mark d downward digits isMark direction isDigits =>
    have digitsRead := someDigits_append isDigits stops
    cases direction with
    | unsaid =>
      -- The reader looks for either sign first.
      have noPlus (tail : Text) : digits ++ rest ≠ '+' :: tail := isDigits.unsigned rfl
      have noMinus (tail : Text) : digits ++ rest ≠ '-' :: tail := isDigits.unsigned rfl
      simp [readExponent, isMark, digitsRead]
    | upward | downward => simp [readExponent, isMark, digitsRead]

/-- **A written number is read** wherever it stands, as long as the text does not go on with it. -/
theorem read_of_writes {n : Numeral} (writes : Writes s n) (ends : Ends rest) :
    read (s ++ rest) = some (n, rest) := by
  obtain ⟨negative, isWhole, isFraction, isExponent⟩ := writes
  rename_i whole fraction exponent f x
  have afterFraction : ∀ c ∈ (x ++ rest).head?, isDigit c = false ∧ c ≠ '.' := by
    cases isExponent with
    | absent => exact fun c first => ⟨(ends c first).1, (ends c first).2.1⟩
    | marked isMark =>
      rintro c ⟨⟩
      obtain rfl | rfl := isMark <;> decide
  have afterWhole : ∀ c ∈ (f ++ (x ++ rest)).head?, isDigit c = false := by
    cases isFraction with
    | absent => exact fun c first => (afterFraction c first).1
    | point =>
      rintro c ⟨⟩
      decide
  have exponentRead := readExponent_append isExponent ends
  have fractionRead := readFraction_append isFraction afterFraction
  have wholeRead := readWhole_append isWhole afterWhole
  cases negative with
  | true => simp [read, sign, wholeRead, fractionRead, exponentRead]
  | false =>
    have unsigned (tail : Text) : whole ++ (f ++ (x ++ rest)) ≠ '-' :: tail :=
      isWhole.toDigits.unsigned rfl
    have same : sign false ++ whole ++ f ++ x ++ rest = whole ++ (f ++ (x ++ rest)) := by
      simp [sign]
    rw [same]
    simp [read, wholeRead, fractionRead, exponentRead]

/-! ## Whole numbers -/

/-- **A whole number that fits a word is the value of its digits.** -/
theorem value_printInt {n : Int} (fits : FitsWord n) :
    value ⟨decide (n < 0), Nat.toDigits 10 n.natAbs, [], none⟩ = some (.int n) := by
  unfold FitsWord at fits
  have gathered : gather 0 (Nat.toDigits 10 n.natAbs) = (n.natAbs, []) := by
    have all := gather_toDigits (n := n.natAbs) (by unfold maxOffset at *; omega) []
    simpa [gather] using all
  unfold value
  rw [gathered]
  by_cases negative : n < 0
  · have nonzero : n.natAbs ≠ 0 := by omega
    have small : ¬ 0x8000000000000000 < n.natAbs := by omega
    simp [negative, nonzero, small, abs_of_neg negative]
  · have back : |n| = n := abs_of_nonneg (by omega)
    simp [negative, back]

end Numeral
end TextSync.Json
