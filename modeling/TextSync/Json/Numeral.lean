import TextSync.Json

/-!
Numbers as they are written: a sign, whole digits without a leading zero, a fraction and an
exponent.

A number written with whole digits alone is a whole number if it fits a word of 64 bits, unsigned
or, below zero, signed; minus zero and whatever does not fit are floating point numbers. Those
gather digits, first the whole ones, then those of the fraction, as long as the number gathered
fits an unsigned word. A whole digit left over counts as a power of ten, one of the fraction is
dropped.
-/

namespace TextSync.Json

/-- A written number. The exponent is absent, or its digits with the direction. -/
structure Numeral where
  negative : Bool
  whole : List Char
  fraction : List Char
  exponent : Option (Bool × List Char)
deriving DecidableEq, Repr

namespace Numeral

/-- A decimal digit of the plain alphabet. -/
def isDigit (c : Char) : Bool := '0' ≤ c && c ≤ '9'

/-- The value of a digit. -/
def digit (c : Char) : Nat := c.toNat - '0'.toNat

/-- At least one digit, and what follows the last. -/
def someDigits (s : Text) : Option (List Char × Text) :=
  if (s.takeWhile isDigit).isEmpty then none else some (s.span isDigit)

/-- The whole part: a zero on its own or digits that start with another. -/
def readWhole (s : Text) : Option (List Char × Text) :=
  match someDigits s with
  | some ('0' :: _ :: _, _) => none
  | found => found

/-- A point with at least one digit after it, or no fraction. -/
def readFraction : Text → Option (List Char × Text)
  | '.' :: rest => someDigits rest
  | s => some ([], s)

/-- The mark of an exponent with a sign or none and at least one digit, or no exponent. -/
def readExponent : Text → Option (Option (Bool × List Char) × Text)
  | c :: rest =>
    if c = 'e' ∨ c = 'E' then
      let (downward, digits) :=
        match rest with
        | '+' :: after => (false, after)
        | '-' :: after => (true, after)
        | after => (false, after)
      (someDigits digits).map fun (found, after) => (some (downward, found), after)
    else some (none, c :: rest)
  | [] => some (none, [])

/-- Reads a number from the front of a text, none when there is none. -/
def read (s : Text) : Option (Numeral × Text) := do
  let (negative, s) := match s with
    | '-' :: rest => (true, rest)
    | s => (false, s)
  let (whole, s) ← readWhole s
  let (fraction, s) ← readFraction s
  let (exponent, s) ← readExponent s
  return (⟨negative, whole, fraction, exponent⟩, s)

/-- The value of the leading digits as long as it fits an unsigned word, and the digits left. -/
def gather (value : Nat) : List Char → Nat × List Char
  | [] => (value, [])
  | c :: rest =>
    if 10 * value + digit c ≤ maxOffset then gather (10 * value + digit c) rest
    else (value, c :: rest)

/-- Digits read as a natural number. -/
def natural (digits : List Char) : Nat := digits.foldl (fun n c => 10 * n + digit c) 0

/-- A power of ten that is a floating point number, as its magnitude. -/
def powerOfTen (n : Nat) : Nat := (Binary64.nearest (Nat.pow 10 n) 1).getD 0

/-- A magnitude divided by `10 ^ n`, in steps of at most `10 ^ 308`. -/
def lower (magnitude n : Nat) : Nat :=
  if n ≤ 308 then (Binary64.divide magnitude (powerOfTen n)).getD 0
  else if magnitude = 0 then 0
  else lower ((Binary64.divide magnitude (powerOfTen 308)).getD 0) (n - 308)
termination_by n
decreasing_by omega

/-- The magnitude of `significand * 10 ^ power`, none when that is not finite. -/
def scale (significand : Nat) (power : Int) : Option Nat :=
  let magnitude := (Binary64.nearest significand 1).getD 0
  if power < 0 then some (lower magnitude power.natAbs)
  else if power ≤ 308 then Binary64.multiply magnitude (powerOfTen power.natAbs)
  else if magnitude = 0 then some 0 else none

/-- The power of ten that the exponent part adds. -/
def shift (n : Numeral) : Int :=
  match n.exponent with
  | none => 0
  | some (downward, digits) => if downward then -(natural digits) else natural digits

/-- The value of a written number, none when it is too large for a floating point number. -/
def value (n : Numeral) : Option Json :=
  let (head, wholeLeft) := gather 0 n.whole
  if n.fraction.isEmpty && n.exponent.isNone && wholeLeft.isEmpty then
    if !n.negative then some (.int head)
    else if head = 0 ∨ 0x8000000000000000 < head then
      some (.float ⟨true, (Binary64.nearest head 1).getD 0⟩)
    else some (.int (-head))
  else
    let (significand, fractionLeft) := gather head n.fraction
    let taken := n.fraction.length - fractionLeft.length
    (scale significand (wholeLeft.length - taken + n.shift)).map fun magnitude =>
      .float ⟨n.negative, magnitude⟩

end Numeral
end TextSync.Json
