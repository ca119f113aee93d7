import TextSync.Binary64

/-!
The fewest decimal digits that read back as a given number, and of those the nearest to it.

A number stands for all reals that round to it: half a unit to either side, a quarter below where
the unit changes, the ends included when the mantissa is even. For 1, 2, … 17 digits the two
neighbours of the number on that decimal grid are tried. The first grid with a neighbour inside
gives the digits.
-/

namespace TextSync.Binary64

/-- Digits without trailing zeros, and the power of ten of the first one. -/
structure Decimal where
  digits : List Char
  exponent : Int
deriving DecidableEq, Repr

/-- The reals that round to a magnitude, as numerators over one denominator. -/
structure Interval where
  low : Nat
  value : Nat
  high : Nat
  denominator : Nat
  closed : Bool

/-- In quarters of the unit, so that every end is a whole number. -/
def interval (magnitude : Nat) : Interval :=
  let m := mantissa magnitude
  let narrow := m = hidden ∧ 2 * hidden ≤ magnitude
  let (one, denominator) := scaled 1 4 (exponent magnitude)
  { low := (if narrow then 4 * m - 1 else 4 * m - 2) * one
    value := 4 * m * one
    high := (4 * m + 2) * one
    denominator
    closed := m % 2 = 0 }

/-- Whether the ratio of `a` and `b` lies in the interval. -/
def Interval.holds (i : Interval) (a b : Nat) : Bool :=
  if i.closed then i.low * b ≤ a * i.denominator && a * i.denominator ≤ i.high * b
  else i.low * b < a * i.denominator && a * i.denominator < i.high * b

/-- The power of ten of the first digit of a ratio that is not zero. -/
def leadingExponent (a b : Nat) : Int :=
  if b ≤ a then (Nat.toDigits 10 (a / b)).length - 1
  else -(Nat.toDigits 10 ((b + a - 1) / a - 1)).length

/-- The neighbour on the grid of step `10 ^ step` that lies inside and nearest, an even one on
a tie. -/
def Interval.onGrid (i : Interval) (step : Int) : Option Nat :=
  let up := Nat.pow 10 (-step).toNat
  let down := Nat.pow 10 step.toNat
  let scaledValue := i.value * up
  let unit := i.denominator * down
  let floor := scaledValue / unit
  let inside (n : Nat) := i.holds (n * down) up
  let rest := 2 * (scaledValue - floor * unit)
  let preferUpper := unit < rest || unit == rest && floor % 2 == 1
  match inside floor, inside (floor + 1) with
  | true, true => some (if preferUpper then floor + 1 else floor)
  | true, false => some floor
  | false, true => some (floor + 1)
  | false, false => none

/-- Digits up to the last that is not zero. -/
def trimZeros (digits : List Char) : List Char :=
  (digits.reverse.dropWhile (· == '0')).reverse

/-- The digits of a magnitude that is not zero. -/
def shortest (magnitude : Nat) : Decimal :=
  let i := interval magnitude
  let top := leadingExponent i.value i.denominator
  let tries := (List.range 17).map fun (n : Nat) => top - (n : Int)
  match tries.findSome? fun step => (i.onGrid step).map (·, step) with
  | some (n, step) =>
    let digits := Nat.toDigits 10 n
    ⟨trimZeros digits, step + digits.length - 1⟩
  | none => ⟨['0'], 0⟩

end TextSync.Binary64
