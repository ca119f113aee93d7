/-!
Finite floating point numbers of 64 bits, kept as a sign and a magnitude word: 11 bits of
exponent above 52 bits of fraction. The arithmetic is exact arithmetic on ratios of naturals
followed by one rounding to the nearest word, an even one on a tie.
-/

namespace TextSync

/-- A number by its sign and its magnitude word. -/
structure Binary64 where
  negative : Bool
  magnitude : Nat
deriving DecidableEq, Repr

namespace Binary64

/-- The first magnitude word that is no longer finite. -/
def infinity : Nat := 0x7FF0000000000000

/-- The bit above those of the fraction: the lowest of the exponent, and the one that a mantissa
has without being written. -/
def hidden : Nat := 0x10000000000000

/-- A magnitude is `mantissa * 2 ^ exponent`. -/
def mantissa (magnitude : Nat) : Nat :=
  if magnitude < hidden then magnitude else magnitude % hidden + hidden

/-- The power of two that a mantissa is multiplied with. -/
def exponent (magnitude : Nat) : Int :=
  if magnitude < hidden then -1074 else (magnitude / hidden : Nat) - 1075

/-- The quotient of `a * 2 ^ power` and `b`, for a power of either sign. -/
def scaled (a b : Nat) (power : Int) : Nat × Nat :=
  (a * Nat.pow 2 power.toNat, b * Nat.pow 2 (-power).toNat)

/-- A magnitude as a ratio. -/
def ratio (magnitude : Nat) : Nat × Nat := scaled (mantissa magnitude) 1 (exponent magnitude)

/-- The whole number nearest to a ratio, the even one on a tie. -/
def halfEven (a b : Nat) : Nat :=
  let rest := 2 * (a % b)
  if b < rest ∨ b = rest ∧ a / b % 2 = 1 then a / b + 1 else a / b

/-- The magnitude nearest to the ratio of `a` and `b`, none when that is not finite. The unit is
chosen such that 53 bits stand before it, and never below the smallest one. A carry out of the
rounding moves into the exponent by itself. -/
def nearest (a b : Nat) : Option Nat :=
  if a = 0 then some 0
  else
    let guess : Int := (a.log2 : Int) - b.log2
    let below := scaled a b (-guess)
    let top := if below.2 ≤ below.1 then guess else guess - 1
    let unit := max (top - 52) (-1074)
    let counted := scaled a b (-unit)
    let word := (unit + 1074).toNat * hidden + halfEven counted.1 counted.2
    if word < infinity then some word else none

/-- The product of two magnitudes, rounded, none when that is not finite. -/
def multiply (x y : Nat) : Option Nat :=
  let (a, b) := ratio x
  let (c, d) := ratio y
  nearest (a * c) (b * d)

/-- The quotient of two magnitudes, rounded, none when that is not finite. -/
def divide (x y : Nat) : Option Nat :=
  let (a, b) := ratio x
  let (c, d) := ratio y
  nearest (a * d) (b * c)

end Binary64
end TextSync
