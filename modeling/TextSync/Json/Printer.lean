import TextSync.Binary64.Shortest
import TextSync.Json
import TextSync.Json.Quoted

/-!
The written form of a value: no spaces, members in their order. A floating point number is given
by the fewest digits that read back, with a point and at least one digit after it from `0.00001`
to below `1e16`, with an exponent that always has a sign outside.
-/

namespace TextSync.Json

def zeros (n : Nat) : Text := List.replicate n '0'

/-- A whole number, or the whole number and its fraction, with a point in place. -/
def plain (digits : List Char) (exponent : Int) : Text :=
  if exponent < 0 then '0' :: '.' :: (zeros (exponent.natAbs - 1) ++ digits)
  else
    let whole := exponent.natAbs + 1
    if digits.length ≤ whole then digits ++ zeros (whole - digits.length) ++ ['.', '0']
    else digits.take whole ++ '.' :: digits.drop whole

/-- One digit before the point, which only further digits bring about. -/
def scientific (digits : List Char) (exponent : Int) : Text :=
  let mark := if exponent < 0 then ['e', '-'] else ['e', '+']
  let fraction := if digits.length ≤ 1 then [] else '.' :: digits.drop 1
  digits.take 1 ++ fraction ++ mark ++ Nat.toDigits 10 exponent.natAbs

/-- A magnitude in digits: zero with its fraction, plain where the exponent is small, else with
one. -/
def printMagnitude (magnitude : Nat) : Text :=
  if magnitude = 0 then ['0', '.', '0']
  else
    let decimal := Binary64.shortest magnitude
    if -5 ≤ decimal.exponent ∧ decimal.exponent ≤ 15 then plain decimal.digits decimal.exponent
    else scientific decimal.digits decimal.exponent

/-- A floating point number with its sign. -/
def printFloat (x : Binary64) : Text :=
  if x.negative then '-' :: printMagnitude x.magnitude else printMagnitude x.magnitude

/-- A whole number with its sign. -/
def printInt (n : Int) : Text :=
  if n < 0 then '-' :: Nat.toDigits 10 n.natAbs else Nat.toDigits 10 n.natAbs

mutual

/-- A value as `to_string` writes it. -/
def print : Json → Text
  | .null => ['n', 'u', 'l', 'l']
  | .bool true => ['t', 'r', 'u', 'e']
  | .bool false => ['f', 'a', 'l', 's', 'e']
  | .int n => printInt n
  | .float x => printFloat x
  | .str s => Quoted.write s
  | .arr items => '[' :: printItems items ++ [']']
  | .obj members => '\x7b' :: printMembers members ++ ['\x7d']

/-- Items with commas between them. -/
def printItems : List Json → Text
  | [] => []
  | [item] => print item
  | item :: rest => print item ++ ',' :: printItems rest

/-- Members with commas between them, each a name, a colon and a value. -/
def printMembers : List (Text × Json) → Text
  | [] => []
  | [(name, value)] => Quoted.write name ++ ':' :: print value
  | (name, value) :: rest => Quoted.write name ++ ':' :: print value ++ ',' :: printMembers rest

end

/-- The written form as a string. -/
def render (value : Json) : String := .ofList value.print

end TextSync.Json
