import TextSync.Text

/-!
Text between quotes. Writing escapes the quote, the backslash and the characters below the space,
and leaves every other character as it is. Reading knows more escapes: any character may be given
by the number of its UTF-16 unit, one beyond the first plane by two such units in a row.

A body whose units do not pair up is well formed all the same: only those who want its text are
turned away.
-/

namespace TextSync.Json

/-- One element of a quoted body: a character as it is, or a UTF-16 unit by number. -/
inductive Piece where
  | char (c : Char)
  | unit (n : Nat)
deriving DecidableEq, Repr

namespace Quoted

/-- A hexadecimal digit as it is written, in lower case. -/
def hexDigit (n : Nat) : Char := Char.ofNat (if n < 10 then n + 48 else n + 87)

/-- How one character is written. -/
def escape (c : Char) : Text :=
  if c = '"' then ['\\', '"']
  else if c = '\\' then ['\\', '\\']
  else if c = '\x08' then ['\\', 'b']
  else if c = '\x0c' then ['\\', 'f']
  else if c = '\n' then ['\\', 'n']
  else if c = '\r' then ['\\', 'r']
  else if c = '\t' then ['\\', 't']
  else if c.toNat < 32 then ['\\', 'u', '0', '0', hexDigit (c.toNat / 16), hexDigit (c.toNat % 16)]
  else [c]

/-- A text between quotes, every character escaped that has to be. -/
def write (text : Text) : Text := '"' :: text.flatMap escape ++ ['"']

/-- The value of a hexadecimal digit in either case. -/
def hexValue (c : Char) : Option Nat :=
  if '0' ≤ c ∧ c ≤ '9' then some (c.toNat - 48)
  else if 'a' ≤ c ∧ c ≤ 'f' then some (c.toNat - 87)
  else if 'A' ≤ c ∧ c ≤ 'F' then some (c.toNat - 55)
  else none

/-- The unit that four hexadecimal digits give. -/
def hexUnit (a b c d : Char) : Option Nat := do
  let a ← hexValue a
  let b ← hexValue b
  let c ← hexValue c
  let d ← hexValue d
  return ((a * 16 + b) * 16 + c) * 16 + d

/-- The character a single letter stands for after a backslash. -/
def unescape (c : Char) : Option Char :=
  if c = '"' ∨ c = '\\' ∨ c = '/' then some c
  else if c = 'b' then some '\x08'
  else if c = 'f' then some '\x0c'
  else if c = 'n' then some '\n'
  else if c = 'r' then some '\r'
  else if c = 't' then some '\t'
  else none

/-- Reads a body up to the closing quote: its pieces and what follows. -/
def body : Text → Option (List Piece × Text)
  | [] => none
  | '"' :: rest => some ([], rest)
  | '\\' :: 'u' :: a :: b :: c :: d :: rest => do
    let unit ← hexUnit a b c d
    let (pieces, after) ← body rest
    return (.unit unit :: pieces, after)
  | '\\' :: c :: rest => do
    let c ← unescape c
    let (pieces, after) ← body rest
    return (.char c :: pieces, after)
  | c :: rest => do
    if c.toNat < 32 then none
    let (pieces, after) ← body rest
    return (.char c :: pieces, after)

/-- Whether a unit is the first half of a pair. -/
def isHigh (unit : Nat) : Bool := 0xD800 ≤ unit && unit < 0xDC00

/-- Whether a unit is the second half of a pair. -/
def isLow (unit : Nat) : Bool := 0xDC00 ≤ unit && unit < 0xE000

/-- The text that pieces spell, none when a half of a pair stands alone. -/
def spell : List Piece → Option Text
  | [] => some []
  | .char c :: rest => (spell rest).map (c :: ·)
  | .unit high :: .unit low :: rest =>
    if isHigh high then
      if isLow low then
        (spell rest).map (Char.ofNat (0x10000 + (high - 0xD800) * 0x400 + (low - 0xDC00)) :: ·)
      else none
    else if isLow high then none
    else (spell (.unit low :: rest)).map (Char.ofNat high :: ·)
  | .unit unit :: rest =>
    if isHigh unit || isLow unit then none else (spell rest).map (Char.ofNat unit :: ·)

end Quoted
end TextSync.Json
