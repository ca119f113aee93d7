import TextSync.Text
import TextSync.Text.Invisible

/-!
Text as it is shown to people: between quotes, on one line, every character that would not show
by itself given by its number.
-/

namespace TextSync.Text

/-- How one character is shown. -/
def displayChar (c : Char) : Text :=
  if c = '"' then ['\\', '"']
  else if c = '\\' then ['\\', '\\']
  else if c = '\n' then ['\\', 'n']
  else if c = '\r' then ['\\', 'r']
  else if c = '\t' then ['\\', 't']
  else if c = '\x00' then ['\\', '0']
  else if isInvisible c then '\\' :: 'u' :: '\x7b' :: Nat.toDigits 16 c.toNat ++ ['\x7d']
  else [c]

/-- Text as the `Debug` of a string shows it. -/
def display (text : Text) : String := .ofList ('"' :: text.flatMap displayChar ++ ['"'])

end TextSync.Text
