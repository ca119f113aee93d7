import TextSync.Text

/-!
White space: the blanks of the keyboard, the next line, and the spaces and separators of every
script.
-/

namespace TextSync.Text

/-- White space, as `str::trim` takes it off a line. -/
def isBlankChar (c : Char) : Bool :=
  let n := c.toNat
  0x09 ≤ n && n ≤ 0x0D || n == 0x20 || n == 0x85 || n == 0xA0 || n == 0x1680
    || 0x2000 ≤ n && n ≤ 0x200A || n == 0x2028 || n == 0x2029 || n == 0x202F || n == 0x205F
    || n == 0x3000

/-- Whether nothing of a text is left once it is trimmed. -/
def isBlank (s : Text) : Bool := s.all isBlankChar

end TextSync.Text
