/-!
Text as the list of its characters. Every offset and every length in this library counts
characters, so no offset can fall inside one.
-/

namespace TextSync

/-- A text by its characters. As a string it is kept in bytes, and `byte_offset` counts the way to a
character. -/
abbrev Text := List Char

/-- Offsets and counts on the wire are unsigned and fit a word of 64 bits. -/
def maxOffset : Nat := 0xFFFFFFFFFFFFFFFF

/-- The sum of two offsets, held at the largest offset: the saturating sum of `shift_clamped`. -/
def addWithin (offset more : Nat) : Nat := min (offset + more) maxOffset

/-- The value of a 64 bit word read as a signed number, as the casts in `length_delta` read it: the
upper half counts down from zero. -/
def signed (word : Nat) : Int :=
  if word < 0x8000000000000000 then word else word - 0x10000000000000000

theorem signed_of_lt {word : Nat} (small : word < 0x8000000000000000) : signed word = word := by
  unfold signed
  rw [if_pos small]

end TextSync
