import TextSync.Wire.Fault

/-!
Decoders turn a reading into a value or tell why it is none. They go through the reading from left
to right, so the first fault in the text is the one that is told.
-/

namespace TextSync.Wire

open Json (Reading)

/-- A `Deserialize` of a type: what a reading comes to, or why to nothing. -/
abbrev Decoder (α : Type) := Form → Reading → Except Fault α

namespace Decoder

/-- A number without a sign that fits a word of 64 bits. -/
def unsigned (expected : String) : Decoder Nat
  | _, .int value => if value < 0 then .error (.outOfRange value expected) else .ok value.toNat
  | _, reading => .error (wrong expected reading)

/-- An offset or a count, a number that fits a word. -/
def offset : Decoder Nat := unsigned "usize"

/-- A quoted text. -/
def text : Decoder Text
  | _, .str value => .ok value
  | _, reading => .error (wrong "a string" reading)

/-- Nothing is written as null. -/
def optional {α : Type} (decode : Decoder α) : Decoder (Option α)
  | _, .null => .ok none
  | form, reading => (decode form reading).map some

/-- Every item in turn, then the end of the list. -/
def list {α : Type} (decode : Decoder α) : Decoder (List α)
  | form, .arr items closed => do
    let values ← items.mapM (decode form)
    if closed then return values else throw .malformed
  | _, reading => .error (wrong "a sequence" reading)

/-- Any value, below one list or object that is already open. -/
def json : Decoder Json := fun _ reading =>
  ((reading.toJson? (Json.nestingLimit - 1)).map .ok).getD (.error .malformed)

end Decoder

/-- Reads a whole text, which must hold nothing after its value (`from_str`). -/
def decodeText {α : Type} (decode : Decoder α) (s : Text) : Except Fault α := do
  let (reading, rest) := Reading.ofText s
  let value ← decode .text reading
  if (Reading.skipBlanks rest).isEmpty then return value else throw .malformed

/-- Reads a value that is there already. -/
def decodeJson {α : Type} (decode : Decoder α) (value : Json) : Except Fault α :=
  decode .whole value.reading

end TextSync.Wire
