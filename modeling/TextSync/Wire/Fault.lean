import TextSync.Json.Printer
import TextSync.Json.Reading
import TextSync.Text.Display

/-!
Why a reading is not the message it should be. A fault of the text itself, and a value without a
meaning, is `malformed` and says no more; the other faults name what they found and what they
expected.
-/

namespace TextSync.Wire

open Json (Reading)

/-- What stands where something else was expected. -/
inductive Found where
  | null
  | bool (value : Bool)
  | int (value : Int)
  | float (value : Binary64)
  | text (value : Text)
  | list
  | object
deriving DecidableEq, Repr

/-- What was found, in the words of a fault. -/
def Found.describe : Found → String
  | .null => "null"
  | .bool value => s!"boolean `{value}`"
  | .int value => s!"integer `{value}`"
  | .float value => s!"floating point `{String.ofList (Json.printFloat value)}`"
  | .text value => s!"string {value.display}"
  | .list => "sequence"
  | .object => "map"

/-- Why a reading is not the message it should be: an `Error` of `serde_json`, without its place in
the text. -/
inductive Fault where
  | malformed
  | wrongType (found : Found) (expected : String)
  | outOfRange (value : Int) (expected : String)
  | notOneMember
  | wrongLength (length : Nat) (expected : String)
  | missing (field : String)
  | duplicate (field : String)
  | unknownVariant (name : Text) (known : List String)
deriving DecidableEq, Repr

/-- What to tell of a fault, nothing for a malformed text. -/
def Fault.message? : Fault → Option String
  | .malformed => none
  | .wrongType found expected => s!"invalid type: {found.describe}, expected {expected}"
  | .outOfRange value expected => s!"invalid value: integer `{value}`, expected {expected}"
  | .notOneMember => "invalid value: map, expected map with a single key"
  | .wrongLength length expected => s!"invalid length {length}, expected {expected}"
  | .missing field => s!"missing field `{field}`"
  | .duplicate field => s!"duplicate field `{field}`"
  | .unknownVariant name known =>
    let choices := ", ".intercalate (known.map fun choice => s!"`{choice}`")
    s!"unknown variant `{String.ofList name}`, expected one of {choices}"

/-- The fault of a reading that is not of the expected type. -/
def wrong (expected : String) : Reading → Fault
  | .unreadable | .meaningless => .malformed
  | .null => .wrongType .null expected
  | .bool value => .wrongType (.bool value) expected
  | .int value => .wrongType (.int value) expected
  | .float value => .wrongType (.float value) expected
  | .str value => .wrongType (.text value) expected
  | .arr _ _ => .wrongType .list expected
  | .obj _ _ => .wrongType .object expected

/-- Where a reading comes from: straight from a text, from a part of a text that was held back
until its meaning was known, or from a value that was complete from the start. -/
inductive Form where
  | text
  | held
  | whole
deriving DecidableEq, Repr

/-- More items than the `wanted` ones that were taken. A text is then at fault where the list
should end; otherwise the length of the list is known and told. -/
def tooLong (length wanted : Nat) : Form → Fault
  | .text => .malformed
  | .held =>
    if wanted = 1 then .wrongLength length "1 element in sequence"
    else .wrongLength length s!"{wanted} elements in sequence"
  | .whole => .wrongLength length "fewer elements in array"

end TextSync.Wire
