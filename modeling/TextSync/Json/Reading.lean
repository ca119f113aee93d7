import TextSync.Json.Numeral
import TextSync.Json.Quoted

/-!
What can be read of a text that is meant to be a value. A reading goes as far as the text follows
the grammar and marks the place where it stops: `unreadable` stands for a value that is not there,
and a list of items or members that is not `closed` breaks off after the last of them. Whoever
goes through a reading from left to right meets the faults of the text in the order in which they
stand there.

Two kinds of value are grammatical and yet without a meaning: a number beyond every floating point
number, and a quoted text with half of a surrogate pair. Nothing in a reading says what they are,
so they can only be passed over.
-/

namespace TextSync.Json

/-- The name of a member. An absent one is no member at all: the object goes on with something that
is no name, the reading of which stands in the place of the member's value. -/
inductive Name where
  | text (name : Text)
  | meaningless
  | absent
deriving DecidableEq, Repr

/-- What a deserializer can learn from a text that is meant to be a value. -/
inductive Reading where
  | unreadable
  | meaningless
  | null
  | bool (value : Bool)
  | int (value : Int)
  | float (value : Binary64)
  | str (value : Text)
  | arr (items : List Reading) (closed : Bool)
  | obj (members : List (Name × Reading)) (closed : Bool)
deriving Repr

namespace Reading

/-- The blanks that may stand around a value. -/
def isBlank (c : Char) : Bool := c = ' ' || c = '\t' || c = '\n' || c = '\r'

def skipBlanks (s : Text) : Text := s.dropWhile isBlank

/-- The reading of a number's value. -/
def ofNumber : Option Json → Reading
  | some (.int n) => .int n
  | some (.float x) => .float x
  | _ => .meaningless

/-- Reads a number. -/
def number (s : Text) : Reading × Text :=
  match Numeral.read s with
  | some (numeral, rest) => (ofNumber numeral.value, rest)
  | none => (.unreadable, [])

/-- The quoted text whose opening quote has been read. -/
def quoted (s : Text) : Reading × Text :=
  match Quoted.body s with
  | some (pieces, rest) => ((Quoted.spell pieces).elim .meaningless .str, rest)
  | none => (.unreadable, [])

/-- A word, if the text starts with it. -/
def word (expected : String) (reading : Reading) (s : Text) : Reading × Text :=
  if expected.toList.isPrefixOf s then (reading, s.drop expected.length) else (.unreadable, [])

mutual

/-- Reads a value from the front of a text, with blanks before it. What follows is given as well;
behind a fault nothing follows. -/
def value : Nat → Text → Reading × Text
  | 0, _ => (.unreadable, [])
  | fuel + 1, s =>
    match skipBlanks s with
    | '[' :: rest =>
      match skipBlanks rest with
      | ']' :: rest => (.arr [] true, rest)
      | _ =>
        let (items, closed, rest) := items fuel rest
        (.arr items closed, rest)
    | '\x7b' :: rest =>
      match skipBlanks rest with
      | '\x7d' :: rest => (.obj [] true, rest)
      | _ =>
        let (members, closed, rest) := members fuel rest
        (.obj members closed, rest)
    | '"' :: rest => quoted rest
    | 'n' :: rest => word "null" .null ('n' :: rest)
    | 't' :: rest => word "true" (.bool true) ('t' :: rest)
    | 'f' :: rest => word "false" (.bool false) ('f' :: rest)
    | s => number s

/-- Reads the items of a list up to its end, at least one. -/
def items : Nat → Text → List Reading × Bool × Text
  | 0, _ => ([], false, [])
  | fuel + 1, s =>
    let (item, rest) := value fuel s
    match skipBlanks rest with
    | ']' :: rest => ([item], true, rest)
    | ',' :: rest =>
      let (more, closed, rest) := items fuel rest
      (item :: more, closed, rest)
    | _ => ([item], false, [])

/-- Reads the members of an object up to its end, at least one. A name without a value is given
with an unreadable one. -/
def members : Nat → Text → List (Name × Reading) × Bool × Text
  | 0, _ => ([], false, [])
  | fuel + 1, s =>
    match skipBlanks s with
    | '"' :: rest =>
      match Quoted.body rest with
      | none => ([], false, [])
      | some (pieces, rest) =>
        let name := (Quoted.spell pieces).elim .meaningless .text
        match skipBlanks rest with
        | ':' :: rest =>
          let (item, rest) := value fuel rest
          match skipBlanks rest with
          | '\x7d' :: rest => ([(name, item)], true, rest)
          | ',' :: rest =>
            let (more, closed, rest) := members fuel rest
            ((name, item) :: more, closed, rest)
          | _ => ([(name, item)], false, [])
        | _ => ([(name, .unreadable)], false, [])
    | s => ([(.absent, (value fuel s).1)], false, [])

end

/-- The reading of a whole text. Each step into a value consumes a character, and two steps in a
row consume one at least, so the fuel is never used up. -/
def ofText (s : Text) : Reading × Text := value (2 * s.length + 2) s

mutual

/-- Whether a value follows the grammar to its end, which is all that is asked of one that is
passed over. -/
def isGrammatical : Reading → Bool
  | .unreadable => false
  | .arr items closed => areGrammatical items && closed
  | .obj members closed => membersGrammatical members && closed
  | _ => true

def areGrammatical : List Reading → Bool
  | [] => true
  | item :: rest => isGrammatical item && areGrammatical rest

def membersGrammatical : List (Name × Reading) → Bool
  | [] => true
  | (_, value) :: rest => isGrammatical value && membersGrammatical rest

end

mutual

/-- The value that was read, its objects sorted. There is none if the text is at fault, if a part
has no meaning, or if more than `room` lists and objects are open at once. -/
def toJson? (room : Nat) : Reading → Option Json
  | .unreadable | .meaningless => none
  | .null => some .null
  | .bool b => some (.bool b)
  | .int n => some (.int n)
  | .float x => some (.float x)
  | .str s => some (.str s)
  | .arr items closed =>
    if room = 0 || !closed then none else (toItems? (room - 1) items).map .arr
  | .obj members closed =>
    if room = 0 || !closed then none else (toMembers? (room - 1) members).map (.obj ∘ sorted)

/-- Items that are all values. -/
def toItems? (room : Nat) : List Reading → Option (List Json)
  | [] => some []
  | item :: rest => do
    let item ← toJson? room item
    let rest ← toItems? room rest
    return item :: rest

/-- Members that are all values, each under a name. -/
def toMembers? (room : Nat) : List (Name × Reading) → Option (List (Text × Json))
  | [] => some []
  | (.text name, value) :: rest => do
    let value ← toJson? room value
    let rest ← toMembers? room rest
    return (name, value) :: rest
  | _ => none

end

end Reading

/-- How many lists and objects may be open at once in a text. -/
def nestingLimit : Nat := 127

/-- The value of a text that holds one value and nothing else. -/
def ofText? (s : Text) : Option Json :=
  let (reading, rest) := Reading.ofText s
  if (Reading.skipBlanks rest).isEmpty then reading.toJson? nestingLimit else none

mutual

/-- A value as the reading of its own text. -/
def reading : Json → Reading
  | .null => .null
  | .bool b => .bool b
  | .int n => .int n
  | .float x => .float x
  | .str s => .str s
  | .arr items => .arr (readings items) true
  | .obj members => .obj (memberReadings members) true

def readings : List Json → List Reading
  | [] => []
  | item :: rest => reading item :: readings rest

def memberReadings : List (Text × Json) → List (Name × Reading)
  | [] => []
  | (name, value) :: rest => (.text name, reading value) :: memberReadings rest

end

end TextSync.Json
