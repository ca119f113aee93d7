import TextSync.Wire.Decoder

/-!
Messages of several kinds: an object with a `type` and a `body`, or the list of the two. What the
body means depends on the type. A body that comes first is held back until the type is known;
members of other names are passed over.

In an object the type is a name, or an object with that name alone; in a list it is a name.
-/

namespace TextSync.Wire

open Json (Name Reading)

/-- Messages whose kinds are told apart by a tag of type `τ`: an adjacently tagged enum of `serde`,
with `type` and `body`. -/
structure Tagged (τ α : Type) where
  title : String
  tags : List (String × τ)
  /-- The message of this kind if it needs no body. -/
  bare : τ → Option α
  body : τ → Decoder α

namespace Tagged

variable {τ α : Type}

/-- What the message as a whole is called in a fault. -/
def expected (t : Tagged τ α) : String := s!"adjacently tagged enum {t.title}"

/-- The tag of a name, if it is a known one. -/
def find (t : Tagged τ α) (name : Text) : Except Fault τ :=
  match t.tags.find? (·.1.toList == name) with
  | some (_, tag) => .ok tag
  | none => .error (.unknownVariant name (t.tags.map (·.1)))

/-- What stands where a message names its kind. -/
def identifier : String := "variant identifier"

/-- A tag in a list stands there by its name, or, once held back, by its place among the tags. -/
def listedTag (t : Tagged τ α) : Decoder τ
  | _, .str name => t.find name
  | .held, .int (.ofNat place) =>
    match t.tags[place]? with
    | some (_, tag) => .ok tag
    | none => .error (.outOfRange place s!"variant index 0 <= i < {t.tags.length}")
  | _, reading => .error (wrong identifier reading)

/-- A tag may also be the only name in an object, with nothing as its value. -/
def tagOfMembers (t : Tagged τ α) (form : Form) (members : List (Name × Reading))
    (closed : Bool) : Except Fault τ :=
  match members with
  | [] => .error (if form = .text then .malformed else .notOneMember)
  | (.absent, found) :: _ => .error (wrong identifier found)
  | (.meaningless, _) :: _ => .error .malformed
  | (.text name, value) :: rest =>
    if form ≠ .text ∧ rest ≠ [] then .error .notOneMember
    else do
      let tag ← t.find name
      match form, value with
      | _, .null => if closed && rest.isEmpty then return tag else throw .malformed
      | .held, .obj [] true => return tag
      | _, value => throw (wrong "unit" value)

/-- A tag in an object: a name, or an object of which it is the only name. -/
def tag (t : Tagged τ α) : Decoder τ
  | _, .str name => t.find name
  | form, .obj members closed => t.tagOfMembers form members closed
  | .text, _ => .error .malformed
  | _, reading => .error (wrong "string or map" reading)

/-- The members that matter. -/
inductive Part where
  | tag
  | body
deriving DecidableEq, Repr

/-- The name of a member that matters. -/
def Part.name : Part → String
  | .tag => "type"
  | .body => "body"

def Part.named (name : Text) : Option Part :=
  if name = Part.tag.name.toList then some .tag
  else if name = Part.body.name.toList then some .body
  else none

/-- The next member that matters, its value and the members after it; none at the end. -/
def nextPart (closed : Bool) : List (Name × Reading) →
    Except Fault (Option (Part × Reading × List (Name × Reading)))
  | [] => if closed then .ok none else .error .malformed
  | (.text name, value) :: rest =>
    match Part.named name with
    | some part => .ok (some (part, value, rest))
    | none => if value.isGrammatical then nextPart closed rest else .error .malformed
  | _ => .error .malformed

/-- Nothing that matters may follow a complete message. -/
def finish (closed : Bool) (rest : List (Name × Reading)) (message : α) :
    Except Fault α := do
  match ← nextPart closed rest with
  | none => return message
  | some (part, _, _) => throw (.duplicate part.name)

/-- A message from members, in either order of the two that matter. -/
def ofMembers (t : Tagged τ α) (form : Form) (closed : Bool)
    (members : List (Name × Reading)) : Except Fault α := do
  match ← nextPart closed members with
  | none => throw (.missing Part.tag.name)
  | some (.tag, value, rest) =>
    let tag ← t.tag form value
    match ← nextPart closed rest with
    | none =>
      match t.bare tag with
      | some message => return message
      | none => throw (.missing Part.body.name)
    | some (.tag, _, _) => throw (.duplicate Part.tag.name)
    | some (.body, value, rest) => finish closed rest (← t.body tag form value)
  | some (.body, heldBack, rest) =>
    if (heldBack.toJson? (Json.nestingLimit - 1)).isNone then throw .malformed
    match ← nextPart closed rest with
    | none => throw (.missing Part.tag.name)
    | some (.body, _, _) => throw (.duplicate Part.body.name)
    | some (.tag, value, rest) =>
      let tag ← t.tag form value
      finish closed rest (← t.body tag .held heldBack)

/-- A message from a list of the two. -/
def ofItems (t : Tagged τ α) (form : Form) (items : List Reading) (closed : Bool) :
    Except Fault α := do
  match items with
  | [] => throw (if closed then .wrongLength 0 t.expected else .malformed)
  | [first] =>
    let _ ← t.listedTag form first
    throw (if closed then .wrongLength 1 t.expected else .malformed)
  | first :: second :: rest =>
    let tag ← t.listedTag form first
    let message ← t.body tag form second
    if !rest.isEmpty then throw (tooLong items.length 2 form)
    if closed then return message else throw .malformed

/-- A message from an object or from a list. -/
def decode (t : Tagged τ α) : Decoder α
  | form, .obj members closed => t.ofMembers form closed members
  | form, .arr items closed => t.ofItems form items closed
  | _, reading => .error (wrong t.expected reading)

end Tagged
end TextSync.Wire
