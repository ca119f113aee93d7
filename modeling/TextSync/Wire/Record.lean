import TextSync.Wire.Decoder

/-!
Records: a fixed set of named fields, written as an object with the fields in any order or as the
list of their values in the order of the record.

In an object a field may stand once, members of other names are passed over, and what is missing is
noticed at the end. In a list, fields at the end may be left out if they are optional.
-/

namespace TextSync.Wire

open Json (Name Reading)

/-- A field of a record whose values are gathered in a draft of type `δ`. -/
structure Field (δ : Type) where
  name : String
  optional : Bool
  present : δ → Bool
  read : Form → Reading → δ → Except Fault δ

/-- A field that is stored in one place of the draft. -/
def Field.stored {δ α : Type} (name : String) (optional : Bool) (get : δ → Option α)
    (put : δ → α → δ) (decode : Decoder α) : Field δ where
  name
  optional
  present draft := (get draft).isSome
  read form reading draft := (decode form reading).map (put draft)

/-- A struct as `serde` derives its `Deserialize`: a title for its faults, its fields in their
order, and how the filled draft comes to a value. -/
structure Record (δ α : Type) where
  title : String
  fields : List (Field δ)
  blank : δ
  complete : δ → Except Fault α

namespace Record

variable {δ α : Type}

/-- How the record is named where a list is too short for it. -/
def sizedTitle (r : Record δ α) : String :=
  if r.fields.length = 1 then s!"{r.title} with 1 element"
  else s!"{r.title} with {r.fields.length} elements"

/-- Fills the fields from members. One of an unknown name is passed over, but it must be well
formed. -/
def ofMembers (r : Record δ α) (form : Form) (closed : Bool) :
    List (Name × Reading) → δ → Except Fault δ
  | [], draft => if closed then .ok draft else .error .malformed
  | (.text name, value) :: rest, draft =>
    match r.fields.find? (·.name.toList == name) with
    | none => if value.isGrammatical then ofMembers r form closed rest draft else .error .malformed
    | some field =>
      if field.present draft then .error (.duplicate field.name)
      else
        match field.read form value draft with
        | .ok draft => ofMembers r form closed rest draft
        | .error fault => .error fault
  | _, _ => .error .malformed

/-- Fills the fields from a list. Both `items` and `fields` are what is left of them. -/
def ofItems (r : Record δ α) (form : Form) (all : List Reading) (closed : Bool) :
    List (Field δ) → List Reading → δ → Except Fault δ
  | [], [], draft => if closed then .ok draft else .error .malformed
  | [], _ :: _, _ => .error (tooLong all.length r.fields.length form)
  | field :: fields, [], draft =>
    if !closed then .error .malformed
    else if field.optional then ofItems r form all closed fields [] draft
    else .error (.wrongLength all.length r.sizedTitle)
  | field :: fields, item :: items, draft =>
    match field.read form item draft with
    | .ok draft => ofItems r form all closed fields items draft
    | .error fault => .error fault

/-- A record from an object or from a list. -/
def decode (r : Record δ α) : Decoder α
  | form, .obj members closed => do r.complete (← r.ofMembers form closed members r.blank)
  | form, .arr items closed => do
    r.complete (← r.ofItems form items closed r.fields items r.blank)
  | _, reading => .error (wrong r.title reading)

end Record
end TextSync.Wire
