import TextSync.Text.Blank
import TextSync.Message.Format
import TextSync.Selection.Format

/-!
A script is a rehearsed session, one step a line: an event from the other side, something the user
does, or a pause. Blank lines do not count as steps, but they count as lines.
-/

namespace TextSync

namespace Script

open Json (Name Reading)
open Wire

/-- One step of a script, the `Step` of the demo. -/
inductive Step where
  | remote (event : Incoming)
  | typeText (text : Text)
  | backspace
  | select (selection : Selection)
  | wait (time : Nat)
deriving DecidableEq, Repr

/-- The kinds of step. -/
inductive Tag where
  | remote
  | typeText
  | backspace
  | select
  | wait
deriving DecidableEq, Repr

/-- The names of the kinds, in the order in which they are listed where a name is unknown. -/
def Tag.all : List (String × Tag) :=
  [("remote", .remote), ("type", .typeText), ("backspace", .backspace), ("select", .select),
    ("wait", .wait)]

/-- A step with one field, which it needs. -/
def single {α : Type} (name : String) (decode : Decoder α) (make : α → Step) :
    Record (Option α) Step where
  title := "step"
  fields := [.stored name false id (fun _ value => some value) decode]
  blank := none
  complete draft := (draft.map fun value => .ok (make value)).getD (.error (.missing name))

/-- The step that selects, which has the fields of a selection. -/
def selection : Record Selection.Draft Step where
  title := Selection.record.title
  fields := Selection.record.fields
  blank := {}
  complete draft := (Selection.record.complete draft).map .select

/-- A step without fields: members of any name may stand there, items of a list may not. -/
def bare (step : Step) : Decoder Step
  | _, .arr (_ :: _) _ => .error .malformed
  | _, _ => .ok step

/-- The rest of a step, once it is known which it is. -/
def fields : Tag → Decoder Step
  | .remote => (single "event" Incoming.decode .remote).decode
  | .typeText => (single "text" Decoder.text .typeText).decode
  | .backspace => bare .backspace
  | .select => selection.decode
  | .wait => (single "ms" (Decoder.unsigned "u64") .wait).decode

/-- The kind of a step, by its name. -/
def tag : Reading → Except Fault Tag
  | .str name =>
    match Tag.all.find? (·.1.toList == name) with
    | some (_, tag) => .ok tag
    | none => .error (.unknownVariant name (Tag.all.map (·.1)))
  | reading => .error (wrong Tagged.identifier reading)

/-- Whether a part of a step may be held back until it is known which step it belongs to. -/
def canHold (value : Reading) : Bool := (value.toJson? (Json.nestingLimit - 1)).isSome

/-- The member that names the step, and all others, held back. -/
def splitMembers (closed : Bool) (name : Option Tag) (others : List (Name × Reading)) :
    List (Name × Reading) → Except Fault (Tag × List (Name × Reading))
  | [] =>
    match closed, name with
    | false, _ => .error .malformed
    | true, none => .error (.missing "step")
    | true, some tag => .ok (tag, others.reverse)
  | (.text key, value) :: rest =>
    if key = "step".toList then
      match name, tag value with
      | some _, _ => .error (.duplicate "step")
      | none, .error fault => .error fault
      | none, .ok tag => splitMembers closed (some tag) others rest
    else if canHold value then splitMembers closed name ((.text key, value) :: others) rest
    else .error .malformed
  | _ => .error .malformed

/-- A step is an object that names it in a member `step`, or a list that begins with its name. -/
def Step.decode : Decoder Step
  | _, .obj members closed => do
    let (tag, others) ← splitMembers closed none [] members
    fields tag .held (.obj others true)
  | _, .arr [] closed => .error (if closed then .missing "step" else .malformed)
  | _, .arr (first :: rest) closed => do
    let tag ← tag first
    if rest.all canHold && closed then fields tag .held (.arr rest true) else throw .malformed
  | _, reading => .error (wrong "internally tagged enum Step" reading)

/-- A line of the script that is no step. -/
structure BadLine where
  line : Nat
  fault : Fault
deriving DecidableEq, Repr

/-- The steps on the given lines, the first of which has the given number. -/
def ofLines : Nat → List Text → Except BadLine (List Step)
  | _, [] => .ok []
  | number, line :: rest =>
    if line.isBlank then ofLines (number + 1) rest
    else
      match decodeText Step.decode line with
      | .error fault => .error ⟨number, fault⟩
      | .ok step => (ofLines (number + 1) rest).map (step :: ·)

end Script

/-- The steps of a script. A line may end in a carriage return, which is blank at its end. -/
def Script.ofText (s : Text) : Except Script.BadLine (List Script.Step) :=
  ofLines 1 (s.splitOn '\n')

end TextSync
