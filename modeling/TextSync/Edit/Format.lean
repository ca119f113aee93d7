import TextSync.Edit
import TextSync.Wire.Record

/-!
The written form of an edit. A half that is absent is left out when written, and may be written as
null.
-/

namespace TextSync

open Wire

namespace Edit

/-- The object as which a `Transform` is serialized. -/
def toJson (e : Edit) : Json :=
  .obj ([Json.member "position" (.int e.position)]
    ++ e.removed.toList.map (fun (count : Nat) => Json.member "num_delete" (.int count))
    ++ e.inserted.toList.map (fun text => Json.member "insert" (.str text)))

/-- What has been read of a `Transform` so far. A half may have been named and be absent all the
same. -/
structure Draft where
  position : Option Nat := none
  removed : Option (Option Nat) := none
  inserted : Option (Option Text) := none

/-- How a `Transform` is deserialized: only the position is needed. -/
def record : Record Draft Edit where
  title := "struct Transform"
  fields := [
    .stored "position" false Draft.position (fun d p => { d with position := some p }) .offset,
    .stored "num_delete" true Draft.removed (fun d n => { d with removed := some n })
      (.optional .offset),
    .stored "insert" true Draft.inserted (fun d t => { d with inserted := some t })
      (.optional .text)]
  blank := {}
  complete draft :=
    match draft.position with
    | some position => .ok ⟨position, draft.removed.join, draft.inserted.join⟩
    | none => .error (.missing "position")

/-- An edit from its written form, as in `Transform::from_json`. -/
def decode : Decoder Edit := record.decode

end Edit

end TextSync
