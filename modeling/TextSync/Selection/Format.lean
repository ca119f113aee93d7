import TextSync.Selection
import TextSync.Wire.Record

/-!
The written form of a selection.
-/

namespace TextSync

open Wire

namespace Selection

/-- The object as which a `Selection` is serialized. -/
def toJson (s : Selection) : Json :=
  .obj [Json.member "start" (.int s.start), Json.member "end" (.int s.stop)]

/-- The ends read so far. -/
structure Draft where
  start : Option Nat := none
  stop : Option Nat := none

/-- How a `Selection` is deserialized: it needs both ends. -/
def record : Record Draft Selection where
  title := "struct Selection"
  fields := [
    .stored "start" false Draft.start (fun d offset => { d with start := some offset }) .offset,
    .stored "end" false Draft.stop (fun d offset => { d with stop := some offset }) .offset]
  blank := {}
  complete draft :=
    match draft.start, draft.stop with
    | some start, some stop => .ok ⟨start, stop⟩
    | none, _ => .error (.missing "start")
    | _, none => .error (.missing "end")

/-- A selection from its written form. -/
def decode : Decoder Selection := record.decode

end Selection

end TextSync
