import TextSync.Edit.Format
import TextSync.Message
import TextSync.Wire.Tagged

/-!
The written form of everything that travels between a session and the other side.
-/

namespace TextSync

open Wire

namespace Document

/-- The object as which a `DocumentSnapshot` is serialized. -/
def toJson (d : Document) : Json := .obj [Json.member "content" (.str d.content)]

/-- How a `DocumentSnapshot` is deserialized. -/
def record : Record (Option Text) Document where
  title := "struct DocumentSnapshot"
  fields := [.stored "content" false id (fun _ content => some content) .text]
  blank := none
  complete draft :=
    match draft with
    | some content => .ok ⟨content⟩
    | none => .error (.missing "content")

def decode : Decoder Document := record.decode

end Document

/-- A message of a kind without a body, or with one of a kind that has. -/
def Json.tagged (type : String) (body : Option Json) : Json :=
  .obj (Json.member "type" (.str type.toList) :: body.toList.map (Json.member "body"))

namespace Incoming

/-- The object as which a `RemoteEvent` is serialized. -/
def toJson (event : Incoming) : Json :=
  match event with
  | .document d => .tagged event.kind d.toJson
  | .edits batch => .tagged event.kind (some (.arr (batch.map Edit.toJson)))
  | .disconnect => .tagged event.kind none
  | .presence payload => .tagged event.kind payload

/-- The kinds of event. -/
inductive Tag where
  | document
  | edits
  | disconnect
  | presence
deriving DecidableEq, Repr

/-- The body of a message that needs none. -/
def nothing : Decoder Unit
  | _, .null => .ok ()
  | _, reading => .error (wrong "unit variant RemoteEvent::Disconnect" reading)

/-- How a `RemoteEvent` is deserialized: which kinds there are, by what names, and what the body of
each is. -/
def format : Tagged Tag Incoming where
  title := "RemoteEvent"
  tags := [("document", .document), ("transforms", .edits), ("disconnect", .disconnect),
    ("presence", .presence)]
  bare
    | .disconnect => some .disconnect
    | _ => none
  body
    | .document => fun form reading => (Document.decode form reading).map .document
    | .edits => fun form reading => (Decoder.list Edit.decode form reading).map .edits
    | .disconnect => fun form reading => (nothing form reading).map fun _ => .disconnect
    | .presence => fun form reading => (Decoder.json form reading).map .presence

def decode : Decoder Incoming := format.decode

end Incoming

namespace Outgoing

/-- The object as which an `Outbound` is serialized. -/
def toJson : Outgoing → Json
  | .edit e => .tagged "transform" e.toJson
  | .cursor offset => .tagged "cursor" (some (.int offset))
  | .error message => .tagged "error" (some (.str message))
  | .presence payload => .tagged "presence" payload

/-- The kinds of action. -/
inductive Tag where
  | edit
  | cursor
  | error
  | presence
deriving DecidableEq, Repr

/-- How an `Outbound` is deserialized. -/
def format : Tagged Tag Outgoing where
  title := "Outbound"
  tags := [("transform", .edit), ("cursor", .cursor), ("error", .error), ("presence", .presence)]
  bare _ := none
  body
    | .edit => fun form reading => (Edit.decode form reading).map .edit
    | .cursor => fun form reading => (Decoder.offset form reading).map .cursor
    | .error => fun form reading => (Decoder.text form reading).map .error
    | .presence => fun form reading => (Decoder.json form reading).map .presence

def decode : Decoder Outgoing := format.decode

end Outgoing
end TextSync
