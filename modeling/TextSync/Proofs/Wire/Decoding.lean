import TextSync.Proofs.Json.Payload
import TextSync.Wire.Tagged

/-!
# Decoding what was printed

A printed value is decoded from its own reading (`decodeText_print`). Numbers, lists and payloads
decode to what they were written for, in every form. A tagged message decodes with its body behind
the tag and with its body before it; then the body is held back, which asks of it no more than that
it is not nested too deep.
-/

namespace TextSync

/-- An object with its members the other way round. -/
def Json.bodyFirst : Json → Json
  | .obj members => .obj members.reverse
  | j => j

namespace Wire

open Json (Name Reading)

variable {α : Type}

/-- To decode a written text is to decode what it says. -/
theorem decodeText_padded (decode : Decoder α) {s : Text} {r : Reading}
    (padded : Json.Padded s r) : decodeText decode s = decode .text r := by
  obtain ⟨after, reads, blank⟩ := Reading.ofText_of_padded padded
  unfold decodeText
  rw [reads]
  cases decoded : decode .text r <;>
    simp [decoded, blank, bind, Except.bind, pure, Except.pure]

/-- To decode a printed value is to decode the value. -/
theorem decodeText_print (decode : Decoder α) {j : Json} (whole : j.isWhole = true) :
    decodeText decode j.print = decode .text j.reading :=
  decodeText_padded decode (Json.writes_print j whole).padded

namespace Decoder

theorem unsigned_ofNat (expected : String) (form : Form) (n : Nat) :
    unsigned expected form (.int n) = .ok n := by
  have positive : ¬ (n : Int) < 0 := by omega
  simp [unsigned, positive]

theorem offset_ofNat (form : Form) (n : Nat) : offset form (.int n) = .ok n :=
  unsigned_ofNat "usize" form n

/-- A list is read back if its items are. -/
theorem list_readings {decode : Decoder α} {encode : α → Json} {form : Form}
    (back : ∀ value, decode form (encode value).reading = .ok value) (values : List α) :
    list decode form (.arr (Json.readings (values.map encode)) true) = .ok values := by
  have all : (Json.readings (values.map encode)).mapM (decode form) = .ok values := by
    induction values with
    | nil => rfl
    | cons value rest ih =>
      rw [List.map_cons, Json.readings, List.mapM_cons, back, ih]
      rfl
  simp [list, all, bind, Except.bind, pure, Except.pure]

/-- A payload is passed on as it is. -/
theorem json_reading {j : Json} (payload : j.Payload) (form : Form) :
    json form j.reading = .ok j := by
  simp [json, payload.toJson?]

end Decoder

namespace Tagged

variable {τ : Type} {t : Tagged τ α} {name : Text} {tag : τ} {message : α} {body : Reading}

theorem decode_bare (form : Form) (named : t.find name = .ok tag)
    (bare : t.bare tag = some message) :
    t.decode form (.obj [(.text "type".toList, .str name)] true) = .ok message := by
  simp [decode, ofMembers, nextPart, Part.named, Part.name, Tagged.tag, named, bare, bind,
    Except.bind, pure, Except.pure]

theorem decode_bodyLast (form : Form) (named : t.find name = .ok tag)
    (reads : t.body tag form body = .ok message) :
    t.decode form (.obj [(.text "type".toList, .str name), (.text "body".toList, body)] true)
      = .ok message := by
  simp [decode, ofMembers, nextPart, Part.named, Part.name, Tagged.tag, named, reads, finish, bind,
    Except.bind, pure, Except.pure]

/-- A body that comes first is held back until the tag is known. -/
theorem decode_bodyFirst (form : Form) (named : t.find name = .ok tag)
    (room : (body.toJson? (Json.nestingLimit - 1)).isSome = true)
    (reads : t.body tag .held body = .ok message) :
    t.decode form (.obj [(.text "body".toList, body), (.text "type".toList, .str name)] true)
      = .ok message := by
  have shallow : (body.toJson? (Json.nestingLimit - 1)).isNone = false := by simpa using room
  simp [decode, ofMembers, nextPart, Part.named, Part.name, Tagged.tag, named, reads, finish,
    shallow, bind, Except.bind, pure, Except.pure]

end Tagged
end Wire
end TextSync
