import TextSync.Message.Format
import TextSync.Proofs.Wire.Decoding
import TextSync.Selection.Format
import TextSync.Settings.Format

/-!
# What is written is read back

Edits, selections, documents, messages of both directions and settings are written as objects and
decode to themselves from the text, whether a message has its body behind its type or before it.
What can be sent is `Portable`: all numbers fit a word of 64 bits, as they do in every program that
sends them, and a payload is one that arrives as it was sent.
-/

namespace TextSync

open Wire
open Json (Payload)

/-! ## What can be sent -/

/-- The numbers of an edit fit a word. -/
structure Edit.Portable (e : Edit) : Prop where
  position : e.position ≤ maxOffset
  removed : ∀ n ∈ e.removed, n ≤ maxOffset

instance (e : Edit) : Decidable e.Portable :=
  decidable_of_iff (e.position ≤ maxOffset ∧ ∀ n ∈ e.removed, n ≤ maxOffset)
    ⟨fun ⟨position, removed⟩ => ⟨position, removed⟩, fun portable => ⟨portable.1, portable.2⟩⟩

/-- Both ends fit a word. -/
structure Selection.Portable (s : Selection) : Prop where
  start : s.start ≤ maxOffset
  stop : s.stop ≤ maxOffset

/-- The period and the capacity fit a word. -/
structure Settings.Portable (s : Settings) : Prop where
  pollPeriod : s.pollPeriod ≤ maxOffset
  eventCapacity : s.eventCapacity ≤ maxOffset

/-- What an event brings fits words, and leaves room for the event around it. -/
def Incoming.Portable : Incoming → Prop
  | .document _ | .disconnect => True
  | .edits batch => ∀ e ∈ batch, e.Portable
  | .presence payload => payload.Payload

def Outgoing.Portable : Outgoing → Prop
  | .edit e => e.Portable
  | .cursor offset => offset ≤ maxOffset
  | .error _ => True
  | .presence payload => payload.Payload

/-! ## Records -/

/-- An edit is read back from its object, with its absent halves absent. -/
theorem Edit.decode_toJson (form : Form) (e : Edit) : Edit.decode form e.toJson.reading = .ok e := by
  obtain ⟨position, removed, inserted⟩ := e
  cases removed <;> cases inserted <;>
    simp [Edit.decode, Edit.toJson, Json.reading, Json.memberReadings, Json.member, Record.decode,
      Record.ofMembers, Edit.record, Field.stored, Decoder.optional, Decoder.offset_ofNat,
      Decoder.text, Except.map, bind, Except.bind]

theorem Selection.decode_toJson (form : Form) (s : Selection) :
    Selection.decode form s.toJson.reading = .ok s := by
  simp [Selection.decode, Selection.toJson, Json.reading, Json.memberReadings, Json.member,
    Record.decode, Record.ofMembers, Selection.record, Field.stored, Decoder.offset_ofNat,
    Except.map, bind, Except.bind]

theorem Document.decode_toJson (form : Form) (d : Document) :
    Document.decode form d.toJson.reading = .ok d := by
  simp [Document.decode, Document.toJson, Json.reading, Json.memberReadings, Json.member,
    Record.decode, Record.ofMembers, Document.record, Field.stored, Decoder.text, Except.map, bind,
    Except.bind]

theorem Settings.decode_toJson (form : Form) (s : Settings) :
    Settings.decode form s.toJson.reading = .ok s := by
  simp [Settings.decode, Settings.toJson, Json.reading, Json.memberReadings, Json.member,
    Record.decode, Record.ofMembers, Settings.record, Field.stored, Decoder.unsigned_ofNat,
    Decoder.offset_ofNat, Except.map, bind, Except.bind]

theorem Edit.Portable.isWhole {e : Edit} (portable : e.Portable) : e.toJson.isWhole = true := by
  obtain ⟨position, removed, inserted⟩ := e
  have first := portable.position
  have second := portable.removed
  cases removed <;> cases inserted <;>
    simp_all [Edit.toJson, Json.isWhole, Json.membersWhole, Json.member, Json.fitsWord_ofNat]

theorem Selection.Portable.isWhole {s : Selection} (portable : s.Portable) :
    s.toJson.isWhole = true := by
  simp [Selection.toJson, Json.isWhole, Json.membersWhole, Json.member, Json.fitsWord_ofNat,
    portable.start, portable.stop]

theorem Document.isWhole_toJson (d : Document) : d.toJson.isWhole = true := by
  simp [Document.toJson, Json.isWhole, Json.membersWhole, Json.member]

theorem Settings.Portable.isWhole {s : Settings} (portable : s.Portable) :
    s.toJson.isWhole = true := by
  simp [Settings.toJson, Json.isWhole, Json.membersWhole, Json.member, Json.fitsWord_ofNat,
    portable.pollPeriod, portable.eventCapacity]

theorem Edit.depth_toJson (e : Edit) : e.toJson.depth = 1 := by
  obtain ⟨position, removed, inserted⟩ := e
  cases removed <;> cases inserted <;>
    simp [Edit.toJson, Json.depth, Json.membersDepth, Json.member]

/-! ## Messages -/

theorem areWhole_edits {batch : List Edit} (portable : ∀ e ∈ batch, e.Portable) :
    Json.areWhole (batch.map Edit.toJson) = true := by
  induction batch with
  | nil => rfl
  | cons e rest ih =>
    rw [List.map_cons, Json.areWhole, (portable e List.mem_cons_self).isWhole,
      ih fun later member => portable later (List.mem_cons_of_mem _ member)]
    rfl

theorem itemsDepth_edits_le (batch : List Edit) : Json.itemsDepth (batch.map Edit.toJson) ≤ 1 := by
  induction batch with
  | nil => exact Nat.zero_le 1
  | cons e rest ih =>
    rw [List.map_cons, Json.itemsDepth, Edit.depth_toJson]
    exact Nat.max_le.2 ⟨Nat.le_refl 1, ih⟩

/-- The tag of an event. -/
def Incoming.tag : Incoming → Tag
  | .document _ => .document
  | .edits _ => .edits
  | .disconnect => .disconnect
  | .presence _ => .presence

theorem Incoming.find_kind (event : Incoming) : format.find event.kind.toList = .ok event.tag := by
  cases event <;> simp [kind, tag, format, Tagged.find]

/-- A message of a kind with a body reads back in both orders, if its body decodes in every form. -/
theorem decodeText_tagged {τ α : Type} {t : Tagged τ α} {type : String} {tag : τ} {body : Json}
    {message : α} (named : t.find type.toList = .ok tag) (whole : body.isWhole = true)
    (shallow : body.depth < Json.nestingLimit)
    (reads : ∀ form, t.body tag form body.reading = .ok message) :
    decodeText t.decode (Json.tagged type body).print = .ok message ∧
      decodeText t.decode (Json.tagged type body).bodyFirst.print = .ok message := by
  obtain ⟨k, same, -⟩ := Json.Reading.toJson?_reading body _ (Nat.le_sub_one_of_lt shallow)
  constructor
  · rw [decodeText_print _ (by simp [Json.tagged, Json.isWhole, Json.membersWhole, Json.member, whole])]
    exact Tagged.decode_bodyLast .text named (reads .text)
  · rw [decodeText_print _ (by
      simp [Json.tagged, Json.bodyFirst, Json.isWhole, Json.membersWhole, Json.member, whole])]
    exact Tagged.decode_bodyFirst .text named (by rw [same]; rfl) (reads .held)

/-- An event is read back, with its body before or behind its type. -/
theorem Incoming.decodeText_toJson {event : Incoming} (portable : event.Portable) :
    decodeText Incoming.decode event.toJson.print = .ok event ∧
      decodeText Incoming.decode event.toJson.bodyFirst.print = .ok event := by
  cases event with
  | document d =>
    refine decodeText_tagged (find_kind (.document d)) ?_ ?_ ?_
    · exact d.isWhole_toJson
    · simp [Document.toJson, Json.depth, Json.membersDepth, Json.member, Json.nestingLimit]
    · intro form
      simp [format, tag, Document.decode_toJson, Except.map]
  | edits batch =>
    refine decodeText_tagged (find_kind (.edits batch)) (areWhole_edits portable) ?_ ?_
    · have low := itemsDepth_edits_le batch
      simp only [Json.depth, Json.nestingLimit]
      omega
    · intro form
      have reads := Decoder.list_readings (Edit.decode_toJson form) batch
      simp [format, tag, Json.reading, reads, Except.map]
  | disconnect =>
    have bare : decodeText Incoming.decode Incoming.disconnect.toJson.print = .ok .disconnect := by
      rw [decodeText_print _ rfl]
      exact Tagged.decode_bare .text (find_kind .disconnect) rfl
    exact ⟨bare, bare⟩
  | presence payload =>
    refine decodeText_tagged (find_kind (.presence payload)) portable.whole portable.shallow ?_
    intro form
    simp [format, tag, Decoder.json_reading portable, Except.map]

/-- What was cut into batches arrives as these batches. -/
theorem Incoming.map_decodeText_edits {batches : List (List Edit)}
    (portable : ∀ e ∈ batches.flatten, e.Portable) :
    batches.map (fun batch => decodeText Incoming.decode (Incoming.edits batch).toJson.print)
      = (batches.map Incoming.edits).map .ok := by
  rw [List.map_map]
  refine List.map_congr_left fun batch member => (Incoming.decodeText_toJson ?_).1
  exact fun e inBatch => portable e (List.mem_flatten_of_mem member inBatch)

/-- An action is read back in the same way. -/
theorem Outgoing.decodeText_toJson {action : Outgoing} (portable : action.Portable) :
    decodeText Outgoing.decode action.toJson.print = .ok action ∧
      decodeText Outgoing.decode action.toJson.bodyFirst.print = .ok action := by
  cases action with
  | edit e =>
    have named : format.find "transform".toList = .ok Tag.edit := rfl
    refine decodeText_tagged named (Edit.Portable.isWhole portable) ?_ ?_
    · rw [Edit.depth_toJson]
      decide
    · intro form
      simp [format, Edit.decode_toJson, Except.map]
  | cursor offset =>
    have named : format.find "cursor".toList = .ok Tag.cursor := rfl
    refine decodeText_tagged named ?_ (Nat.zero_lt_succ _) ?_
    · have fits : offset ≤ maxOffset := portable
      simp [Json.isWhole, Json.fitsWord_ofNat, fits]
    · intro form
      simp [format, Json.reading, Decoder.offset_ofNat, Except.map]
  | error message =>
    have named : format.find "error".toList = .ok Tag.error := rfl
    refine decodeText_tagged named rfl (Nat.zero_lt_succ _) ?_
    intro form
    simp [format, Json.reading, Decoder.text, Except.map]
  | presence payload =>
    have named : format.find "presence".toList = .ok Tag.presence := rfl
    refine decodeText_tagged named portable.whole portable.shallow ?_
    intro form
    simp [format, Decoder.json_reading portable, Except.map]

/-- Settings are read back from their text and then looked at. -/
theorem Settings.ofText_toJson {s : Settings} (portable : s.Portable) :
    Settings.ofText s.toJson.print =
      match s.fault? with
      | some fault => .error (.invalid fault)
      | none => .ok s := by
  have read : decodeText Settings.decode s.toJson.print = .ok s := by
    rw [decodeText_print _ portable.isWhole, Settings.decode_toJson]
  cases fault : s.fault? <;> simp [Settings.ofText, read, fault]

/-- **What is written is read back.** An edit may leave out either half or have an empty one, a text
may hold any characters, and a payload is nested as deep as a text can be read. A message reads back
with its body before its type as well. Settings are read back if they are valid; otherwise the text
is refused for the fault that they have. -/
theorem Wire.decodeText_print_toJson :
    (∀ e : Edit, e.Portable → decodeText Edit.decode e.toJson.print = .ok e) ∧
    (∀ s : Selection, s.Portable → decodeText Selection.decode s.toJson.print = .ok s) ∧
    (∀ d : Document, decodeText Document.decode d.toJson.print = .ok d) ∧
    (∀ event : Incoming, event.Portable →
      decodeText Incoming.decode event.toJson.print = .ok event ∧
      decodeText Incoming.decode event.toJson.bodyFirst.print = .ok event) ∧
    (∀ action : Outgoing, action.Portable →
      decodeText Outgoing.decode action.toJson.print = .ok action ∧
      decodeText Outgoing.decode action.toJson.bodyFirst.print = .ok action) ∧
    (∀ s : Settings, s.Portable → Settings.ofText s.toJson.print =
      match s.fault? with
      | some fault => .error (.invalid fault)
      | none => .ok s) := by
  refine ⟨fun e portable => ?_, fun s portable => ?_, fun d => ?_,
    fun _ => Incoming.decodeText_toJson, fun _ => Outgoing.decodeText_toJson,
    fun _ => Settings.ofText_toJson⟩
  · rw [decodeText_print _ portable.isWhole, Edit.decode_toJson]
  · rw [decodeText_print _ portable.isWhole, Selection.decode_toJson]
  · rw [decodeText_print _ d.isWhole_toJson, Document.decode_toJson]

/-- The largest numbers, halves that are there and empty, characters that are escaped and one beyond
the first plane, a nested payload in both orders, and settings that are read and refused. -/
theorem Wire.decodeText_print_toJson_extremes :
    let e : Edit := ⟨maxOffset, some 0, some ['"', '\\', '\x01', '\n', '😀']⟩
    let payload : Json := .obj [Json.member "a" (.arr [.null, .int (-0x8000000000000000), .obj []]),
      Json.member "b" (.int maxOffset)]
    e.Portable ∧ payload.Payload ∧
    decodeText Edit.decode e.toJson.print = .ok e ∧
    decodeText Selection.decode (Selection.toJson ⟨maxOffset, 0⟩).print = .ok ⟨maxOffset, 0⟩ ∧
    decodeText Incoming.decode (Incoming.edits [e, .insert 0 []]).toJson.bodyFirst.print
      = .ok (.edits [e, .insert 0 []]) ∧
    decodeText Incoming.decode (Incoming.presence payload).toJson.bodyFirst.print
      = .ok (.presence payload) ∧
    decodeText Outgoing.decode (Outgoing.cursor maxOffset).toJson.print = .ok (.cursor maxOffset) ∧
    Settings.ofText (Settings.toJson ⟨0, maxOffset⟩).print = .error (.invalid .zeroPollPeriod) := by
  intro e payload
  obtain ⟨edits, selections, -, events, actions, settings⟩ := Wire.decodeText_print_toJson
  have portable : e.Portable := by decide
  have travels : payload.Payload := by decide
  have batch : (Incoming.edits [e, .insert 0 []]).Portable := by
    show ∀ e' ∈ [e, Edit.insert 0 []], e'.Portable
    decide
  refine ⟨portable, travels, edits e portable, selections _ ⟨by decide, by decide⟩,
    (events _ batch).2, (events (.presence payload) travels).2, (actions _ ?_).1,
    settings _ ⟨by decide, by decide⟩⟩
  exact Nat.le_refl maxOffset

end TextSync
