import TextSync.Session.Frame

/-!
# What the handlers of a session do not see

A handler looks at the stage of life, the two texts and the selection, and it hears what the peer
answers. A map of sessions that leaves these alone, and goes through the few things that a handler
does, goes through the handlers as well: to call one before the map or after it comes to the same
(`Unseen.localChange`, `Unseen.receive`). With the map the peer may be exchanged too, if its answers
come to the same.

The queues can be put aside in this way, the answers of the peer be left out, or the time.
-/

namespace TextSync

/-- Whether a notice is about the answer to an edit. -/
def Notice.isAnswer : Notice → Bool
  | .undeliverable _ | .diverged _ => true
  | _ => false

namespace Session

/-- Takes over a text into which an edit of others has been written. -/
def written (e : Edit) (content : Text) (s : Session) : Session :=
  { s with
    editor := (s.editor.setContent content).select (s.editor.selection.remap e content.length)
    content
    history := s.history.record .there e
    tally := { s.tally with applied := s.tally.applied + 1 } }

theorem applyRemote_eq_map (e : Edit) (s : Session) :
    s.applyRemote e = (e.apply s.editor.content).map fun content => s.written e content := by
  unfold applyRemote
  cases e.apply s.editor.content <;> rfl

/-- A batch that begins with an edit that fits. -/
theorem applyAll_of_ok {s : Session} {e : Edit} {text : Text} (total done : Nat) (rest : List Edit)
    (applied : e.apply s.editor.content = .ok text) :
    applyAll total done (e :: rest) s = applyAll total (done + 1) rest (s.written e text) := by
  simp only [applyAll, applyRemote_eq_map, applied, Except.map]

/-- A batch that begins with an edit that does not fit. -/
theorem applyAll_of_error {s : Session} {e : Edit} {fault : Edit.Fault} (total done : Nat)
    (rest : List Edit) (refused : e.apply s.editor.content = .error fault) :
    applyAll total done (e :: rest) s = s.protocolError (.misfit (done + 1) total fault) := by
  simp only [applyAll, applyRemote_eq_map, refused, Except.map]

/-- A map that the handlers do not see, when one peer is exchanged for another along with it. -/
structure Unseen (f : Session → Session) (peer other : Peer) : Prop where
  phase (s : Session) : (f s).phase = s.phase
  pending (s : Session) : (f s).pending = s.pending
  text (s : Session) : (f s).editor.content = s.editor.content
  note {n : Notice} (own : n.isAnswer = false) (s : Session) : f (s.note n) = (f s).note n
  complain {c : Complaint} (own : c ≠ .refused) (s : Session) :
    f (s.protocolError c) = (f s).protocolError c
  send (e : Edit) (s : Session) : f ((s.accept e).send peer e) = ((f s).accept e).send other e
  write (e : Edit) (content : Text) (s : Session) :
    f (s.written e content) = (f s).written e content
  goLive (document : Document) (s : Session) : f (s.goLive document) = (f s).goLive document
  presence (payload : Json) (s : Session) :
    f (s.call (.presence payload)) = (f s).call (.presence payload)

namespace Unseen

variable {f : Session → Session} {peer other : Peer} (unseen : Unseen f peer other)
include unseen

theorem localChange (s : Session) :
    (f s).localChange other = ((s.localChange peer).1, f (s.localChange peer).2) := by
  unfold Session.localChange
  rw [unseen.phase, unseen.pending]
  split
  · cases s.pending with
    | none => rfl
    | some e => exact congrArg (some e, ·) (unseen.send e s).symm
  · exact congrArg (none, ·) (unseen.note rfl s).symm

theorem applyRemote (e : Edit) (s : Session) :
    (f s).applyRemote e = (s.applyRemote e).map f := by
  rw [applyRemote_eq_map, applyRemote_eq_map, unseen.text]
  cases e.apply s.editor.content with
  | error fault => rfl
  | ok content => exact congrArg Except.ok (unseen.write e content s).symm

theorem applyAll (total done : Nat) (batch : List Edit) (s : Session) :
    applyAll total done batch (f s) = f (applyAll total done batch s) := by
  induction batch generalizing done s with
  | nil => rfl
  | cons e rest ih =>
    unfold Session.applyAll
    rw [unseen.applyRemote]
    cases s.applyRemote e with
    | error fault => exact (unseen.complain (by simp) s).symm
    | ok t => exact ih (done + 1) t

theorem applyBatch (batch : List Edit) (s : Session) :
    (f s).applyBatch other batch = f (s.applyBatch peer batch) := by
  unfold Session.applyBatch
  rw [unseen.localChange]
  exact unseen.applyAll _ 0 batch _

/-- An event is received as before, where the map goes through the end of the session or the event
does not end it. -/
theorem receive {event : Incoming} {s : Session}
    (ends : s.phase = .live → event = .disconnect →
      f (s.shutDown .remoteDisconnect) = (f s).shutDown .remoteDisconnect) :
    (f s).receive other event = f (s.receive peer event) := by
  unfold Session.receive
  rw [unseen.phase]
  cases known : s.phase <;> cases event
  case awaitingSnapshot.document document => exact (unseen.goLive document s).symm
  case live.edits batch => exact unseen.applyBatch batch s
  case live.disconnect => exact (ends known rfl).symm
  case live.presence payload => exact (unseen.presence payload s).symm
  case disconnected.document | disconnected.edits | disconnected.disconnect
      | disconnected.presence =>
    exact (unseen.note rfl s).symm
  all_goals exact (unseen.complain (by simp) s).symm

/-- To leave is as before, where the map goes through the end of the session. -/
theorem leave {ending : Ending} {s : Session}
    (ends : f (s.shutDown ending) = (f s).shutDown ending) :
    (f s).leave ending = f (s.leave ending) := by
  unfold Session.leave
  rw [unseen.phase]
  split
  · rfl
  · exact ends.symm

end Unseen

/-- Two maps one after the other. -/
theorem Unseen.comp {f g : Session → Session} {peer other third : Peer}
    (second : Unseen g other third) (first : Unseen f peer other) :
    Unseen (fun s => g (f s)) peer third where
  phase s := (second.phase (f s)).trans (first.phase s)
  pending s := (second.pending (f s)).trans (first.pending s)
  text s := (second.text (f s)).trans (first.text s)
  note own s := (congrArg g (first.note own s)).trans (second.note own (f s))
  complain own s := (congrArg g (first.complain own s)).trans (second.complain own (f s))
  send e s := (congrArg g (first.send e s)).trans (second.send e (f s))
  write e content s := (congrArg g (first.write e content s)).trans (second.write e content (f s))
  goLive document s := (congrArg g (first.goLive document s)).trans (second.goLive document (f s))
  presence payload s :=
    (congrArg g (first.presence payload s)).trans (second.presence payload (f s))

end Session
end TextSync
