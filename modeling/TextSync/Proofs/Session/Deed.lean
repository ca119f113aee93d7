import Mathlib.Logic.Relation
import TextSync.Proofs.Edit.Between
import TextSync.Session.Loop

/-!
# What a session does, one deed at a time

Whatever a session does by a handler, by the loop or at its end is a chain of the few deeds below,
each with what must hold when it is done: an edit is sent only while live and only for a text that
differs, a remote edit is written only into a text that the session knows. What a deed keeps, every
handler and every run keeps.

What happens to the queues, the ticker and the clock is one deed, `around`; it touches neither the
texts nor what the session has done.
-/

namespace TextSync

/-- The edit that a call sends, whatever the answer. -/
def Call.sent? : Call → Option Edit
  | .send edit _ => some edit
  | _ => none

namespace Session

variable {peer : Peer} {s t : Session} {e : Edit}

/-- The edits sent so far, in order. -/
def sentEdits (s : Session) : List Edit := (s.calls.filterMap (·.call.sent?)).reverse

/-- Whether the session knows the user's text. -/
def InStep (s : Session) : Prop := s.content = s.editor.content

/-! ## The beginning -/

/-- A session begins with the listener's place of its editor, which is read-only from then on. -/
theorem start_eq_ok {settings : Settings} {inbox : Inbox} {editor : Editor} {now : Nat}
    (started : start settings inbox editor now = .ok s) :
    editor.signals.listener = .offered ∧ ∃ positive : 0 < settings.pollPeriod, s = {
      editor := { editor with
        editable := false
        signals := { editor.signals with listener := .taken } }
      inbox
      phase := .awaitingSnapshot
      content := []
      history := .start []
      ticker := .stopped settings.pollPeriod positive
      tally := {}
      teardownRequested := false
      dropped := false
      now
      calls := []
      log := [.awaitingSnapshot] } := by
  unfold start at started
  split at started
  · cases started
  · rename_i valid
    by_cases offered : editor.signals.listener = .offered
    · have taken : (editor.setEditable false).takeSignals? = some { editor with
          editable := false
          signals := { editor.signals with listener := .taken } } := by
        simp [Editor.takeSignals?, Editor.setEditable, Signals.take?, offered]
      simp only [taken] at started
      cases started
      exact ⟨offered, (Settings.fault?_eq_none_iff.1 valid).1, rfl⟩
    · have refused : (editor.setEditable false).takeSignals? = none := by
        simp [Editor.takeSignals?, Editor.setEditable, Signals.take?, offered]
      simp only [refused] at started
      cases started

/-! ## Sending -/

theorem pending_eq_none_iff : s.pending = none ↔ s.InStep := Edit.between_eq_none_iff

/-- An edit is found only where the session does not know the text. -/
theorem not_inStep_of_pending (found : s.pending = some e) : ¬ s.InStep := by
  intro known
  rw [pending_eq_none_iff.2 known] at found
  cases found

@[simp] theorem send_content : (s.send peer e).content = s.content := by
  unfold send
  cases peer s.calls e <;> rfl

@[simp] theorem send_editor : (s.send peer e).editor = s.editor := by
  unfold send
  cases peer s.calls e <;> rfl

@[simp] theorem send_history : (s.send peer e).history = s.history := by
  unfold send
  cases peer s.calls e <;> rfl

@[simp] theorem send_applied : (s.send peer e).tally.applied = s.tally.applied := by
  unfold send
  cases peer s.calls e <;> rfl

@[simp] theorem send_phase : (s.send peer e).phase = s.phase := (send_sameCourse peer e s).phase

@[simp] theorem send_sentEdits : (s.send peer e).sentEdits = s.sentEdits ++ [e] := by
  unfold send
  cases peer s.calls e <;> simp [recordSend, call, note, count, sentEdits, Call.sent?]

/-- A look at a text that the session knows is no change. -/
theorem localChange_of_inStep (live : s.phase = .live) (known : s.InStep) :
    s.localChange peer = (none, s) := by
  simp only [localChange, if_pos live, pending_eq_none_iff.2 known]

/-- After a look at the editor a live session knows the user's text. -/
theorem localChange_inStep (live : s.phase = .live) : (s.localChange peer).2.InStep := by
  unfold localChange
  rw [if_pos live]
  split
  · rename_i nothing
    exact pending_eq_none_iff.1 nothing
  · simp [InStep, accept]

theorem localChange_editor (peer : Peer) (s : Session) :
    (s.localChange peer).2.editor = s.editor := by
  unfold localChange
  split
  · split
    · rfl
    · exact send_editor
  · rfl

/-! ## Writing -/

/-- What an edit of others leaves behind, once it fits. -/
theorem applyRemote_eq_ok (applied : s.applyRemote e = .ok t) :
    ∃ content, e.apply s.editor.content = .ok content ∧ t = { s with
      editor := (s.editor.setContent content).select (s.editor.selection.remap e content.length)
      content
      history := s.history.record .there e
      tally := { s.tally with applied := s.tally.applied + 1 } } := by
  unfold applyRemote at applied
  split at applied
  · cases applied
  · rename_i content fits
    cases applied
    exact ⟨content, fits, rfl⟩

theorem applyRemote_inStep (applied : s.applyRemote e = .ok t) : t.InStep := by
  obtain ⟨content, -, rfl⟩ := applyRemote_eq_ok applied
  rfl

/-! ## Deeds -/

/-- One thing that a session does, or that happens to its queues, its ticker or its clock. -/
inductive Deed (peer : Peer) (s : Session) : Session → Prop
  | note (notice : Notice) : Deed peer s (s.note notice)
  | complain (complaint : Complaint) (on : s.phase ≠ .disconnected) :
      Deed peer s (s.protocolError complaint)
  | send {e : Edit} (live : s.phase = .live) (found : s.pending = some e) :
      Deed peer s ((s.accept e).send peer e)
  | write {e : Edit} {t : Session} (live : s.phase = .live) (known : s.InStep)
      (applied : s.applyRemote e = .ok t) : Deed peer s t
  | goLive (document : Document) (awaiting : s.phase = .awaitingSnapshot) :
      Deed peer s (s.goLive document)
  | presence (payload : Json) (live : s.phase = .live) : Deed peer s (s.call (.presence payload))
  | cursor (live : s.phase = .live) : Deed peer s
      (s |>.count (fun t => { t with cursorReports := t.cursorReports + 1 })
        |>.call (.cursor s.editor.selection.start))
  | shutDown (ending : Ending) (on : s.phase ≠ .disconnected) : Deed peer s (s.shutDown ending)
  | around (queued : Nat) (inbox : Inbox) (ticker : Ticker) (teardownRequested dropped : Bool)
      (now : Nat) : Deed peer s { s with
        editor := { s.editor with signals := { s.editor.signals with queued } }
        inbox, ticker, teardownRequested, dropped, now }

/-- A chain of deeds. -/
abbrev Deeds (peer : Peer) : Session → Session → Prop := Relation.ReflTransGen (Deed peer)

/-- What every deed keeps, every chain of deeds keeps. -/
theorem Deeds.keep {P : Session → Prop} (deeds : Deeds peer s t)
    (keep : ∀ {s t : Session}, Deed peer s t → P s → P t) (holds : P s) : P t := by
  induction deeds with
  | refl => exact holds
  | tail _ deed ih => exact keep deed ih

theorem Deed.chain (deed : Deed peer s t) : Deeds peer s t := .single deed

theorem deeds_localChange (peer : Peer) (s : Session) : Deeds peer s (s.localChange peer).2 := by
  unfold localChange
  split
  · rename_i live
    split
    · exact .refl
    · rename_i e found
      exact (Deed.send live found).chain
  · exact (Deed.note _).chain

/-- From a text that the session knows, a batch is a chain of writes with a complaint at its end, if
any. -/
theorem deeds_applyAll (peer : Peer) (total done : Nat) (batch : List Edit)
    (live : s.phase = .live) (known : s.InStep) : Deeds peer s (applyAll total done batch s) := by
  induction batch generalizing done s with
  | nil => exact .refl
  | cons e rest ih =>
    unfold applyAll
    split
    · rename_i t applied
      have still : t.phase = .live := (applyRemote_sameCourse applied).phase.trans live
      exact .head (.write live known applied) (ih (done + 1) still (applyRemote_inStep applied))
    · exact (Deed.complain _ (by simp [live])).chain

/-- The edits of a batch are written into a text that the session knows, because it looks at the
editor first. -/
theorem deeds_applyBatch (peer : Peer) (batch : List Edit) (live : s.phase = .live) :
    Deeds peer s (s.applyBatch peer batch) := by
  have still : (s.localChange peer).2.phase = .live :=
    (localChange_sameCourse peer s).phase.trans live
  exact (deeds_localChange peer s).trans
    (deeds_applyAll peer _ _ batch still (localChange_inStep live))

/-- The answer to an event, at any stage, is a chain of deeds. -/
theorem deeds_receive (peer : Peer) (event : Incoming) (s : Session) :
    Deeds peer s (s.receive peer event) := by
  unfold receive
  split
  · rename_i awaiting
    exact (Deed.goLive _ awaiting).chain
  · rename_i live
    exact deeds_applyBatch peer _ live
  · rename_i live
    exact (Deed.shutDown _ (by simp [live])).chain
  · rename_i live
    exact (Deed.presence _ live).chain
  · exact (Deed.note _).chain
  · rename_i on _ _ _ _
    exact (Deed.complain _ on).chain

theorem deeds_reportCursor (peer : Peer) (s : Session) : Deeds peer s s.reportCursor.2 := by
  unfold reportCursor
  split
  · rename_i live
    exact (Deed.cursor live).chain
  · exact .refl

/-- To leave is to shut down, or nothing once the session has ended. -/
theorem leave_keeps {P : Session → Prop} (ending : Ending) (here : P s)
    (shut : s.phase ≠ .disconnected → P (s.shutDown ending)) : P (s.leave ending) := by
  unfold leave
  split
  · exact here
  · rename_i on
    exact shut on

theorem deeds_leave (peer : Peer) (ending : Ending) (s : Session) :
    Deeds peer s (s.leave ending) :=
  leave_keeps ending .refl fun on => (Deed.shutDown ending on).chain

/-! ## The loop -/

/-- A turn of the loop is a chain of deeds. -/
theorem deeds_take (peer : Peer) (turn : Turn) (on : s.phase ≠ .disconnected) :
    Deeds peer s (s.take peer turn) := by
  cases turn with
  | teardown => exact (Deed.shutDown _ on).chain
  | signal =>
    have heard : Deed peer s { s with editor := { s.editor with signals := s.editor.signals.next } } :=
      .around (s.editor.signals.queued - 1) s.inbox s.ticker s.teardownRequested s.dropped s.now
    exact .head heard (deeds_localChange peer _)
  | editorClosed => exact (Deed.shutDown _ on).chain
  | event event rest =>
    have taken : Deed peer s { s with inbox := { s.inbox with queued := rest } } :=
      .around s.editor.signals.queued _ s.ticker s.teardownRequested s.dropped s.now
    exact .head taken (deeds_receive peer event _)
  | inboxClosed => exact (Deed.shutDown _ on).chain
  | tick =>
    have fired : Deed peer s { s with ticker := s.ticker.fire s.now } :=
      .around s.editor.signals.queued s.inbox _ s.teardownRequested s.dropped s.now
    exact .head fired (deeds_reportCursor peer _)

theorem deed_waitUntil (peer : Peer) (moment : Nat) (s : Session) :
    Deed peer s (s.waitUntil moment) :=
  .around s.editor.signals.queued s.inbox (s.ticker.arm s.now) s.teardownRequested s.dropped moment

end Session
end TextSync
