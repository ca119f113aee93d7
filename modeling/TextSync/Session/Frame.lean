import TextSync.Session

/-!
What the handlers of a session leave alone. None of them moves the clock or puts anything into a
queue; sending and writing touch neither the inbox nor the ticker nor the stage of life.
-/

namespace TextSync.Session

/-- What waits in the queues of a session. -/
def waiting (s : Session) : Nat := s.editor.signals.queued + s.inbox.queued.length

/-- Two sessions that agree in all but the texts, the selection and the records. -/
structure SameCourse (s t : Session) : Prop where
  signals : t.editor.signals = s.editor.signals
  inbox : t.inbox = s.inbox
  phase : t.phase = s.phase
  ticker : t.ticker = s.ticker
  teardownRequested : t.teardownRequested = s.teardownRequested
  now : t.now = s.now

theorem SameCourse.refl (s : Session) : SameCourse s s := ⟨rfl, rfl, rfl, rfl, rfl, rfl⟩

theorem SameCourse.trans {s t u : Session} (first : SameCourse s t) (second : SameCourse t u) :
    SameCourse s u where
  signals := second.signals.trans first.signals
  inbox := second.inbox.trans first.inbox
  phase := second.phase.trans first.phase
  ticker := second.ticker.trans first.ticker
  teardownRequested := second.teardownRequested.trans first.teardownRequested
  now := second.now.trans first.now

/-- On the same course as much waits in the queues. -/
theorem SameCourse.waiting {s t : Session} (same : SameCourse s t) : t.waiting = s.waiting := by
  unfold Session.waiting
  rw [same.signals, same.inbox]

theorem note_sameCourse (n : Notice) (s : Session) : SameCourse s (s.note n) :=
  ⟨rfl, rfl, rfl, rfl, rfl, rfl⟩

theorem protocolError_sameCourse (c : Complaint) (s : Session) :
    SameCourse s (s.protocolError c) :=
  ⟨rfl, rfl, rfl, rfl, rfl, rfl⟩

theorem send_sameCourse (peer : Peer) (e : Edit) (s : Session) : SameCourse s (s.send peer e) := by
  unfold send
  cases peer s.calls e <;> exact ⟨rfl, rfl, rfl, rfl, rfl, rfl⟩

/-- A look at the editor sends at most, and sending is no change of course. -/
theorem localChange_sameCourse (peer : Peer) (s : Session) :
    SameCourse s (s.localChange peer).2 := by
  unfold localChange
  split
  · split
    · exact SameCourse.refl s
    · rename_i e _
      have accepted : SameCourse s (s.accept e) := ⟨rfl, rfl, rfl, rfl, rfl, rfl⟩
      exact accepted.trans (send_sameCourse peer e _)
  · exact note_sameCourse _ s

theorem applyRemote_sameCourse {e : Edit} {s t : Session} (applied : s.applyRemote e = .ok t) :
    SameCourse s t := by
  unfold applyRemote at applied
  split at applied
  · cases applied
  · cases applied
    exact ⟨rfl, rfl, rfl, rfl, rfl, rfl⟩

theorem applyAll_sameCourse (total done : Nat) (batch : List Edit) (s : Session) :
    SameCourse s (applyAll total done batch s) := by
  induction batch generalizing done s with
  | nil => exact SameCourse.refl s
  | cons e rest ih =>
    unfold applyAll
    split
    · rename_i t applied
      exact (applyRemote_sameCourse applied).trans (ih (done + 1) t)
    · exact protocolError_sameCourse _ s

/-- A batch writes the text, counts and complains, and no more. -/
theorem applyBatch_sameCourse (peer : Peer) (batch : List Edit) (s : Session) :
    SameCourse s (s.applyBatch peer batch) :=
  (localChange_sameCourse peer s).trans (applyAll_sameCourse _ _ batch _)

/-- A report leaves the ticker to the loop. -/
theorem reportCursor_sameCourse (s : Session) : SameCourse s s.reportCursor.2 := by
  unfold reportCursor
  split <;> exact ⟨rfl, rfl, rfl, rfl, rfl, rfl⟩

/-- What waits when a session ends is lost. -/
theorem shutDown_waiting (ending : Ending) (s : Session) : (s.shutDown ending).waiting = 0 := rfl

/-- No event adds to what waits. -/
theorem receive_waiting_le (peer : Peer) (event : Incoming) (s : Session) :
    (s.receive peer event).waiting ≤ s.waiting := by
  unfold receive
  split
  · exact Nat.le_refl _
  · exact Nat.le_of_eq (applyBatch_sameCourse peer _ s).waiting
  · rw [shutDown_waiting]
    exact Nat.zero_le _
  · exact Nat.le_refl _
  · exact Nat.le_refl _
  · exact Nat.le_refl _

/-- No event takes time. -/
theorem receive_now (peer : Peer) (event : Incoming) (s : Session) :
    (s.receive peer event).now = s.now := by
  unfold receive
  split
  · rfl
  · exact (applyBatch_sameCourse peer _ s).now
  · rfl
  · rfl
  · rfl
  · rfl

end TextSync.Session
