import TextSync.Proofs.Session.Accounts

/-!
# Reports of the caret

The loop reports the caret when it takes a tick, and at no other time (`reported_of_unreported`,
`reported_of_tick`). A move acts on the ticker in one of few ways, each of which belongs to a stage
of the session's life (`Passage`). All that is said of reports and of the ticker is read off these.
-/

namespace TextSync.Session

variable {peer : Peer} {s t : Session} {m : Move}

/-! ## Calls that are no reports -/

/-- From one moment to a later one no call reports the caret. -/
abbrev Unreported (s t : Session) : Prop := Adds (·.call.isCursor = false) s t

theorem unreported_send (peer : Peer) (e : Edit) (s : Session) : Unreported s (s.send peer e) := by
  unfold send
  cases peer s.calls e with
  | delivered => exact adds_of_call rfl rfl
  | undeliverable => exact adds_of_call rfl rfl
  | refused reason =>
    have sent : Unreported s (s.call (.send e (.refused reason))) := adds_of_call rfl rfl
    exact sent.trans (adds_of_call rfl rfl)

theorem unreported_localChange (peer : Peer) (s : Session) :
    Unreported s (s.localChange peer).2 := by
  unfold localChange
  split
  · split
    · exact adds_of_eq rfl
    · exact unreported_send peer _ (s.accept _)
  · exact adds_of_eq rfl

theorem unreported_applyAll (total done : Nat) (batch : List Edit) (s : Session) :
    Unreported s (applyAll total done batch s) := by
  induction batch generalizing done s with
  | nil => exact adds_of_eq rfl
  | cons e rest ih =>
    unfold applyAll
    split
    · rename_i t applied
      obtain ⟨content, -, rfl⟩ := applyRemote_eq_ok applied
      exact ih (done + 1) _
    · exact adds_of_call rfl rfl

theorem unreported_receive (peer : Peer) (event : Incoming) (s : Session) :
    Unreported s (s.receive peer event) := by
  unfold receive
  split
  · exact adds_of_eq rfl
  · exact (unreported_localChange peer s).trans (unreported_applyAll _ _ _ _)
  · exact adds_of_eq rfl
  · exact adds_of_call rfl rfl
  · exact adds_of_eq rfl
  · exact adds_of_call rfl rfl

/-! ## Reports -/

/-- The reports of the caret that a move makes, in order, if it is a pass of the loop. -/
def reported (peer : Peer) (s : Session) : Move → List Entry
  | .pass time => (s.callsSince (s.pass peer time)).filter (·.call.isCursor)
  | _ => []

/-- The reports of the caret that the loop makes in the course of some moves, in order, if none of
them is a run. -/
def reportedBy (s : Session) : List (Peer × Move) → List Entry
  | [] => []
  | m :: rest => s.reported m.1 m.2 ++ (s.move m.1 m.2).reportedBy rest

theorem reportedBy_append (s : Session) (first rest : List (Peer × Move)) :
    s.reportedBy (first ++ rest) = s.reportedBy first ++ (s.after first).reportedBy rest := by
  induction first generalizing s with
  | nil => rfl
  | cons m first ih => rw [List.cons_append, reportedBy, ih, reportedBy, List.append_assoc]; rfl

/-- A wait is no report. -/
theorem unreported_of_idle {time : Nat} (on : s.phase ≠ .disconnected) (idle : s.ready = none) :
    Unreported s (s.pass peer time) := by
  rw [pass_of_idle on idle]
  exact adds_of_eq rfl

/-- A pass that makes other calls only reports nothing. -/
theorem reported_of_unreported {time : Nat} (silent : Unreported s (s.pass peer time)) :
    s.reported peer (.pass time) = [] := by
  obtain ⟨new, called, none⟩ := silent
  show (s.callsSince _).filter _ = []
  rw [callsSince_of_append called, List.filter_eq_nil_iff]
  intro entry member
  rw [none entry (List.mem_reverse.1 member)]
  exact Bool.false_ne_true

/-- A tick that is taken while the session is live reports where the caret is. -/
theorem reported_of_tick {time : Nat} (live : s.phase = .live) (isReady : s.ready = some .tick) :
    s.reported peer (.pass time) = [⟨s.now, .cursor s.editor.selection.start⟩] := by
  have taken : s.pass peer time = s.take peer .tick := pass_of_ready (by simp [live]) isReady
  have called : (s.pass peer time).calls
      = [⟨s.now, .cursor s.editor.selection.start⟩] ++ s.calls := by
    rw [taken]
    simp [take, reportCursor, live, call, count]
  show (s.callsSince _).filter _ = _
  rw [callsSince_of_append called]
  rfl

/-! ## What a move does to the ticker -/

/-- What a move that is no run does to the stage, the ticker and the clock of a session, with the
reports of the caret that it makes as a pass of the loop. -/
inductive Passage (s : Session) (m : Move) (t : Session) : List Entry → Prop
  | aside (phase : t.phase = s.phase) (ticker : t.ticker = s.ticker) (now : t.now = s.now) :
      Passage s m t []
  | joins (awaiting : s.phase = .awaitingSnapshot) (live : t.phase = .live)
      (ticker : t.ticker = s.ticker.start) : Passage s m t []
  | leaves (ended : t.phase = .disconnected) (ticker : t.ticker = s.ticker.stop) : Passage s m t []
  | sleeps (time : Nat) (sleep : m = .step (.sleep time)) (phase : t.phase = s.phase)
      (ticker : t.ticker = s.ticker) : Passage s m t []
  | waits (time : Nat) (pass : m = .pass time) (idle : s.ready = none) (phase : t.phase = s.phase)
      (ticker : t.ticker = s.ticker.arm s.now) (now : t.now = s.now + time) : Passage s m t []
  | tick (live : s.phase = .live) (due : s.ticker.isDue s.now = true) (phase : t.phase = s.phase)
      (ticker : t.ticker = s.ticker.fire s.now) (now : t.now = s.now) :
      Passage s m t [⟨s.now, .cursor s.editor.selection.start⟩]

theorem SameCourse.passage (same : SameCourse s t) : Passage s m t [] :=
  .aside same.phase same.ticker same.now

/-- An event lets the session join or leave, or passes the ticker by. -/
theorem passage_receive (peer : Peer) (event : Incoming) (inbox : Inbox) (s : Session) :
    Passage s m ({ s with inbox }.receive peer event) [] := by
  have course {t : Session} (same : SameCourse { s with inbox } t) : Passage s m t [] :=
    .aside same.phase same.ticker same.now
  unfold receive
  split
  · exact .joins (by assumption) rfl rfl
  · exact course (applyBatch_sameCourse peer _ _)
  · exact .leaves rfl rfl
  · exact .aside rfl rfl rfl
  · exact .aside rfl rfl rfl
  · exact .aside rfl rfl rfl

theorem passage_leave (ending : Ending) (s : Session) : Passage s m (s.leave ending) [] :=
  leave_keeps (P := fun t => Passage s m t []) ending (.aside rfl rfl rfl)
    fun _ => .leaves rfl rfl

/-- Where the ticker runs only while the session is live, a tick is a report. -/
theorem passage_pass (reports : s.ticker.running = true → s.phase = .live) (peer : Peer)
    (time : Nat) : Passage s (.pass time) (s.pass peer time) (s.reported peer (.pass time)) := by
  by_cases ended : s.phase = .disconnected
  · have still : s.pass peer time = s := pass_of_disconnected ended
    rw [reported_of_unreported (adds_of_eq (congrArg calls still)), still]
    exact .aside rfl rfl rfl
  cases isReady : s.ready with
  | none =>
    have waited : s.pass peer time = s.waitUntil (s.now + time) := pass_of_idle ended isReady
    rw [reported_of_unreported (unreported_of_idle ended isReady), waited]
    exact .waits time rfl isReady rfl rfl rfl
  | some turn =>
    have taken : s.pass peer time = s.take peer turn := pass_of_ready ended isReady
    have silent (none : Unreported s (s.take peer turn)) : s.reported peer (.pass time) = [] :=
      reported_of_unreported (taken ▸ none)
    rw [taken]
    cases turn with
    | teardown | editorClosed | inboxClosed =>
      rw [silent (adds_of_eq rfl)]
      exact .leaves rfl rfl
    | signal =>
      rw [silent (unreported_localChange peer
        { s with editor := { s.editor with signals := s.editor.signals.next } })]
      have same := localChange_sameCourse peer
        { s with editor := { s.editor with signals := s.editor.signals.next } }
      exact .aside same.phase same.ticker same.now
    | event event rest =>
      have received := unreported_receive peer event
        { s with inbox := { s.inbox with queued := rest } }
      rw [silent received]
      exact passage_receive peer event _ s
    | tick =>
      have due := ready_eq_tick isReady
      have runs : s.ticker.running = true := by
        unfold Ticker.isDue at due
        exact (Bool.and_eq_true_iff.1 due).1
      have live := reports runs
      rw [reported_of_tick live isReady]
      have same := reportCursor_sameCourse { s with ticker := s.ticker.fire s.now }
      exact .tick live due same.phase same.ticker same.now

/-- Every move is one of these passages, as long as the ticker runs only while the session is
live. -/
theorem passage_move (reports : s.ticker.running = true → s.phase = .live) (peer : Peer)
    (single : m.isRun = false) : Passage s m (s.move peer m) (s.reported peer m) := by
  have held {after : Session} (answer : Answer) (passage : Passage s m after []) :
      Passage s m (s.whileHeld answer after).2 [] :=
    whileHeld_keeps (P := fun t => Passage s m t []) answer (.aside rfl rfl rfl) passage
  cases m with
  | pass time => exact passage_pass reports peer time
  | stray => exact .aside rfl rfl rfl
  | step step =>
    cases step with
    | act | offer | closeSender | requestTeardown => exact .aside rfl rfl rfl
    | receive event => exact held _ (passage_receive peer event s.inbox s)
    | localChange => exact held _ (localChange_sameCourse peer s).passage
    | reportCursor => exact held _ (reportCursor_sameCourse s).passage
    | teardown => exact held _ (passage_leave .teardown s)
    | run => cases single
    | sleep time => exact .sleeps time rfl rfl rfl
    | drop =>
      refine leave_keeps (P := fun t => Passage s _ { t with dropped := true } []) .dropped ?_ ?_
      · exact .aside rfl rfl rfl
      · intro _
        exact .leaves rfl rfl

end TextSync.Session
