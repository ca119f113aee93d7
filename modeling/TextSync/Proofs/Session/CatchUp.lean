import TextSync.Proofs.Session.Run
import TextSync.Proofs.Session.Unseen

/-!
# A run is a straight line

A run first catches up: it looks at the editor once for every signal that waits, and then receives
every event that waits, in order. The handlers do not see the queues, so this comes to calling them
one after the other on a session whose queues are empty (`run_eq_run_catchUp`). A run that has no
time does just that, and reports the caret for the ticks that were due (`run_zero`).
-/

namespace TextSync.Session

variable {peer : Peer} {s t : Session} {time : Nat}

/-! ## The queues put aside -/

/-- The session with other signals and events waiting for it. -/
def holding (signals : Nat) (events : List Incoming) (s : Session) : Session :=
  { s with
    editor := { s.editor with signals := { s.editor.signals with queued := signals } }
    inbox := { s.inbox with queued := events } }

theorem holding_eq_self {signals : Nat} {events : List Incoming}
    (quiet : s.editor.signals.queued = signals) (empty : s.inbox.queued = events) :
    s.holding signals events = s := by
  rw [← quiet, ← empty]
  rfl

section Holding

variable (peer : Peer) (signals : Nat) (events : List Incoming)

theorem send_holding (e : Edit) (s : Session) :
    (s.holding signals events).send peer e = (s.send peer e).holding signals events := by
  show (s.holding signals events).recordSend e (peer s.calls e)
    = (s.recordSend e (peer s.calls e)).holding signals events
  cases peer s.calls e <;> rfl

/-- The handlers do not see the queues. -/
theorem unseen_holding : Unseen (holding signals events) peer peer where
  phase _ := rfl
  pending _ := rfl
  text _ := rfl
  note _ _ := rfl
  complain _ _ := rfl
  send e s := (send_holding peer signals events e (s.accept e)).symm
  write _ _ _ := rfl
  goLive _ _ := rfl
  presence _ _ := rfl

theorem localChange_holding (s : Session) :
    ((s.holding signals events).localChange peer).2
      = (s.localChange peer).2.holding signals events :=
  congrArg Prod.snd ((unseen_holding peer signals events).localChange s)

/-- Only a disconnect, which ends a live session, does anything to what waits behind it. -/
theorem receive_holding {event : Incoming} {s : Session}
    (other : ¬ (s.phase = .live ∧ event = .disconnect)) :
    (s.holding signals events).receive peer event
      = (s.receive peer event).holding signals events :=
  (unseen_holding peer signals events).receive fun live disconnects =>
    absurd ⟨live, disconnects⟩ other

end Holding

/-! ## The handlers one after the other -/

/-- Looks at the editor a number of times. -/
def localChanges (peer : Peer) : Nat → Session → Session
  | 0, s => s
  | n + 1, s => localChanges peer n (s.localChange peer).2

/-- Receives events in order, each once, up to the end of the session. -/
def receiveAll (peer : Peer) : List Incoming → Session → Session
  | [], s => s
  | event :: rest, s =>
    if s.phase = .disconnected then s else receiveAll peer rest (s.receive peer event)

/-- Reports the caret a number of times. -/
def reportCursors : Nat → Session → Session
  | 0, s => s
  | n + 1, s => reportCursors n s.reportCursor.2

/-- The session once it has looked at the editor for every signal. Its queues are put aside. -/
def heard (peer : Peer) (s : Session) : Session :=
  localChanges peer s.editor.signals.queued (s.holding 0 [])

/-- The session once it has received what waited as well. -/
def received (peer : Peer) (s : Session) : Session :=
  receiveAll peer s.inbox.queued (s.heard peer)

/-- Deals with all that waits, without a loop. -/
def catchUp (peer : Peer) (s : Session) : Session :=
  if s.phase = .disconnected then s
  else if s.teardownRequested then s.shutDown .teardown
  else if !s.editor.signals.sending then (s.heard peer).shutDown .editorClosed
  else if (s.received peer).phase ≠ .disconnected ∧ !s.inbox.sending then
    (s.received peer).shutDown .inboxClosed
  else s.received peer

theorem localChanges_sameCourse (peer : Peer) (n : Nat) (s : Session) :
    SameCourse s (localChanges peer n s) := by
  induction n generalizing s with
  | zero => exact SameCourse.refl s
  | succ n ih => exact (localChange_sameCourse peer s).trans (ih _)

/-! ## The loop against the line -/

/-- A connected session that nobody has asked to end. -/
structure Open (s : Session) : Prop where
  on : s.phase ≠ .disconnected
  unasked : s.teardownRequested = false

theorem Open.holding (isOpen : s.Open) (signals : Nat) (events : List Incoming) :
    (s.holding signals events).Open := ⟨isOpen.on, isOpen.unasked⟩

theorem SameCourse.isOpen (same : SameCourse s t) (isOpen : s.Open) : t.Open :=
  ⟨same.phase ▸ isOpen.on, same.teardownRequested.trans isOpen.unasked⟩

theorem receive_disconnect (live : s.phase = .live) :
    s.receive peer .disconnect = s.shutDown .remoteDisconnect := by
  simp [receive, live]

/-- An event other than a disconnect leaves an open session open and its queues alone. -/
theorem Open.receive (isOpen : s.Open) (peer : Peer) {event : Incoming}
    (other : ¬ (s.phase = .live ∧ event = .disconnect)) :
    (s.receive peer event).Open ∧ (s.receive peer event).editor.signals = s.editor.signals ∧
      (s.receive peer event).inbox = s.inbox := by
  unfold Session.receive
  split
  · exact ⟨⟨(fun ended => nomatch ended), isOpen.unasked⟩, rfl, rfl⟩
  · have same := applyBatch_sameCourse peer (by assumption) s
    exact ⟨same.isOpen isOpen, same.signals, same.inbox⟩
  · rename_i live
    exact absurd ⟨live, rfl⟩ other
  · exact ⟨⟨isOpen.on, isOpen.unasked⟩, rfl, rfl⟩
  · rename_i ended
    exact absurd ended isOpen.on
  · exact ⟨⟨isOpen.on, isOpen.unasked⟩, rfl, rfl⟩

/-- The loop looks at the editor once for every signal, before anything else. -/
theorem run_hears (isOpen : s.Open) (signals : Nat) (events : List Incoming) :
    (s.holding signals events).run peer time
      = ((localChanges peer signals s).holding 0 events).run peer time := by
  induction signals generalizing s with
  | zero => rfl
  | succ n ih =>
    have waits := isOpen.holding (n + 1) events
    have isReady := ready_of_signal waits.unasked (Nat.succ_pos n)
    have taken : (s.holding (n + 1) events).take peer .signal
        = (s.localChange peer).2.holding n events := localChange_holding peer n events s
    rw [run_of_ready waits.on isReady, taken]
    exact ih ((localChange_sameCourse peer s).isOpen isOpen)

theorem receiveAll_of_disconnected (ended : s.phase = .disconnected) (events : List Incoming) :
    receiveAll peer events s = s := by
  cases events with
  | nil => rfl
  | cons event rest => exact if_pos ended

/-- With no signal left, the loop receives every event in order, up to the end of the session. -/
theorem run_receives (isOpen : s.Open) (tells : s.editor.signals.sending = true)
    (events : List Incoming) :
    (s.holding 0 events).run peer time
      = (receiveAll peer events (s.holding 0 [])).run peer time := by
  induction events generalizing s with
  | nil => rfl
  | cons event rest ih =>
    have waits := isOpen.holding 0 (event :: rest)
    have isReady := ready_of_event waits.unasked rfl tells rfl
    have taken : (s.holding 0 (event :: rest)).take peer (.event event rest)
        = (s.holding 0 rest).receive peer event := rfl
    have on : (s.holding 0 []).phase ≠ .disconnected := isOpen.on
    rw [run_of_ready waits.on isReady, taken, receiveAll, if_neg on]
    by_cases disconnects : s.phase = .live ∧ event = .disconnect
    · obtain ⟨live, rfl⟩ := disconnects
      have ends : ∀ events, (s.holding 0 events).receive peer .disconnect
          = s.shutDown .remoteDisconnect := fun events =>
        receive_disconnect (s := s.holding 0 events) live
      rw [ends, ends, receiveAll_of_disconnected rfl]
    · obtain ⟨still, signals, -⟩ := isOpen.receive peer disconnects
      rw [receive_holding peer 0 rest disconnects, receive_holding peer 0 [] disconnects]
      exact ih still (signals ▸ tells)

/-- Receiving leaves a session that stays connected open and its queues alone. -/
theorem Open.receiveAll (isOpen : s.Open) (peer : Peer) (events : List Incoming)
    (on : (receiveAll peer events s).phase ≠ .disconnected) :
    (receiveAll peer events s).Open ∧
      (receiveAll peer events s).editor.signals = s.editor.signals ∧
      (receiveAll peer events s).inbox = s.inbox := by
  induction events generalizing s with
  | nil => exact ⟨isOpen, rfl, rfl⟩
  | cons event rest ih =>
    rw [Session.receiveAll, if_neg isOpen.on] at on ⊢
    by_cases disconnects : s.phase = .live ∧ event = .disconnect
    · obtain ⟨live, rfl⟩ := disconnects
      rw [receive_disconnect live, receiveAll_of_disconnected rfl] at on
      exact absurd rfl on
    · obtain ⟨still, signals, inbox⟩ := isOpen.receive peer disconnects
      obtain ⟨last, signals', inbox'⟩ := ih still on
      exact ⟨last, signals'.trans signals, inbox'.trans inbox⟩

/-! ## Caught up -/

/-- An open session with nothing waiting in its queues, whose far ends are as they were. -/
structure Emptied (s t : Session) : Prop extends Open t where
  quiet : t.editor.signals.queued = 0
  empty : t.inbox.queued = []
  tells : t.editor.signals.sending = s.editor.signals.sending
  sends : t.inbox.sending = s.inbox.sending

theorem SameCourse.emptied {u : Session} (same : SameCourse t u) (emptied : Emptied s t) :
    Emptied s u where
  toOpen := same.isOpen emptied.toOpen
  quiet := same.signals ▸ emptied.quiet
  empty := same.inbox ▸ emptied.empty
  tells := same.signals ▸ emptied.tells
  sends := same.inbox ▸ emptied.sends

theorem Open.heard (isOpen : s.Open) (peer : Peer) : Emptied s (s.heard peer) :=
  (localChanges_sameCourse peer s.editor.signals.queued (s.holding 0 [])).emptied
    ⟨isOpen.holding 0 [], rfl, rfl, rfl, rfl⟩

theorem Open.received (isOpen : s.Open) (on : (s.received peer).phase ≠ .disconnected) :
    Emptied s (s.received peer) := by
  have heard := isOpen.heard peer
  obtain ⟨received, signals, inbox⟩ := heard.toOpen.receiveAll peer s.inbox.queued on
  exact ⟨received, (congrArg _ signals).trans heard.quiet, (congrArg _ inbox).trans heard.empty,
    (congrArg _ signals).trans heard.tells, (congrArg _ inbox).trans heard.sends⟩

theorem run_eq_run_heard (isOpen : s.Open) :
    s.run peer time = ((s.heard peer).holding 0 s.inbox.queued).run peer time :=
  run_hears (isOpen.holding 0 []) s.editor.signals.queued s.inbox.queued

theorem run_eq_run_received (isOpen : s.Open) (tells : s.editor.signals.sending = true) :
    s.run peer time = (s.received peer).run peer time := by
  have heard := isOpen.heard peer
  calc s.run peer time
      = ((s.heard peer).holding 0 s.inbox.queued).run peer time := run_eq_run_heard isOpen
    _ = (receiveAll peer s.inbox.queued ((s.heard peer).holding 0 [])).run peer time :=
        run_receives heard.toOpen (heard.tells.trans tells) s.inbox.queued
    _ = (s.received peer).run peer time := by
        rw [holding_eq_self heard.quiet heard.empty]
        rfl

/-- A run of any length goes on from where the straight line ends. -/
theorem run_eq_run_catchUp (peer : Peer) (time : Nat) (s : Session) :
    s.run peer time = (s.catchUp peer).run peer time := by
  unfold catchUp
  split
  · rfl
  rename_i on
  split
  · rename_i asked
    exact run_of_ready on (ready_of_request asked)
  rename_i unasked
  have isOpen : s.Open := ⟨on, Bool.eq_false_iff.2 unasked⟩
  split
  · rename_i silent
    have heard := isOpen.heard peer
    have waits := heard.toOpen.holding 0 s.inbox.queued
    rw [run_eq_run_heard isOpen]
    exact run_of_ready waits.on
      (ready_of_editorClosed waits.unasked rfl (heard.tells.trans (by simpa using silent)))
  rename_i tells
  have received : s.run peer time = (s.received peer).run peer time :=
    run_eq_run_received isOpen (by simpa using tells)
  split
  · rename_i closed
    have emptied := isOpen.received closed.1
    rw [received]
    exact run_of_ready emptied.on (ready_of_inboxClosed emptied.unasked emptied.quiet
      (emptied.tells.trans (by simpa using tells)) emptied.empty
      (emptied.sends.trans (by simpa using closed.2)))
  · exact received

/-- The straight line ends the session or leaves nothing waiting, with both far ends in use. -/
theorem catchUp_cases (peer : Peer) (s : Session) :
    (s.catchUp peer).phase = .disconnected ∨ Emptied s (s.catchUp peer) ∧
      s.editor.signals.sending = true ∧ s.inbox.sending = true := by
  unfold catchUp
  split
  · exact .inl (by assumption)
  rename_i on
  split
  · exact .inl rfl
  rename_i unasked
  have isOpen : s.Open := ⟨on, Bool.eq_false_iff.2 unasked⟩
  split
  · exact .inl rfl
  rename_i tells
  split
  · exact .inl rfl
  rename_i notClosed
  by_cases ended : (s.received peer).phase = .disconnected
  · exact .inl ended
  · have sends : s.inbox.sending = true := by simpa [ended] using notClosed
    exact .inr ⟨isOpen.received ended, by simpa using tells, sends⟩

/-! ## The ticks -/

/-- A report of the caret does not see the ticker. -/
theorem reportCursors_ticker (n : Nat) (ticker : Ticker) (s : Session) :
    reportCursors n { s with ticker } = { reportCursors n s with ticker } := by
  induction n generalizing s with
  | zero => rfl
  | succ n ih =>
    have once : { s with ticker }.reportCursor.2 = { s.reportCursor.2 with ticker } := by
      unfold reportCursor
      split <;> rfl
    show reportCursors n { s with ticker }.reportCursor.2 = _
    rw [once]
    exact ih s.reportCursor.2

theorem Emptied.around (emptied : Emptied s t) (ticker : Ticker) (now : Nat) :
    Emptied s { t with ticker, now } :=
  ⟨⟨emptied.on, emptied.unasked⟩, emptied.quiet, emptied.empty, emptied.tells, emptied.sends⟩

/-- With nothing waiting and no time, the loop only takes the ticks that are due. -/
theorem run_ticks (peer : Peer) (emptied : Emptied s t) (tells : s.editor.signals.sending = true)
    (sends : s.inbox.sending = true) :
    ∃ reports ticker, (t.run peer 0).2 = { reportCursors reports t with ticker } ∧
      (0 < reports → t.ticker.isDue t.now = true) ∧ Emptied s (t.run peer 0).2 := by
  generalize instant : 0 = time
  fun_induction run peer time t with
  | case1 time t ended => exact absurd ended emptied.on
  | case2 time t on turn isReady ih =>
    rw [ready_of_open emptied.unasked emptied.quiet (emptied.tells.trans tells) emptied.empty
      (emptied.sends.trans sends)] at isReady
    split at isReady
    · rename_i due
      cases isReady
      let fired : Session := { t with ticker := t.ticker.fire t.now }
      have reported : Emptied s fired.reportCursor.2 :=
        (reportCursor_sameCourse fired).emptied (emptied.around _ _)
      obtain ⟨reports, ticker, same, -, last⟩ := ih reported instant
      refine ⟨reports + 1, ticker, same.trans ?_, fun _ => due, last⟩
      -- The report is made with the ticker fired, the straight line with the one before.
      have aside := reportCursors_ticker (reports + 1) (t.ticker.fire t.now) t
      exact congrArg (fun u : Session => { u with ticker }) aside
    · cases isReady
  | case3 time t on idle next ih =>
    -- The next tick is due later than now, and there is no time to wait for it.
    have later := lt_dueAt_of_ready_none idle next.1
    omega
  | case4 time t on idle late =>
    subst instant
    exact ⟨0, t.ticker.arm t.now, rfl, fun none => absurd none (Nat.lt_irrefl 0),
      emptied.around _ _⟩

/-- **A run without time is a straight line.** It comes to the handlers called one after the other
on what waits in the queues, up to the end of the session, and then to some reports of the caret if
a tick is due. But for the ticker, which only schedules those, the session is the same. It ends with
both queues empty or with the session over, which is when the run is finished. -/
theorem run_zero (peer : Peer) (s : Session) :
    (∃ reports ticker,
      (s.run peer 0).2 = { reportCursors reports (s.catchUp peer) with ticker } ∧
      (0 < reports → (s.catchUp peer).ticker.isDue (s.catchUp peer).now = true)) ∧
    ((s.run peer 0).2.phase ≠ .disconnected →
      (s.run peer 0).2.editor.signals.queued = 0 ∧ (s.run peer 0).2.inbox.queued = []) ∧
    ((s.run peer 0).1 = .finished ↔ (s.run peer 0).2.phase = .disconnected) := by
  refine ⟨?_, ?_, run_finished_iff peer 0 s⟩
  all_goals
    rw [run_eq_run_catchUp]
    obtain ended | ⟨emptied, tells, sends⟩ := catchUp_cases peer s
  · rw [run_of_disconnected ended]
    exact ⟨0, (s.catchUp peer).ticker, rfl, fun none => absurd none (Nat.lt_irrefl 0)⟩
  · obtain ⟨reports, ticker, same, due, -⟩ := run_ticks peer emptied tells sends
    exact ⟨reports, ticker, same, due⟩
  · rw [run_of_disconnected ended]
    exact fun on => absurd ended on
  · obtain ⟨-, -, -, -, last⟩ := run_ticks peer emptied tells sends
    exact fun _ => ⟨last.quiet, last.empty⟩

end TextSync.Session
