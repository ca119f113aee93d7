import TextSync.Proofs.Session.Deed

/-!
# Runs of the loop, pass by pass

A run is nothing but passes of the loop: each takes the first thing that is ready, or waits. What a
pass keeps, a run keeps (`run_keeps`), and so does every state the run looks at on its way
(`Visits.keep`). The loop holds nothing that the session does not hold, so a run can be cut anywhere
and taken up again (`run_add`).
-/

namespace TextSync.Session

variable {peer : Peer} {s t : Session} {time : Nat}

/-! ## What is ready first -/

/-- A request comes before all else. -/
theorem ready_of_request (asked : s.teardownRequested = true) : s.ready = some .teardown := by
  simp [ready, asked]

/-- A signal comes next. -/
theorem ready_of_signal (unasked : s.teardownRequested = false)
    (waits : 0 < s.editor.signals.queued) : s.ready = some .signal := by
  simp [ready, Signals.hear, unasked, waits]

section Quiet

variable (unasked : s.teardownRequested = false) (quiet : s.editor.signals.queued = 0)
include unasked quiet

theorem ready_of_editorClosed (silent : s.editor.signals.sending = false) :
    s.ready = some .editorClosed := by
  simp [ready, Signals.hear, unasked, quiet, silent]

theorem ready_of_event (tells : s.editor.signals.sending = true) {event : Incoming}
    {rest : List Incoming} (queue : s.inbox.queued = event :: rest) :
    s.ready = some (.event event rest) := by
  simp [ready, Signals.hear, unasked, quiet, tells, queue]

theorem ready_of_inboxClosed (tells : s.editor.signals.sending = true)
    (empty : s.inbox.queued = []) (closed : s.inbox.sending = false) :
    s.ready = some .inboxClosed := by
  simp [ready, Signals.hear, unasked, quiet, tells, empty, closed]

theorem ready_of_open (tells : s.editor.signals.sending = true) (empty : s.inbox.queued = [])
    (sends : s.inbox.sending = true) :
    s.ready = if s.ticker.isDue s.now then some .tick else none := by
  simp [ready, Signals.hear, unasked, quiet, tells, empty, sends]

end Quiet

theorem ready_eq_teardown (isReady : s.ready = some .teardown) : s.teardownRequested = true := by
  unfold ready at isReady
  grind

/-- The editor's end is taken when nothing else has been asked or told. -/
theorem ready_eq_editorClosed (isReady : s.ready = some .editorClosed) :
    s.teardownRequested = false ∧ s.editor.signals.queued = 0 ∧
      s.editor.signals.sending = false := by
  unfold ready Signals.hear at isReady
  grind

theorem ready_eq_inboxClosed (isReady : s.ready = some .inboxClosed) :
    s.teardownRequested = false ∧ s.editor.signals.queued = 0 ∧
      s.editor.signals.sending = true ∧ s.inbox.queued = [] ∧ s.inbox.sending = false := by
  unfold ready Signals.hear at isReady
  grind

/-- With nothing ready the queues are empty, and their far ends are in use. -/
theorem ready_eq_none (idle : s.ready = none) :
    s.teardownRequested = false ∧ s.editor.signals.queued = 0 ∧
      s.editor.signals.sending = true ∧ s.inbox.queued = [] ∧ s.inbox.sending = true := by
  unfold ready Signals.hear at idle
  grind

/-- Only a request comes before a signal. -/
theorem queued_of_ready (notAsked : s.ready ≠ some .teardown) (notSignal : s.ready ≠ some .signal) :
    s.editor.signals.queued = 0 := by
  have unasked : s.teardownRequested = false :=
    Bool.eq_false_iff.2 fun asked => notAsked (ready_of_request asked)
  exact Nat.eq_zero_of_not_pos fun waits => notSignal (ready_of_signal unasked waits)

/-- The end of the signals comes before all events and ticks. -/
theorem sending_of_ready (notAsked : s.ready ≠ some .teardown) (notSignal : s.ready ≠ some .signal)
    (notClosed : s.ready ≠ some .editorClosed) : s.editor.signals.sending = true := by
  have unasked : s.teardownRequested = false :=
    Bool.eq_false_iff.2 fun asked => notAsked (ready_of_request asked)
  have quiet := queued_of_ready notAsked notSignal
  rw [← Bool.not_eq_false]
  exact fun silent => notClosed (ready_of_editorClosed unasked quiet silent)

/-! ## The run unfolded once -/

theorem run_of_disconnected (ended : s.phase = .disconnected) :
    s.run peer time = (.finished, s) := by
  rw [run]
  simp [ended]

/-- A run takes what is ready and goes on. -/
theorem run_of_ready {turn : Turn} (on : s.phase ≠ .disconnected) (isReady : s.ready = some turn) :
    s.run peer time = (s.take peer turn).run peer time := by
  rw [run, dif_neg on]
  split
  · rename_i found
    rw [isReady] at found
    cases found
    rfl
  · rename_i idle
    rw [isReady] at idle
    cases idle

/-- A run with nothing ready waits, for the next tick or for its own end. -/
theorem run_of_idle (on : s.phase ≠ .disconnected) (idle : s.ready = none) :
    s.run peer time =
      if s.ticker.running = true ∧ s.ticker.dueAt s.now ≤ s.now + time then
        (s.waitUntil (s.ticker.dueAt s.now)).run peer (s.now + time - s.ticker.dueAt s.now)
      else (.running, s.waitUntil (s.now + time)) := by
  rw [run, dif_neg on]
  split
  · rename_i isReady
    rw [idle] at isReady
    cases isReady
  · rfl

/-- A run is finished exactly when the session is. -/
theorem run_finished_iff (peer : Peer) (time : Nat) (s : Session) :
    (s.run peer time).1 = .finished ↔ (s.run peer time).2.phase = .disconnected := by
  fun_induction run peer time s with
  | case1 _ _ ended => simp [ended]
  | case2 _ _ _ _ _ ih => exact ih
  | case3 _ _ _ _ _ ih => exact ih
  | case4 time s on _ _ =>
    constructor
    · exact fun same => nomatch same
    · exact fun ended => absurd ended on

/-! ## Passes -/

/-- One pass of the loop: it takes the first thing that is ready, or waits for some time. -/
def pass (peer : Peer) (time : Nat) (s : Session) : Session :=
  if s.phase = .disconnected then s
  else
    match s.ready with
    | some turn => s.take peer turn
    | none => s.waitUntil (s.now + time)

theorem pass_of_disconnected (ended : s.phase = .disconnected) : s.pass peer time = s :=
  if_pos ended

theorem pass_of_ready {turn : Turn} (on : s.phase ≠ .disconnected)
    (isReady : s.ready = some turn) : s.pass peer time = s.take peer turn := by
  simp [pass, on, isReady]

theorem pass_of_idle (on : s.phase ≠ .disconnected) (idle : s.ready = none) :
    s.pass peer time = s.waitUntil (s.now + time) := by
  simp [pass, on, idle]

/-- The wait for the next tick is a pass as well. -/
theorem pass_to_due (on : s.phase ≠ .disconnected) (idle : s.ready = none)
    (runs : s.ticker.running = true) :
    s.pass peer (s.ticker.dueAt s.now - s.now) = s.waitUntil (s.ticker.dueAt s.now) := by
  have later := lt_dueAt_of_ready_none idle runs
  rw [pass_of_idle on idle, Nat.add_sub_cancel' (Nat.le_of_lt later)]

theorem deeds_pass (peer : Peer) (time : Nat) (s : Session) : Deeds peer s (s.pass peer time) := by
  unfold pass
  split
  · exact .refl
  · rename_i on
    split
    · exact deeds_take peer _ on
    · exact (deed_waitUntil peer _ s).chain

/-- What a pass of the loop keeps, a run keeps. -/
theorem run_keeps {P : Session → Prop}
    (keep : ∀ (s : Session) (time : Nat), P s → P (s.pass peer time)) (holds : P s) :
    P (s.run peer time).2 := by
  fun_induction run peer time s with
  | case1 => exact holds
  | case2 time s on turn isReady ih =>
    have passed : s.pass peer time = s.take peer turn := pass_of_ready on isReady
    exact ih (passed ▸ keep s time holds)
  | case3 time s on idle next ih =>
    apply ih
    rw [← pass_to_due on idle next.1]
    exact keep s _ holds
  | case4 time s on idle _ =>
    rw [← pass_of_idle on idle]
    exact keep s time holds

/-- All that a run does is deeds. -/
theorem deeds_run (peer : Peer) (time : Nat) (s : Session) :
    Deeds peer s (s.run peer time).2 :=
  run_keeps (P := Deeds peer s) (fun t time far => far.trans (deeds_pass peer time t)) .refl

/-! ## What a run looks at -/

/-- A run of the loop for some time, from one state, looks at another on its way, before it takes
a turn or waits there. -/
inductive Visits (peer : Peer) : Nat → Session → Session → Prop
  | here {time : Nat} {s : Session} (on : s.phase ≠ .disconnected) : Visits peer time s s
  | turn {time : Nat} {s t : Session} {turn : Turn} (on : s.phase ≠ .disconnected)
      (isReady : s.ready = some turn) (rest : Visits peer time (s.take peer turn) t) :
      Visits peer time s t
  | wait {time : Nat} {s t : Session} (on : s.phase ≠ .disconnected) (idle : s.ready = none)
      (next : s.ticker.running = true ∧ s.ticker.dueAt s.now ≤ s.now + time)
      (rest : Visits peer (s.now + time - s.ticker.dueAt s.now)
        (s.waitUntil (s.ticker.dueAt s.now)) t) :
      Visits peer time s t

/-- From a state it looks at, the run goes on as if it had begun there. -/
theorem Visits.run_eq (visits : Visits peer time s t) :
    ∃ rest, s.run peer time = t.run peer rest := by
  induction visits with
  | @here time _ _ => exact ⟨time, rfl⟩
  | turn on isReady _ ih =>
    rw [run_of_ready on isReady]
    exact ih
  | wait on idle next _ ih =>
    rw [run_of_idle on idle, if_pos next]
    exact ih

theorem Visits.deeds (visits : Visits peer time s t) : Deeds peer s t := by
  induction visits with
  | here => exact .refl
  | turn on _ _ ih => exact (deeds_take peer _ on).trans ih
  | wait _ _ _ _ ih => exact .head (deed_waitUntil peer _ _) ih

/-- What a pass of the loop keeps holds of all that a run looks at. -/
theorem Visits.keep {P : Session → Prop} (visits : Visits peer time s t)
    (keep : ∀ (s : Session) (time : Nat), P s → P (s.pass peer time)) (holds : P s) : P t := by
  induction visits with
  | here => exact holds
  | @turn time s _ turn on isReady _ ih =>
    have passed : s.pass peer time = s.take peer turn := pass_of_ready on isReady
    exact ih (passed ▸ keep s time holds)
  | @wait time s _ on idle next _ ih =>
    apply ih
    rw [← pass_to_due on idle next.1]
    exact keep s _ holds

/-! ## A run in two parts -/

theorem waitUntil_waitUntil (first second : Nat) (s : Session) :
    (s.waitUntil first).waitUntil second = s.waitUntil second := by
  show { s with ticker := (s.ticker.arm s.now).arm first, now := second } = _
  rw [Ticker.arm_arm]
  rfl

/-- A wait that ends before the next tick leaves nothing ready. -/
theorem ready_waitUntil {moment : Nat} (idle : s.ready = none)
    (early : ¬ (s.ticker.running = true ∧ s.ticker.dueAt s.now ≤ moment)) :
    (s.waitUntil moment).ready = none := by
  obtain ⟨unasked, quiet, tells, empty, sends⟩ := ready_eq_none idle
  have notYet : (s.ticker.arm s.now).isDue moment = false := by
    cases runs : s.ticker.running with
    | false => simp [Ticker.arm, Ticker.isDue, runs]
    | true =>
      have later : moment < s.ticker.dueAt s.now := by simpa [runs] using early
      simpa [Ticker.arm, Ticker.isDue, runs] using later
  rw [ready_of_open (s := s.waitUntil moment) unasked quiet tells empty sends]
  exact if_neg (by simp [waitUntil, notYet])

/-- **A run can be cut.** To drive a session for some time and then for some more comes to the same
as to drive it once for both together: the same outcome and the same session, so the same calls at
the same times, the same texts and counts, the same schedule of the ticker and the same clock. -/
theorem run_add (peer : Peer) (first second : Nat) (s : Session) :
    (s.run peer first).2.run peer second = s.run peer (first + second) := by
  fun_induction run peer first s with
  | case1 time s ended => rw [run_of_disconnected ended, run_of_disconnected ended]
  | case2 time s on turn isReady ih => rw [ih, ← run_of_ready on isReady]
  | case3 time s on idle next ih =>
    have within : s.ticker.dueAt s.now ≤ s.now + (time + second) := by omega
    have left : s.now + time - s.ticker.dueAt s.now + second
        = s.now + (time + second) - s.ticker.dueAt s.now := by omega
    rw [ih, left, run_of_idle on idle, if_pos ⟨next.1, within⟩]
  | case4 time s on idle late =>
    -- The first part ends in a wait, and the second begins with the rest of it.
    let waited := s.waitUntil (s.now + time)
    have still : waited.ready = none := ready_waitUntil idle late
    have runs : waited.ticker.running = s.ticker.running := s.ticker.arm_running s.now
    have again (moment : Nat) : waited.waitUntil moment = s.waitUntil moment :=
      waitUntil_waitUntil _ moment s
    have clock : waited.now + second = s.now + (time + second) := Nat.add_assoc _ _ _
    show waited.run peer second = _
    rw [run_of_idle (s := waited) on still, run_of_idle on idle, again, again, runs, clock]
    by_cases going : s.ticker.running = true
    · have due : waited.ticker.dueAt waited.now = s.ticker.dueAt s.now :=
        Ticker.dueAt_arm going s.now _
      rw [due]
    · rw [if_neg fun next => going next.1, if_neg fun next => going next.1]

end TextSync.Session
