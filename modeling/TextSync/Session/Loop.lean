import TextSync.Session.Frame

/-!
The loop that drives a session. Each turn takes the first thing that is ready: a request to tear
down, then a signal from the editor, then an event from the inbox, then a tick. So the caret is
reported only when all that the user changed has been sent and all that came in has been dealt with.

With nothing ready the loop waits, and time passes up to the next tick or to the limit of the run,
whichever comes first. What is due exactly at the limit still happens. A run that reaches its limit
leaves everything as it is, so that the next one goes on where it stopped.

Every turn lowers `patience`: it takes something out of a queue, moves the next tick further on, or
ends the session.
-/

namespace TextSync.Session

/-- What a turn of the loop takes, one case for each branch of the `select!` in `run`. A queue that
has ended is a case of its own. -/
inductive Turn where
  | teardown
  | signal
  | editorClosed
  | event (event : Incoming) (rest : List Incoming)
  | inboxClosed
  | tick
deriving DecidableEq, Repr

/-- The first branch of `run` that is ready, none if the loop has to wait. The branches are tried in
order (`biased`), the request before all. -/
def ready (s : Session) : Option Turn :=
  if s.teardownRequested then some .teardown
  else
    match s.editor.signals.hear with
    | .changed => some .signal
    | .ended => some .editorClosed
    | .nothing =>
      match s.inbox.queued with
      | event :: rest => some (.event event rest)
      | [] =>
        if !s.inbox.sending then some .inboxClosed
        else if s.ticker.isDue s.now then some .tick
        else none

/-- Does what the branch of a turn does. -/
def take (peer : Peer) (s : Session) : Turn → Session
  | .teardown => s.shutDown .teardown
  | .signal =>
    ({ s with editor := { s.editor with signals := s.editor.signals.next } }.localChange peer).2
  | .editorClosed => s.shutDown .editorClosed
  | .event event rest => { s with inbox := { s.inbox with queued := rest } }.receive peer event
  | .inboxClosed => s.shutDown .inboxClosed
  | .tick => { s with ticker := s.ticker.fire s.now }.reportCursor.2

/-- How far the next tick is from the limit of a run; furthest as long as none is scheduled. -/
def ticksLeft (limit : Nat) (s : Session) : Nat :=
  match s.ticker.due with
  | none => limit + 2
  | some due => limit + 1 - due

/-- Whether a tick is scheduled for later. -/
def ahead (s : Session) : Nat :=
  match s.ticker.due with
  | none => 0
  | some due => if s.now < due then 1 else 0

/-- A number that every turn of a run lowers. -/
def patience (limit : Nat) (s : Session) : Nat :=
  if s.phase = .disconnected then 0
  else 1 + s.waiting * (2 * limit + 6) + 2 * s.ticksLeft limit + s.ahead

theorem ticksLeft_le (limit : Nat) (s : Session) : s.ticksLeft limit ≤ limit + 2 := by
  unfold ticksLeft
  split <;> omega

theorem ahead_le (s : Session) : s.ahead ≤ 1 := by
  unfold ahead
  split
  · omega
  · split <;> omega

theorem patience_of_disconnected {limit : Nat} {s : Session} (ended : s.phase = .disconnected) :
    s.patience limit = 0 := by
  simp [patience, ended]

theorem patience_of_connected {limit : Nat} {s : Session} (on : s.phase ≠ .disconnected) :
    s.patience limit = 1 + s.waiting * (2 * limit + 6) + 2 * s.ticksLeft limit + s.ahead := by
  simp [patience, on]

theorem patience_le (limit : Nat) (s : Session) :
    s.patience limit ≤ 1 + s.waiting * (2 * limit + 6) + 2 * s.ticksLeft limit + s.ahead := by
  unfold patience
  split <;> omega

/-- Taking something out of a queue outweighs whatever happens to the ticker. -/
theorem patience_lt_of_waiting_lt {limit : Nat} {s t : Session} (on : s.phase ≠ .disconnected)
    (less : t.waiting < s.waiting) : t.patience limit < s.patience limit := by
  have bound := patience_le limit t
  have far := ticksLeft_le limit t
  have bit := ahead_le t
  have room : (t.waiting + 1) * (2 * limit + 6) ≤ s.waiting * (2 * limit + 6) :=
    Nat.mul_le_mul_right _ less
  rw [Nat.succ_mul] at room
  rw [patience_of_connected on]
  omega

theorem ready_eq_signal {s : Session} (isReady : s.ready = some .signal) :
    0 < s.editor.signals.queued := by
  unfold ready at isReady
  split at isReady
  · cases isReady
  · split at isReady
    · rename_i heard
      unfold Signals.hear at heard
      split at heard
      · assumption
      · split at heard <;> cases heard
    · cases isReady
    · split at isReady
      · cases isReady
      · split at isReady
        · cases isReady
        · split at isReady <;> cases isReady

/-- An event that is taken is the first of those that wait. -/
theorem ready_eq_event {s : Session} {event : Incoming} {rest : List Incoming}
    (isReady : s.ready = some (.event event rest)) : s.inbox.queued = event :: rest := by
  unfold ready at isReady
  split at isReady
  · cases isReady
  · split at isReady
    · cases isReady
    · cases isReady
    · split at isReady
      · rename_i queue
        cases isReady
        exact queue
      · split at isReady
        · cases isReady
        · split at isReady <;> cases isReady

theorem ready_eq_tick {s : Session} (isReady : s.ready = some .tick) :
    s.ticker.isDue s.now = true := by
  unfold ready at isReady
  split at isReady
  · cases isReady
  · split at isReady
    · cases isReady
    · cases isReady
    · split at isReady
      · cases isReady
      · split at isReady
        · cases isReady
        · split at isReady
          · assumption
          · cases isReady

theorem isDue_of_ready_none {s : Session} (idle : s.ready = none) :
    s.ticker.isDue s.now = false := by
  unfold ready at idle
  split at idle
  · cases idle
  · split at idle
    · cases idle
    · cases idle
    · split at idle
      · cases idle
      · split at idle
        · cases idle
        · split at idle
          · cases idle
          · simp_all

/-- No turn takes time. -/
theorem take_now (peer : Peer) (s : Session) (turn : Turn) : (s.take peer turn).now = s.now := by
  cases turn with
  | teardown | editorClosed | inboxClosed => rfl
  | signal => exact (localChange_sameCourse peer _).now
  | event event rest => exact receive_now peer event _
  | tick => exact (reportCursor_sameCourse _).now

/-- A tick moves the next one further on, so fewer are left before the limit. -/
theorem patience_tick_lt (peer : Peer) {limit : Nat} {s : Session} (on : s.phase ≠ .disconnected)
    (intime : s.now ≤ limit) (isReady : s.ready = some .tick) :
    (s.take peer .tick).patience limit < s.patience limit := by
  have same := reportCursor_sameCourse { s with ticker := s.ticker.fire s.now }
  have dueNow := ready_eq_tick isReady
  unfold Ticker.isDue at dueNow
  cases scheduled : s.ticker.due with
  | none => simp [scheduled] at dueNow
  | some due =>
    have next : (s.take peer .tick).ticker.due = some (s.ticker.following due s.now) := by
      show ({ s with ticker := s.ticker.fire s.now }.reportCursor.2).ticker.due = _
      rw [same.ticker]
      simp [Ticker.fire, scheduled]
    have noLater : due ≤ s.now := by
      have both : s.ticker.running = true ∧ due ≤ s.now := by simpa [scheduled] using dueNow
      exact both.2
    have later := s.ticker.lt_following noLater
    have fewer : (s.take peer .tick).ticksLeft limit + 1 ≤ s.ticksLeft limit := by
      unfold ticksLeft
      rw [next, scheduled]
      show limit + 1 - s.ticker.following due s.now + 1 ≤ limit + 1 - due
      omega
    have bound := patience_le limit (s.take peer .tick)
    have bit := ahead_le (s.take peer .tick)
    have queues : (s.take peer .tick).waiting = s.waiting := same.waiting
    rw [queues] at bound
    rw [patience_of_connected on]
    omega

/-- Every turn lowers what is left of a run's patience. -/
theorem patience_take_lt (peer : Peer) {limit : Nat} {s : Session} {turn : Turn}
    (on : s.phase ≠ .disconnected) (intime : s.now ≤ limit) (isReady : s.ready = some turn) :
    (s.take peer turn).patience limit < s.patience limit := by
  have positive : 0 < s.patience limit := by
    rw [patience_of_connected on]
    omega
  cases turn with
  | teardown | editorClosed | inboxClosed =>
    rw [patience_of_disconnected (by rfl)]
    exact positive
  | signal =>
    apply patience_lt_of_waiting_lt on
    have some := ready_eq_signal isReady
    show ({ s with editor := { s.editor with signals := s.editor.signals.next } }.localChange
      peer).2.waiting < s.waiting
    rw [(localChange_sameCourse peer _).waiting]
    show s.editor.signals.queued - 1 + s.inbox.queued.length < _
    unfold waiting
    omega
  | event event rest =>
    apply patience_lt_of_waiting_lt on
    have queue := ready_eq_event isReady
    have noMore := receive_waiting_le peer event { s with inbox := { s.inbox with queued := rest } }
    refine Nat.lt_of_le_of_lt noMore ?_
    unfold waiting
    simp [queue]
  | tick => exact patience_tick_lt peer on intime isReady

/-- Waits up to a moment. Before the wait the loop looks at the ticker, which settles when its next
tick is due. -/
def waitUntil (moment : Nat) (s : Session) : Session :=
  { s with ticker := s.ticker.arm s.now, now := moment }

/-- With nothing ready the next tick is still to come. -/
theorem lt_dueAt_of_ready_none {s : Session} (idle : s.ready = none)
    (runs : s.ticker.running = true) : s.now < s.ticker.dueAt s.now := by
  have positive := s.ticker.period_pos
  have notYet := isDue_of_ready_none idle
  unfold Ticker.isDue at notYet
  unfold Ticker.dueAt
  cases scheduled : s.ticker.due with
  | none =>
    show s.now < s.now + s.ticker.period
    omega
  | some due =>
    simp [runs, scheduled] at notYet
    simpa using notYet

/-- A wait for the next tick ends where that tick is due. -/
theorem patience_waitUntil_lt {limit : Nat} {s : Session} (on : s.phase ≠ .disconnected)
    (idle : s.ready = none) (runs : s.ticker.running = true)
    (intime : s.ticker.dueAt s.now ≤ limit) :
    (s.waitUntil (s.ticker.dueAt s.now)).patience limit < s.patience limit := by
  have later := lt_dueAt_of_ready_none idle runs
  have armed : (s.waitUntil (s.ticker.dueAt s.now)).ticker.due = some (s.ticker.dueAt s.now) := by
    simp [waitUntil, Ticker.arm, runs]
  have queues : (s.waitUntil (s.ticker.dueAt s.now)).waiting = s.waiting := rfl
  have left : (s.waitUntil (s.ticker.dueAt s.now)).ticksLeft limit
      = limit + 1 - s.ticker.dueAt s.now := by
    simp [ticksLeft, armed]
  have arrived : (s.waitUntil (s.ticker.dueAt s.now)).ahead = 0 := by
    unfold ahead
    rw [armed]
    simp [waitUntil]
  rw [patience_of_connected on, patience_of_connected (s := s.waitUntil _) on, queues, left,
    arrived]
  cases scheduled : s.ticker.due with
  | none =>
    have furthest : s.ticksLeft limit = limit + 2 := by simp [ticksLeft, scheduled]
    omega
  | some due =>
    have same : s.ticker.dueAt s.now = due := by simp [Ticker.dueAt, scheduled]
    have equal : s.ticksLeft limit = limit + 1 - due := by simp [ticksLeft, scheduled]
    have bit : s.ahead = 1 := by simp [ahead, scheduled, same ▸ later]
    omega

/-- How a run ends: because the session is over, so that `run` returns, or because its time is. -/
inductive Outcome where
  | finished
  | running
deriving DecidableEq, Repr

/-- Drives a session for at most the given number of milliseconds (`Binding::run`, cut off at the
limit). -/
def run (peer : Peer) (time : Nat) (s : Session) : Outcome × Session :=
  if _ended : s.phase = .disconnected then (.finished, s)
  else
    match _isReady : s.ready with
    | some turn => run peer time (s.take peer turn)
    | none =>
      if _next : s.ticker.running = true ∧ s.ticker.dueAt s.now ≤ s.now + time then
        run peer (s.now + time - s.ticker.dueAt s.now) (s.waitUntil (s.ticker.dueAt s.now))
      else (.running, s.waitUntil (s.now + time))
termination_by s.patience (s.now + time)
decreasing_by
  · rw [take_now]
    exact patience_take_lt peer _ended (Nat.le_add_right _ _) _isReady
  · have total : s.ticker.dueAt s.now + (s.now + time - s.ticker.dueAt s.now) = s.now + time := by
      omega
    show (s.waitUntil (s.ticker.dueAt s.now)).patience
      (s.ticker.dueAt s.now + (s.now + time - s.ticker.dueAt s.now)) < _
    rw [total]
    exact patience_waitUntil_lt _ended _isReady _next.1 _next.2

end TextSync.Session
