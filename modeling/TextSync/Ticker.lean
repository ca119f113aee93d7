import TextSync.Clock

/-!
A ticker that fires once a period while it runs, by a clock in milliseconds that its owner reads.

The schedule starts with the first look at the ticker after it was started: the first tick is due a
period after that look. A tick that is seen in time is followed by one a period after it was due,
or, with a period beyond the clock's horizon, by one as far off as the horizon; one seen more than
`tolerance` late is followed by one a period after it was seen.
-/

namespace TextSync

/-- A `CursorReporter`. The moment `due` is the deadline of its `Interval`, which is not there
before the first poll after a start. -/
structure Ticker where
  period : Nat
  running : Bool
  due : Option Nat
  period_pos : 0 < period
deriving DecidableEq, Repr

namespace Ticker

/-- How many milliseconds late a tick may be seen and still be in time. -/
def tolerance : Nat := 5

/-- A ticker that does not run yet (`CursorReporter::new`). -/
def stopped (period : Nat) (positive : 0 < period) : Ticker := ⟨period, false, none, positive⟩

/-- Starts anew; an earlier schedule is forgotten (`CursorReporter::start`). -/
def start (t : Ticker) : Ticker := { t with running := true, due := none }

/-- Stops, and the schedule is forgotten (`CursorReporter::stop`). -/
def stop (t : Ticker) : Ticker := { t with running := false, due := none }

/-- When the next tick is due, if it is looked at now. -/
def dueAt (t : Ticker) (now : Nat) : Nat := t.due.getD (now + t.period)

/-- A look at a ticker that runs settles when the next tick is due. -/
def arm (t : Ticker) (now : Nat) : Ticker :=
  if t.running then { t with due := some (t.dueAt now) } else t

/-- Whether a tick is due that has been scheduled. -/
def isDue (t : Ticker) (now : Nat) : Bool := t.running && t.due.any (· ≤ now)

/-- When the tick after one that was due at `due` and is seen now is due, with an `Interval` that
delays after a missed tick. The deadline after a tick in time is held at the `far_future` of the
clock; the one after a late tick is a plain sum, and so is the first of all (`dueAt`). -/
def following (t : Ticker) (due now : Nat) : Nat :=
  if now ≤ due + tolerance then
    if t.period ≤ Clock.horizon then due + t.period else now + Clock.horizon
  else now + t.period

/-- The tick has been seen. -/
def fire (t : Ticker) (now : Nat) : Ticker :=
  { t with due := t.due.map fun due => t.following due now }

theorem lt_following (t : Ticker) {due now : Nat} (seen : due ≤ now) :
    due < t.following due now := by
  have positive := t.period_pos
  unfold following Clock.horizon
  split
  · split <;> omega
  · omega

@[simp] theorem arm_running (t : Ticker) (now : Nat) : (t.arm now).running = t.running := by
  unfold arm
  split <;> rfl

/-- What one look has settled, a later look finds. -/
theorem dueAt_arm {t : Ticker} (runs : t.running = true) (now later : Nat) :
    (t.arm now).dueAt later = t.dueAt now := by
  simp [arm, dueAt, runs]

theorem arm_arm (t : Ticker) (now later : Nat) : (t.arm now).arm later = t.arm now := by
  cases runs : t.running <;> simp [arm, dueAt, runs]

/-- Waits for a tick (`CursorReporter::tick`), from now until `limit` at the latest: whether there
was one, the moment at which the wait ended, and the ticker after it. The limit is the waiting
side's own; it is not held at the far future. -/
def await (t : Ticker) (now limit : Nat) : Bool × Nat × Ticker :=
  if t.running ∧ t.dueAt now ≤ limit then
    (true, max now (t.dueAt now), (t.arm now).fire (max now (t.dueAt now)))
  else (false, limit, t.arm now)

end Ticker
end TextSync
