import TextSync.Ticker

/-!
A ticker and the clock it is read by. Time passes while its owner sleeps or waits for a tick.
-/

namespace TextSync.Ticker

/-- A ticker and the time on its owner's clock. -/
structure Watch where
  ticker : Ticker
  now : Nat
deriving DecidableEq, Repr

namespace Watch

/-- What can happen to a ticker: it is started or stopped, its owner sleeps, or waits for a tick for
so long at most. -/
inductive Step where
  | start
  | stop
  | sleep (time : Nat)
  | tick (time : Nat)
deriving DecidableEq, Repr

/-- Whether there was a tick, for a step that waits for one, and the watch after the step. -/
def step (w : Watch) : Step → Option Bool × Watch
  | .start => (none, { w with ticker := w.ticker.start })
  | .stop => (none, { w with ticker := w.ticker.stop })
  | .sleep time => (none, { w with now := w.now + Clock.pause time })
  | .tick time =>
    let (ticked, now, ticker) := w.ticker.await w.now (w.now + time)
    (some ticked, ⟨ticker, now⟩)

end Watch
end TextSync.Ticker
