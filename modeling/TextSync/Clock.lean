/-!
Time is counted in milliseconds. The clock has a far future, thirty years from any moment. A pause
ends there at the latest, and the tick after one that was seen in time is due there at the latest.
All other moments, the limits of runs among them, are plain sums.
-/

namespace TextSync.Clock

/-- Thirty years of 365 days: what the clock takes for the `far_future`. -/
def horizon : Nat := 946080000000

/-- How long a `sleep` really lasts that is meant to last so long: it ends in the far future at the
latest. -/
def pause (time : Nat) : Nat := min time horizon

end TextSync.Clock
