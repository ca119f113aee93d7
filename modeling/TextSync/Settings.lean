/-!
What a session is set up with: how often the caret is reported, in milliseconds, and how many
incoming events may wait. Neither may be zero.
-/

namespace TextSync

/-- A `BindingConfig`, with the values of its `Default`. -/
structure Settings where
  pollPeriod : Nat := 500
  eventCapacity : Nat := 256
deriving DecidableEq, Repr

namespace Settings

/-- What `BindingConfig::validate` finds amiss: `ZeroPollPeriod` and `ZeroCapacity` of
`ConfigError`. -/
inductive Fault where
  | zeroPollPeriod
  | zeroCapacity
deriving DecidableEq, Repr

/-- What a `ConfigError` says of itself. -/
def Fault.message : Fault → String
  | .zeroPollPeriod => "poll_period_ms must be greater than zero"
  | .zeroCapacity => "event_capacity must be greater than zero"

/-- The first thing that `validate` finds, which looks at the period first. -/
def fault? (s : Settings) : Option Fault :=
  if s.pollPeriod = 0 then some .zeroPollPeriod
  else if s.eventCapacity = 0 then some .zeroCapacity
  else none

theorem fault?_eq_none_iff {s : Settings} :
    s.fault? = none ↔ 0 < s.pollPeriod ∧ 0 < s.eventCapacity := by
  unfold fault?
  split
  · simp_all
  · split <;> simp_all [Nat.pos_iff_ne_zero]

end Settings
end TextSync
