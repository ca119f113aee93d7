import Mathlib.Data.List.Induction
import TextSync.Ticker.Watch

/-!
# Ticks keep to their schedule

A ticker that has been started is due a period after the first look at it. From then on every tick
puts the next one off by at least a stride, counted from when it was due and not from when it was
seen (`due_add_stride_le`). So ticks that are seen late, and waits that end without a tick, may only
delay the schedule (`le_tickTimes`). A tick that is seen late makes up for at most the tolerance
(`tickTimes_apart`).

The stride is the period, as long as it does not go beyond the horizon of the clock
(`punctual_iff`).
-/

namespace TextSync.Ticker

variable {t u : Ticker} {due now later : Nat}

/-! ## From one tick to the next -/

/-- How far apart two ticks are that are both seen in time. -/
def stride (t : Ticker) : Nat := min t.period Clock.horizon

/-- Whether a tick that is seen in time is followed by one a period after it was due. -/
def Punctual (t : Ticker) : Prop :=
  ∀ due now, due ≤ now → now ≤ due + tolerance → t.following due now = due + t.period

theorem punctual_iff : t.Punctual ↔ t.period ≤ Clock.horizon := by
  constructor
  · intro punctual
    have first := punctual 0 0 (Nat.le_refl 0) (Nat.zero_le _)
    unfold following at first
    split at first
    · split at first
      · assumption
      · omega
    · omega
  · intro near due now _ intime
    unfold following
    rw [if_pos intime, if_pos near]

theorem Punctual.stride_eq (punctual : t.Punctual) : t.stride = t.period :=
  Nat.min_eq_left (punctual_iff.1 punctual)

theorem following_self (t : Ticker) (due : Nat) : t.following due due = due + t.stride := by
  unfold following stride
  rw [if_pos (Nat.le_add_right due tolerance)]
  split <;> omega

/-- However late a tick is seen, the next one is due a stride after it was due, or later. -/
theorem due_add_stride_le (t : Ticker) (seen : due ≤ now) :
    due + t.stride ≤ t.following due now := by
  unfold following stride
  split
  · split <;> omega
  · omega

/-- The next tick is due a stride after this one was seen, but for the tolerance. -/
theorem now_add_stride_le (t : Ticker) (due now : Nat) :
    now + t.stride ≤ t.following due now + tolerance := by
  unfold following stride
  split
  · split <;> omega
  · omega

theorem dueAt_mono (t : Ticker) (order : now ≤ later) : t.dueAt now ≤ t.dueAt later := by
  unfold dueAt
  cases t.due with
  | none => exact Nat.add_le_add_right order _
  | some due => exact Nat.le_refl due

/-- A look at the ticker does not bring its next tick forward. -/
theorem dueAt_le_arm (t : Ticker) (order : now ≤ later) :
    t.dueAt now ≤ (t.arm now).dueAt later := by
  cases runs : t.running with
  | true => exact Nat.le_of_eq (dueAt_arm runs now later).symm
  | false =>
    have still : t.arm now = t := by simp [arm, runs]
    rw [still]
    exact dueAt_mono t order

@[simp] theorem arm_period (t : Ticker) (now : Nat) : (t.arm now).period = t.period := by
  unfold arm
  split <;> rfl

/-- Of an earlier schedule nothing is left. -/
theorem start_eq_start (same : t.period = u.period) : t.start = u.start := by
  cases t
  cases u
  cases same
  rfl

theorem stop_eq_stopped {period : Nat} {positive : 0 < period} (same : t.period = period) :
    t.stop = stopped period positive := by
  cases t
  cases same
  rfl

namespace Watch

variable {w : Watch} {s : Step} {steps : List Step}

/-! ## One step -/

/-- Whether a step starts the ticker or stops it. -/
def Step.resets : Step → Bool
  | .start | .stop => true
  | .sleep _ | .tick _ => false

/-- Whether a step waits for a tick, and thus looks at the ticker. -/
def Step.waits : Step → Bool
  | .tick _ => true
  | .start | .stop | .sleep _ => false

/-- When the next tick is due, if the ticker is looked at now. -/
def nextDue (w : Watch) : Nat := w.ticker.dueAt w.now

theorem step_tick_of_due {time : Nat} (runs : w.ticker.running = true)
    (due : w.nextDue ≤ w.now + time) :
    w.step (.tick time) = (some true, ⟨(w.ticker.arm w.now).fire (max w.now w.nextDue),
      max w.now w.nextDue⟩) := by
  have comes : w.ticker.running = true ∧ w.ticker.dueAt w.now ≤ w.now + time := ⟨runs, due⟩
  simp only [step, await, if_pos comes]
  rfl

theorem step_tick_of_not_due {time : Nat}
    (early : ¬ (w.ticker.running = true ∧ w.nextDue ≤ w.now + time)) :
    w.step (.tick time) = (some false, ⟨w.ticker.arm w.now, w.now + time⟩) := by
  have none : ¬ (w.ticker.running = true ∧ w.ticker.dueAt w.now ≤ w.now + time) := early
  simp only [step, await, if_neg none]

theorem step_ticks_iff {time : Nat} :
    (w.step (.tick time)).1 = some true ↔
      w.ticker.running = true ∧ w.nextDue ≤ w.now + time := by
  by_cases comes : w.ticker.running = true ∧ w.nextDue ≤ w.now + time
  · rw [step_tick_of_due comes.1 comes.2]
    exact ⟨fun _ => comes, fun _ => rfl⟩
  · rw [step_tick_of_not_due comes]
    constructor
    · intro ticked
      cases ticked
    · exact fun due => absurd due comes

/-- Only a start and a stop change whether the ticker runs, and no step changes its period. -/
theorem step_keeps (w : Watch) (s : Step) :
    (w.step s).2.ticker.period = w.ticker.period ∧
      (s.resets = false → (w.step s).2.ticker.running = w.ticker.running) := by
  cases s with
  | start | stop => exact ⟨rfl, fun kept => nomatch kept⟩
  | sleep => exact ⟨rfl, fun _ => rfl⟩
  | tick time =>
    by_cases comes : w.ticker.running = true ∧ w.nextDue ≤ w.now + time
    · rw [step_tick_of_due comes.1 comes.2]
      exact ⟨arm_period _ _, fun _ => arm_running _ _⟩
    · rw [step_tick_of_not_due comes]
      exact ⟨arm_period _ _, fun _ => arm_running _ _⟩

theorem step_stride (w : Watch) (s : Step) :
    (w.step s).2.ticker.stride = w.ticker.stride := by
  unfold stride
  rw [(step_keeps w s).1]

/-- There is a tick only while the ticker runs. It comes when it is due, or later if no one has
looked, and puts the next one off. -/
theorem step_of_tick (ticked : (w.step s).1 = some true) :
    w.ticker.running = true ∧ w.nextDue ≤ (w.step s).2.now ∧
      w.nextDue + w.ticker.stride ≤ (w.step s).2.nextDue ∧
      (w.step s).2.now + w.ticker.stride ≤ (w.step s).2.nextDue + tolerance := by
  cases s with
  | start | stop | sleep => cases ticked
  | tick time =>
    by_cases comes : w.ticker.running = true ∧ w.nextDue ≤ w.now + time
    · rw [step_tick_of_due comes.1 comes.2]
      have order : w.nextDue ≤ max w.now w.nextDue := Nat.le_max_right _ _
      have next : nextDue ⟨(w.ticker.arm w.now).fire (max w.now w.nextDue), max w.now w.nextDue⟩
          = w.ticker.following w.nextDue (max w.now w.nextDue) := by
        simp only [nextDue, fire, arm, comes.1]
        rfl
      rw [next]
      exact ⟨comes.1, order, due_add_stride_le _ order, now_add_stride_le _ _ _⟩
    · rw [step_tick_of_not_due comes] at ticked
      cases ticked

/-- Without a tick, and unless the ticker is started or stopped, its next tick does not come
forward. -/
theorem nextDue_of_quiet (kept : s.resets = false) (quiet : (w.step s).1 ≠ some true) :
    w.nextDue ≤ (w.step s).2.nextDue := by
  cases s with
  | start | stop => cases kept
  | sleep time => exact dueAt_mono _ (Nat.le_add_right _ _)
  | tick time =>
    by_cases comes : w.ticker.running = true ∧ w.nextDue ≤ w.now + time
    · rw [step_tick_of_due comes.1 comes.2] at quiet
      exact absurd rfl quiet
    · rw [step_tick_of_not_due comes]
      exact dueAt_le_arm _ (Nat.le_add_right _ _)

/-! ## Many steps -/

/-- The watch after steps taken one by one. -/
def after (w : Watch) (steps : List Step) : Watch := steps.foldl (fun w s => (w.step s).2) w

/-- The moments at which there is a tick in the course of some steps, in order. -/
def tickTimes (w : Watch) : List Step → List Nat
  | [] => []
  | s :: rest =>
    if (w.step s).1 = some true then (w.step s).2.now :: (w.step s).2.tickTimes rest
    else (w.step s).2.tickTimes rest

theorem after_append (w : Watch) (first rest : List Step) :
    w.after (first ++ rest) = (w.after first).after rest := List.foldl_append

theorem after_period (w : Watch) (steps : List Step) :
    (w.after steps).ticker.period = w.ticker.period := by
  induction steps generalizing w with
  | nil => rfl
  | cons s rest ih => exact (ih (w.step s).2).trans (step_keeps w s).1

/-- Sleep leaves the ticker alone. -/
theorem after_idle (idle : ∀ s ∈ steps, s.resets = false ∧ s.waits = false) :
    (w.after steps).ticker = w.ticker := by
  induction steps generalizing w with
  | nil => rfl
  | cons s rest ih =>
    obtain ⟨here, rest⟩ := List.forall_mem_cons.1 idle
    refine (ih rest).trans ?_
    cases s with
    | start | stop => cases here.1
    | sleep => rfl
    | tick => cases here.2

theorem after_running (kept : ∀ s ∈ steps, s.resets = false) :
    (w.after steps).ticker.running = w.ticker.running := by
  induction steps generalizing w with
  | nil => rfl
  | cons s rest ih =>
    obtain ⟨here, rest⟩ := List.forall_mem_cons.1 kept
    exact (ih rest).trans ((step_keeps w s).2 here)

/-- A ticker that runs has been started, and neither stopped nor started since. -/
theorem started_of_running (stopped : w.ticker.running = false)
    (runs : (w.after steps).ticker.running = true) :
    ∃ before since, steps = before ++ .start :: since ∧ ∀ s ∈ since, s.resets = false := by
  induction steps using List.reverseRecOn with
  | nil => exact absurd (stopped.symm.trans runs) Bool.false_ne_true
  | append_singleton steps s ih =>
    rw [after_append] at runs
    cases plain : s.resets with
    | false =>
      have still := (step_keeps (w.after steps) s).2 plain
      obtain ⟨before, since, split, none⟩ := ih (still.symm.trans runs)
      refine ⟨before, since ++ [s], by rw [split, List.append_assoc, List.cons_append], ?_⟩
      intro other member
      rcases List.mem_append.1 member with earlier | last
      · exact none other earlier
      · rw [List.mem_singleton.1 last]
        exact plain
    | true =>
      cases s with
      | start => exact ⟨steps, [], rfl, nofun⟩
      | stop => cases runs
      | sleep | tick => cases plain

theorem running_iff_started (stopped : w.ticker.running = false) :
    (w.after steps).ticker.running = true ↔
      ∃ before since, steps = before ++ .start :: since ∧ ∀ s ∈ since, s.resets = false := by
  constructor
  · exact started_of_running stopped
  · rintro ⟨before, since, rfl, kept⟩
    rw [after_append]
    exact after_running (w := ((w.after before).step .start).2) kept

/-! ## The schedule -/

section Kept

variable (kept : ∀ s ∈ steps, s.resets = false)
include kept

/-- Unless the ticker is started or stopped, every tick comes as many strides after the next one as
there are ticks between, or later. -/
theorem le_tickTimes {k moment : Nat} (listed : (w.tickTimes steps)[k]? = some moment) :
    w.nextDue + k * w.ticker.stride ≤ moment := by
  induction steps generalizing w k with
  | nil => cases listed
  | cons s rest ih =>
    obtain ⟨here, rest⟩ := List.forall_mem_cons.1 kept
    have same : (w.step s).2.ticker.stride = w.ticker.stride := step_stride w s
    unfold tickTimes at listed
    split at listed
    · rename_i ticked
      obtain ⟨-, due, next, -⟩ := step_of_tick ticked
      cases k with
      | zero =>
        obtain rfl := Option.some.inj listed
        simpa using due
      | succ k =>
        have later := ih rest listed
        rw [same] at later
        rw [Nat.succ_mul]
        omega
    · rename_i quiet
      have later := ih rest listed
      have next := nextDue_of_quiet here quiet
      rw [same] at later
      omega

/-- One tick after another comes a stride later, but for the tolerance. -/
theorem tickTimes_apart {k first second : Nat} (one : (w.tickTimes steps)[k]? = some first)
    (another : (w.tickTimes steps)[k + 1]? = some second) :
    first + w.ticker.stride ≤ second + tolerance := by
  induction steps generalizing w k with
  | nil => cases one
  | cons s rest ih =>
    obtain ⟨-, rest⟩ := List.forall_mem_cons.1 kept
    have same : (w.step s).2.ticker.stride = w.ticker.stride := step_stride w s
    unfold tickTimes at one another
    split at one
    · rename_i ticked
      rw [if_pos ticked] at another
      cases k with
      | zero =>
        obtain rfl := Option.some.inj one
        obtain ⟨-, -, -, next⟩ := step_of_tick ticked
        have later := le_tickTimes rest (k := 0) another
        omega
      | succ k =>
        rw [← same]
        exact ih rest one another
    · rename_i quiet
      rw [if_neg quiet] at another
      rw [← same]
      exact ih rest one another

end Kept

/-- **No tick comes ahead of the schedule.** Take a new ticker and whatever steps. A wait sees a
tick just if the ticker runs and the next tick is due before the wait ends, and the ticker runs just
if there has been a start that no stop has followed. Let the first wait after a start begin at some
moment, and the ticker be neither started nor stopped from then on: however late the waits begin and
however many of them end without a tick, each tick comes at least as many periods after that moment
as there have been ticks, itself included, and a period after the tick before it but for the
tolerance. A start makes the ticker like a new one that is started at this moment, a stop like a new
one. -/
theorem tickTimes_of_started {period : Nat} {positive : 0 < period}
    (punctual : (stopped period positive).Punctual) (now : Nat) :
    let new : Watch := ⟨stopped period positive, now⟩
    (∀ steps time, let w := new.after steps
      ((w.step (.tick time)).1 = some true ↔
        w.ticker.running = true ∧ w.nextDue ≤ w.now + time) ∧
      (w.ticker.running = true ↔
        ∃ before since, steps = before ++ .start :: since ∧ ∀ s ∈ since, s.resets = false)) ∧
    (∀ before idle time rest, (∀ s ∈ idle, s.resets = false ∧ s.waits = false) →
      (∀ s ∈ rest, s.resets = false) →
      let waiting := new.after (before ++ .start :: idle)
      let times := waiting.tickTimes (.tick time :: rest)
      (∀ k moment, times[k]? = some moment → waiting.now + (k + 1) * period ≤ moment) ∧
        ∀ k first second, times[k]? = some first → times[k + 1]? = some second →
          first + period ≤ second + tolerance) ∧
    ∀ before,
      new.after (before ++ [.start])
          = ⟨(stopped period positive).start, (new.after before).now⟩ ∧
        new.after (before ++ [.stop]) = ⟨stopped period positive, (new.after before).now⟩ := by
  intro new
  have periods (steps : List Step) : (new.after steps).ticker.period = period :=
    after_period new steps
  refine ⟨?_, ?_, ?_⟩
  · intro steps time w
    exact ⟨step_ticks_iff, running_iff_started rfl⟩
  · intro before idle time rest sleeps kept waiting times
    have ticker : waiting.ticker = (new.after before).ticker.start := by
      have slept := after_idle (w := ((new.after before).step .start).2) sleeps
      exact (congrArg Watch.ticker (after_append new before (.start :: idle))).trans slept
    have due : waiting.nextDue = waiting.now + period := by
      unfold nextDue
      rw [ticker]
      exact congrArg (waiting.now + ·) (periods before)
    have stride : waiting.ticker.stride = period := by
      unfold Ticker.stride
      rw [periods]
      exact punctual.stride_eq
    have all : ∀ s ∈ .tick time :: rest, s.resets = false :=
      List.forall_mem_cons.2 ⟨rfl, kept⟩
    constructor
    · intro k moment listed
      have later := le_tickTimes all listed
      rw [due, stride] at later
      rw [Nat.succ_mul]
      omega
    · intro k first second one another
      have apart := tickTimes_apart all one another
      rwa [stride] at apart
  · intro before
    rw [after_append, after_append]
    have started : (new.after before).ticker.start = (stopped period positive).start :=
      start_eq_start (periods before)
    have ended : (new.after before).ticker.stop = stopped period positive :=
      stop_eq_stopped (periods before)
    exact ⟨congrArg (Watch.mk · _) started, congrArg (Watch.mk · _) ended⟩

/-- A schedule that a stop throws away, a wait that ends without a tick, two ticks seen at one
moment, which a period below the tolerance allows, and one that is seen too late to make up for
it. -/
theorem tickTimes_of_started_late :
    let new : Watch := ⟨stopped 4 (by decide), 10⟩
    let before : List Step := [.start, .tick 3, .stop]
    let rest : List Step := [.sleep 6, .tick 0, .tick 0, .sleep 9, .tick 0, .tick 9]
    let waiting := new.after (before ++ [.start, .sleep 7])
    (stopped 4 (by decide)).Punctual ∧
      waiting.now = 20 ∧ waiting.tickTimes (.tick 3 :: rest) = [29, 29, 38, 42] ∧
      20 + 2 * 4 ≤ 29 ∧ 29 + 4 ≤ 29 + tolerance := by
  intro new before rest waiting
  have punctual : (stopped 4 (by decide)).Punctual := punctual_iff.2 (by decide)
  obtain ⟨-, schedule, -⟩ := tickTimes_of_started punctual 10
  obtain ⟨bound, apart⟩ := schedule before [.sleep 7] 3 rest (by decide) (by decide)
  exact ⟨punctual, by decide, by decide, bound 1 29 (by decide),
    apart 0 29 29 (by decide) (by decide)⟩

end Watch
end TextSync.Ticker
