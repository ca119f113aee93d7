import TextSync.Proofs.Session.Reports
import TextSync.Proofs.Ticker

/-!
# The caret is reported on schedule

The ticker of a live session is set by the first wait of the loop. From then on the loop never
passes over a tick: it waits no longer than until the next one is due, and takes it at that very
moment, whatever else it takes before. So as long as time passes only while the loop waits, the
reports of the caret come one period after the other (`OnSchedule`), no matter into how many runs
the time is cut and what happens in them or between them.
-/

namespace TextSync.Session

variable {peer : Peer} {s t : Session} {m : Move} {moves : List (Peer × Move)}

/-! ## Before the first wait -/

/-- The ticker of a session keeps its period, and runs just while the session is live. -/
structure Ticking (period : Nat) (s : Session) : Prop where
  periodic : s.ticker.period = period
  running : s.ticker.running = true ↔ s.phase = .live

theorem ticking_start {settings : Settings} {inbox : Inbox} {editor : Editor} {now : Nat}
    (started : start settings inbox editor now = .ok s) :
    Ticking settings.pollPeriod s ∧ s.ticker.due = none := by
  obtain ⟨-, _, rfl⟩ := start_eq_ok started
  exact ⟨⟨rfl, by simp [Ticker.stopped]⟩, rfl⟩

theorem Ticking.move {period : Nat} (ticking : Ticking period s) (peer : Peer)
    (single : m.isRun = false) : Ticking period (s.move peer m) := by
  have passage := passage_move ticking.running.1 peer single
  generalize s.move peer m = t at passage ⊢
  generalize s.reported peer m = made at passage
  cases passage with
  | aside phase ticker | sleeps time sleep phase ticker =>
    constructor
    · rw [ticker, ticking.periodic]
    · rw [ticker, phase, ticking.running]
  | joins awaiting live ticker =>
    constructor
    · rw [ticker]
      exact ticking.periodic
    · rw [ticker, live]
      exact ⟨fun _ => rfl, fun _ => rfl⟩
  | leaves ended ticker =>
    constructor
    · rw [ticker]
      exact ticking.periodic
    · rw [ticker, ended]
      constructor
      · intro runs
        cases runs
      · intro live
        cases live
  | waits time pass idle phase ticker =>
    constructor
    · rw [ticker, Ticker.arm_period, ticking.periodic]
    · rw [ticker, Ticker.arm_running, phase, ticking.running]
  | tick live due phase ticker =>
    constructor
    · rw [ticker]
      exact ticking.periodic
    · rw [ticker, phase]
      exact ticking.running

/-- Whether a move is a wait of the loop while the session is live. -/
def waitsLive (s : Session) : Move → Bool
  | .pass _ => s.phase = .live && s.ready = none
  | _ => false

/-- Whether none of the moves is a wait of the loop while the session is live. -/
def unwaited (s : Session) : List (Peer × Move) → Bool
  | [] => true
  | m :: rest => !s.waitsLive m.2 && (s.move m.1 m.2).unwaited rest

/-- As long as the loop has not waited while the session is live, no tick is scheduled, and nothing
is reported. -/
theorem unscheduled_move {period : Nat} (ticking : Ticking period s) (none : s.ticker.due = none)
    (peer : Peer) (single : m.isRun = false) (waits : s.waitsLive m = false) :
    (s.move peer m).ticker.due = .none ∧ s.reported peer m = [] := by
  have passage := passage_move ticking.running.1 peer single
  generalize s.move peer m = t at passage ⊢
  generalize s.reported peer m = made at passage ⊢
  cases passage with
  | aside phase ticker | sleeps time sleep phase ticker =>
    rw [ticker]
    exact ⟨none, rfl⟩
  | joins awaiting live ticker =>
    rw [ticker]
    exact ⟨rfl, rfl⟩
  | leaves ended ticker =>
    rw [ticker]
    exact ⟨rfl, rfl⟩
  | waits time pass idle phase ticker =>
    have off : s.ticker.running = false := by
      rw [pass] at waits
      rw [Bool.eq_false_iff, ne_eq, ticking.running]
      simpa [waitsLive, idle] using waits
    rw [ticker, Ticker.arm, off]
    exact ⟨none, rfl⟩
  | tick live due =>
    rw [Ticker.isDue, none] at due
    simp at due

theorem unscheduled_after {period : Nat} (ticking : Ticking period s) (none : s.ticker.due = none)
    (single : ∀ m ∈ moves, m.2.isRun = false) (unwaited : s.unwaited moves = true) :
    Ticking period (s.after moves) ∧ (s.after moves).ticker.due = .none ∧
      s.reportedBy moves = [] := by
  induction moves generalizing s with
  | nil => exact ⟨ticking, none, rfl⟩
  | cons m rest ih =>
    obtain ⟨here, single⟩ := List.forall_mem_cons.1 single
    obtain ⟨waits, unwaited⟩ := Bool.and_eq_true_iff.1 unwaited
    obtain ⟨due, silent⟩ := unscheduled_move ticking none m.1 here (Bool.not_eq_true' _ ▸ waits)
    obtain ⟨still, none, silentLater⟩ := ih (ticking.move m.1 here) due single unwaited
    refine ⟨still, none, ?_⟩
    rw [reportedBy, silent, silentLater]
    rfl

/-! ## Time that passes while the loop waits -/

/-- Whether a move leaves it to the loop to let time pass. A pass of the loop waits no longer than
until the next tick is due. -/
def keepsTime (s : Session) : Move → Bool
  | .step (.sleep _) => false
  | .pass time => s.ready ≠ none || !s.ticker.running || s.now + time ≤ s.ticker.dueAt s.now
  | _ => true

/-- Whether every one of the moves leaves it to the loop to let time pass. -/
def keepTime (s : Session) : List (Peer × Move) → Bool
  | [] => true
  | m :: rest => s.keepsTime m.2 && (s.move m.1 m.2).keepTime rest

theorem keepTime_append (s : Session) (first rest : List (Peer × Move)) :
    s.keepTime (first ++ rest) = (s.keepTime first && (s.after first).keepTime rest) := by
  induction first generalizing s with
  | nil => rfl
  | cons m first ih => rw [List.cons_append, keepTime, ih, keepTime, Bool.and_assoc]; rfl

/-- The passes of a run wait no longer than until the next tick is due. -/
theorem keepTime_passMoves (peer : Peer) (time : Nat) (s : Session) :
    s.keepTime (s.passMoves peer time) = true := by
  unfold passMoves
  fun_induction passes peer time s with
  | case1 => rfl
  | case2 time s on turn isReady ih =>
    have first : s.move peer (.pass 0) = s.take peer turn := pass_of_ready on isReady
    rw [List.map_cons, keepTime, first, ih]
    simp [keepsTime, isReady]
  | case3 time s on idle next ih =>
    have later := lt_dueAt_of_ready_none idle next.1
    have first : s.move peer (.pass (s.ticker.dueAt s.now - s.now))
        = s.waitUntil (s.ticker.dueAt s.now) := pass_to_due on idle next.1
    have intime : s.now + (s.ticker.dueAt s.now - s.now) ≤ s.ticker.dueAt s.now := by omega
    rw [List.map_cons, keepTime, first, ih]
    simp [keepsTime, intime]
  | case4 time s on idle late =>
    show (s.keepsTime (.pass time) && true) = true
    cases runs : s.ticker.running with
    | false => simp [keepsTime, runs]
    | true =>
      have early : s.now + time ≤ s.ticker.dueAt s.now := by
        have notYet : ¬ s.ticker.dueAt s.now ≤ s.now + time := fun due => late ⟨runs, due⟩
        omega
      simp [keepsTime, early]

theorem keepTime_unrolled (keeps : s.keepTime moves = true) :
    s.keepTime (s.unrolled moves) = true := by
  induction moves generalizing s with
  | nil => rfl
  | cons m rest ih =>
    obtain ⟨here, later⟩ := Bool.and_eq_true_iff.1 keeps
    have first : s.keepTime (s.unroll m) = true := by
      unfold unroll
      split
      · split
        · rfl
        · exact keepTime_passMoves m.1 _ s
      · show (s.keepsTime m.2 && true) = true
        rw [here]
        rfl
    rw [unrolled, keepTime_append, after_unroll, first, ih later]
    rfl

/-! ## On schedule -/

/-- When the tick is due that comes after so many others, in time, since the loop first waited. -/
def tickDue (began period count : Nat) : Nat :=
  began + period + count * min period Clock.horizon

theorem tickDue_succ (began period count : Nat) :
    tickDue began period (count + 1) = tickDue began period count + min period Clock.horizon := by
  unfold tickDue
  rw [Nat.succ_mul]
  omega

/-- Since the loop first waited while the session is live, the reports have been made when they were
due, and the next one is not overdue. -/
structure OnSchedule (began period : Nat) (made : List Entry) (s : Session) : Prop
    extends Ticking period s where
  past : s.phase ≠ .awaitingSnapshot
  times : made.map (·.time) = (List.range made.length).map (tickDue began period)
  due : s.phase = .live → s.ticker.due = some (tickDue began period made.length)
  intime : s.phase = .live → s.now ≤ tickDue began period made.length

/-- The first wait sets the ticker. -/
theorem onSchedule_of_waitsLive {period : Nat} (ticking : Ticking period s)
    (none : s.ticker.due = none) (waits : s.waitsLive m = true) (keeps : s.keepsTime m = true)
    (peer : Peer) : OnSchedule s.now period [] (s.move peer m) ∧ s.reported peer m = [] := by
  cases m with
  | step | stray => cases waits
  | pass time =>
    have both : s.phase = .live ∧ s.ready = .none := by simpa [waitsLive] using waits
    obtain ⟨live, idle⟩ := both
    have runs := ticking.running.2 live
    have waited : s.pass peer time = s.waitUntil (s.now + time) :=
      pass_of_idle (by simp [live]) idle
    have dueAt : s.ticker.dueAt s.now = tickDue s.now period 0 := by
      simp [Ticker.dueAt, none, ticking.periodic, tickDue]
    have early : s.now + time ≤ s.ticker.dueAt s.now := by simpa [keepsTime, idle, runs] using keeps
    refine ⟨?_, reported_of_unreported (unreported_of_idle (by simp [live]) idle)⟩
    show OnSchedule s.now period [] (s.pass peer time)
    have still : Ticking period (s.pass peer time) := ticking.move (m := .pass time) peer rfl
    rw [waited] at still ⊢
    refine ⟨still, ?_, rfl, ?_, ?_⟩
    · show s.phase ≠ _
      simp [live]
    · intro _
      simp [waitUntil, Ticker.arm, runs, dueAt]
    · intro _
      exact dueAt ▸ early

/-- A move that leaves it to the loop to let time pass keeps the schedule. -/
theorem OnSchedule.move {began period : Nat} {made : List Entry}
    (onSchedule : OnSchedule began period made s) (peer : Peer) (single : m.isRun = false)
    (keeps : s.keepsTime m = true) :
    OnSchedule began period (made ++ s.reported peer m) (s.move peer m) := by
  have passage := passage_move onSchedule.running.1 peer single
  have still := onSchedule.toTicking.move peer single
  generalize s.move peer m = t at passage still ⊢
  generalize s.reported peer m = new at passage ⊢
  cases passage with
  | aside phase ticker now =>
    rw [List.append_nil]
    refine ⟨still, ?_, onSchedule.times, ?_, ?_⟩
    · rw [phase]
      exact onSchedule.past
    · rw [phase, ticker]
      exact onSchedule.due
    · rw [phase, now]
      exact onSchedule.intime
  | joins awaiting => exact absurd awaiting onSchedule.past
  | leaves ended =>
    rw [List.append_nil]
    refine ⟨still, by simp [ended], onSchedule.times, ?_, ?_⟩
    · exact fun live => nomatch ended.symm.trans live
    · exact fun live => nomatch ended.symm.trans live
  | sleeps time sleep =>
    rw [sleep] at keeps
    cases keeps
  | waits time pass idle phase ticker now =>
    rw [List.append_nil]
    have settled (live : s.phase = .live) :
        s.ticker.running = true ∧ s.ticker.dueAt s.now = tickDue began period made.length := by
      refine ⟨onSchedule.running.2 live, ?_⟩
      simp [Ticker.dueAt, onSchedule.due live]
    refine ⟨still, ?_, onSchedule.times, ?_, ?_⟩
    · rw [phase]
      exact onSchedule.past
    · intro live
      obtain ⟨runs, dueAt⟩ := settled (phase ▸ live)
      rw [ticker]
      simp [Ticker.arm, runs, dueAt]
    · intro live
      obtain ⟨runs, dueAt⟩ := settled (phase ▸ live)
      rw [now, ← dueAt]
      rw [pass] at keeps
      simpa [keepsTime, idle, runs] using keeps
  | tick live due phase ticker now =>
    -- The tick is neither early nor overdue, so it is taken at the moment at which it is due.
    have scheduled := onSchedule.due live
    have early := onSchedule.intime live
    have moment : s.now = tickDue began period made.length := by
      rw [Ticker.isDue, scheduled] at due
      have late : tickDue began period made.length ≤ s.now := by
        simpa using (Bool.and_eq_true_iff.1 due).2
      omega
    have stride : s.ticker.stride = min period Clock.horizon :=
      congrArg (min · Clock.horizon) onSchedule.periodic
    refine ⟨still, ?_, ?_, ?_, ?_⟩
    · rw [phase]
      exact onSchedule.past
    · rw [List.length_append, List.length_singleton, List.range_succ, List.map_append,
        List.map_append, onSchedule.times, List.map_singleton, List.map_singleton, moment]
    · intro _
      rw [ticker, List.length_append, List.length_singleton, tickDue_succ, Ticker.fire, scheduled,
        ← moment, Option.map_some, Ticker.following_self, stride]
    · intro _
      rw [now, List.length_append, List.length_singleton, tickDue_succ, moment]
      exact Nat.le_add_right _ _

theorem OnSchedule.after {began period : Nat} {made : List Entry}
    (onSchedule : OnSchedule began period made s) (single : ∀ m ∈ moves, m.2.isRun = false)
    (keeps : s.keepTime moves = true) :
    OnSchedule began period (made ++ s.reportedBy moves) (s.after moves) := by
  induction moves generalizing s made with
  | nil =>
    rw [reportedBy, List.append_nil]
    exact onSchedule
  | cons m rest ih =>
    obtain ⟨here, single⟩ := List.forall_mem_cons.1 single
    obtain ⟨first, later⟩ := Bool.and_eq_true_iff.1 keeps
    rw [reportedBy, ← List.append_assoc]
    exact ih (onSchedule.move m.1 here first) single later

/-- Nothing is reported up to the first wait of the loop while the session is live. This wait sets
the schedule, and what follows keeps it. -/
theorem onSchedule_after {period : Nat} {first middle : List (Peer × Move)} {m : Peer × Move}
    (ticking : Ticking period s) (none : s.ticker.due = none)
    (single : ∀ other ∈ first ++ m :: middle, other.2.isRun = false)
    (keeps : s.keepTime (first ++ m :: middle) = true) (unwaited : s.unwaited first = true)
    (waits : (s.after first).waitsLive m.2 = true) :
    OnSchedule (s.after first).now period (s.reportedBy (first ++ m :: middle))
      (s.after (first ++ m :: middle)) := by
  obtain ⟨singleBefore, singleLater⟩ := List.forall_mem_append.1 single
  obtain ⟨-, singleLater⟩ := List.forall_mem_cons.1 singleLater
  rw [keepTime_append, Bool.and_eq_true_iff] at keeps
  obtain ⟨keepsHere, keepsLater⟩ := Bool.and_eq_true_iff.1 keeps.2
  obtain ⟨still, unset, silent⟩ := unscheduled_after ticking none singleBefore unwaited
  obtain ⟨begins, silentHere⟩ := onSchedule_of_waitsLive still unset waits keepsHere m.1
  have run := begins.after singleLater keepsLater
  rw [reportedBy_append, silent, reportedBy, silentHere, after_append, after_cons]
  exact run

/-! ## What has been reported by a moment -/

theorem filter_range_lt {count total : Nat} (within : count ≤ total) :
    (List.range total).filter (· < count) = List.range count := by
  obtain ⟨rest, rfl⟩ := Nat.exists_eq_add_of_le within
  rw [List.range_add, List.filter_append, List.filter_eq_self.2, List.filter_eq_nil_iff.2,
    List.append_nil]
  · intro k member
    obtain ⟨_, -, rfl⟩ := List.mem_map.1 member
    simp
  · intro k member
    simpa using List.mem_range.1 member

section Near

variable {began period moment : Nat} (near : period ≤ Clock.horizon)
include near

theorem tickDue_eq (count : Nat) : tickDue began period count = began + (count + 1) * period := by
  unfold tickDue
  rw [Nat.min_eq_left near, Nat.succ_mul]
  omega

/-- As many ticks are due by a moment as there are whole periods up to it. -/
theorem tickDue_le_iff (positive : 0 < period) (later : began ≤ moment) (count : Nat) :
    tickDue began period count ≤ moment ↔ count < (moment - began) / period := by
  rw [tickDue_eq near, ← Nat.add_one_le_iff, Nat.le_div_iff_mul_le positive]
  omega

/-- Up to a moment before the next tick is due, as many reports have been made as there are whole
periods up to it, each when it was due. -/
theorem OnSchedule.times_upTo {made : List Entry} (onSchedule : OnSchedule began period made s)
    (later : began ≤ moment) (early : moment < tickDue began period made.length) :
    (made.filter (·.time ≤ moment)).map (·.time)
      = (List.range ((moment - began) / period)).map fun k => began + (k + 1) * period := by
  have positive : 0 < period := onSchedule.periodic ▸ s.ticker.period_pos
  have within : (moment - began) / period ≤ made.length := by
    rw [← Nat.not_lt, ← tickDue_le_iff near positive later]
    exact Nat.not_le.2 early
  have due : (fun time : Nat => decide (time ≤ moment)) ∘ tickDue began period
      = fun k => decide (k < (moment - began) / period) := by
    funext k
    exact decide_eq_decide.2 (tickDue_le_iff near positive later k)
  calc (made.filter (·.time ≤ moment)).map (·.time)
      = (made.map (·.time)).filter (· ≤ moment) := by
        rw [List.filter_map]
        rfl
    _ = ((List.range made.length).map (tickDue began period)).filter (· ≤ moment) := by
        rw [onSchedule.times]
    _ = ((List.range made.length).filter (· < (moment - began) / period)).map
          (tickDue began period) := by
        rw [List.filter_map, due]
    _ = (List.range ((moment - began) / period)).map (tickDue began period) := by
        rw [filter_range_lt within]
    _ = _ := List.map_congr_left fun k _ => tickDue_eq near k

end Near

/-- When the loop has nothing to take, the next tick is still to come. -/
theorem OnSchedule.lt_tickDue {began period : Nat} {made : List Entry}
    (onSchedule : OnSchedule began period made s) (live : s.phase = .live) (idle : s.ready = none) :
    s.now < tickDue began period made.length := by
  have later := lt_dueAt_of_ready_none idle (onSchedule.running.2 live)
  rwa [Ticker.dueAt, onSchedule.due live] at later

/-- A pass of the loop reports the caret while the session is live, where it is then, or reports
nothing. -/
theorem Ticking.reported {period : Nat} (ticking : Ticking period s) (peer : Peer)
    (single : m.isRun = false) :
    s.reported peer m = [] ∨ s.phase = .live ∧
      s.reported peer m = [⟨s.now, .cursor s.editor.selection.start⟩] := by
  have passage := passage_move ticking.running.1 peer single
  generalize s.reported peer m = made at passage ⊢
  cases passage with
  | tick live => exact .inr ⟨live, rfl⟩
  | aside | joins | leaves | sleeps | waits => exact .inl rfl

/-- **The caret is reported on schedule.** Take any moves of the user, of the other side and of the
owner of the loop, its runs cut wherever they may be, in which time passes only while the loop runs,
and look at the passes that the runs make. A pass reports the caret only while the session is live,
and reports where it is then. Let the loop wait for the first time while the session is live. From
then on, as long as the session is live, there is at each moment up to which the loop has waited one
report for each whole period since, made at the end of this period. -/
theorem reports_on_schedule {settings : Settings} {inbox : Inbox} {editor : Editor} {now : Nat}
    {s₀ : Session} (started : start settings inbox editor now = .ok s₀)
    (punctual : s₀.ticker.Punctual) (keeps : s₀.keepTime moves = true) :
    let passes := s₀.unrolled moves
    s₀.after passes = s₀.after moves ∧
    (∀ first m rest, passes = first ++ m :: rest →
      let s := s₀.after first
      s.reported m.1 m.2 = [] ∨ s.phase = .live ∧
        s.reported m.1 m.2 = [⟨s.now, .cursor s.editor.selection.start⟩]) ∧
    ∀ first m middle rest, passes = first ++ m :: (middle ++ rest) →
      s₀.unwaited first = true → (s₀.after first).waitsLive m.2 = true →
      let began := (s₀.after first).now
      let past := first ++ m :: middle
      let s := s₀.after past
      s.phase = .live → ∀ moment, began ≤ moment →
        moment < s.now ∨ moment = s.now ∧ s.ready = none →
        ((s₀.reportedBy past).filter (·.time ≤ moment)).map (·.time)
          = (List.range ((moment - began) / settings.pollPeriod)).map fun k =>
              began + (k + 1) * settings.pollPeriod := by
  intro passes
  obtain ⟨ticking, none⟩ := ticking_start started
  have single : ∀ m ∈ passes, m.2.isRun = false := fun _ member => isRun_of_mem_unrolled member
  have near : settings.pollPeriod ≤ Clock.horizon :=
    ticking.periodic ▸ Ticker.punctual_iff.1 punctual
  refine ⟨after_unrolled s₀ moves, ?_, ?_⟩
  · intro first m rest split s
    rw [split] at single
    have still : Ticking settings.pollPeriod s := by
      refine after_keeps (P := Ticking settings.pollPeriod) ?_ ticking
      intro m member _ before
      exact before.move m.1 (single m (List.mem_append_left _ member))
    exact still.reported m.1 (single m (List.mem_append_right first List.mem_cons_self))
  · intro first m middle rest split unwaited waits began past s live moment later reached
    have cut : passes = past ++ rest := by simp [past, split]
    have kept : s₀.keepTime past = true := by
      have all : s₀.keepTime passes = true := keepTime_unrolled keeps
      rw [cut, keepTime_append] at all
      exact (Bool.and_eq_true_iff.1 all).1
    rw [cut] at single
    have onSchedule : OnSchedule began settings.pollPeriod (s₀.reportedBy past) s :=
      onSchedule_after ticking none (List.forall_mem_append.1 single).1 kept unwaited waits
    refine onSchedule.times_upTo near later ?_
    rcases reached with earlier | ⟨rfl, idle⟩
    · exact Nat.lt_of_lt_of_le earlier (onSchedule.intime live)
    · exact onSchedule.lt_tickDue live idle

/-- The loop waits for the snapshot, and first waits with it at 3. A user edit, an edit of another
and a tick come at 13, at which a wait has just ended; the tick is taken last and reports where the
edits have left the caret. -/
theorem reports_on_schedule_tied :
    let first : List (Peer × Move) := [(.agreeing, .pass 3),
      (.agreeing, .step (.offer (.document ⟨['a', 'b']⟩))), (.agreeing, .pass 0)]
    let middle : List (Peer × Move) := [(.agreeing, .step (.act (.typeText ['x']))),
      (.agreeing, .pass 0), (.agreeing, .pass 3), (.agreeing, .pass 0), (.agreeing, .pass 5),
      (.agreeing, .step (.offer (.edits [.insert 0 ['y']]))),
      (.agreeing, .step (.act (.typeText ['z']))), (.agreeing, .pass 0), (.agreeing, .pass 0),
      (.agreeing, .pass 0)]
    let last : List (Peer × Move) := [(.agreeing, .step (.run 9))]
    let past := first ++ (.agreeing, .pass 2) :: middle
    ∃ s₀, start { pollPeriod := 5 } (.ofCapacity 1) .fresh 0 = .ok s₀ ∧ s₀.ticker.Punctual ∧
      s₀.keepTime (past ++ last) = true ∧ s₀.unwaited first = true ∧
      (s₀.after first).waitsLive (.pass 2) = true ∧ (s₀.after first).now = 3 ∧
      s₀.unrolled (past ++ last) = past ++ (s₀.after past).unrolled last ∧
      s₀.reportedBy past = [⟨8, .cursor 1⟩, ⟨13, .cursor 3⟩] ∧
      ((s₀.reportedBy past).filter (·.time ≤ 12)).map (·.time) = [8] ∧
      ((s₀.reportedBy past).filter (·.time ≤ 13)).map (·.time) = [8, 13] := by
  intro first middle last past
  have started : start { pollPeriod := 5 } (.ofCapacity 1) .fresh 0 = .ok _ := rfl
  have punctual : (Ticker.stopped 5 (by decide)).Punctual := Ticker.punctual_iff.2 (by decide)
  obtain ⟨-, -, schedule⟩ :=
    reports_on_schedule started punctual (show keepTime _ (past ++ last) = true from rfl)
  have times := schedule first (.agreeing, .pass 2) middle (unrolled _ last) rfl rfl rfl rfl
  exact ⟨_, started, punctual, rfl, rfl, rfl, rfl, rfl, rfl,
    (times 12 (by decide) (.inl (by decide))).trans (by decide),
    (times 13 (by decide) (.inr ⟨rfl, rfl⟩)).trans (by decide)⟩

end TextSync.Session
