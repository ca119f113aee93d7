import TextSync.Proofs.Session.Answers

/-!
# Time steers only the reports of the caret

The clock and the ticker decide when the caret is reported, and nothing else. With both left out of
a session, and the reports with them (`untimed`), a wait and a tick are no change at all. So a run
of any length comes to what a run without time comes to (`run_untimed`), and two sessions to which
the same happens at different times, with tickers of different periods, differ at most in their
reports (`sameButTime_after`).

A peer knows the time of a call and hears the reports. The answers of one that goes by these may
change with the period; that, too, steers nothing else.
-/

namespace TextSync

/-- The ticker without its period and its schedule. -/
def Ticker.untimed (t : Ticker) : Ticker := ⟨1, t.running, none, Nat.one_pos⟩

theorem Ticker.untimed_arm (t : Ticker) (now : Nat) : (t.arm now).untimed = t.untimed := by
  unfold untimed
  rw [arm_running]

/-- A call without its time, none if it reports the caret. -/
def Entry.untimed? (e : Entry) : Option Entry :=
  match e.call with
  | .cursor _ => none
  | call => some ⟨0, call⟩

section Calls

variable (calls : List Entry)

theorem untimed_calls :
    (calls.filterMap Entry.untimed?).filterMap Entry.untimed? = calls.filterMap Entry.untimed? := by
  have once (e : Entry) : e.untimed?.bind Entry.untimed? = e.untimed? := by
    obtain ⟨time, call⟩ := e
    cases call <;> rfl
  rw [List.filterMap_filterMap]
  exact congrArg (fun f => calls.filterMap f) (funext once)

/-- The answers have nothing to do with the time. -/
theorem verdicts_untimed :
    (calls.filterMap Entry.untimed?).filterMap Entry.verdict? = calls.filterMap Entry.verdict? := by
  have kept (e : Entry) : e.untimed?.bind Entry.verdict? = e.verdict? := by
    obtain ⟨time, call⟩ := e
    cases call <;> rfl
  rw [List.filterMap_filterMap]
  exact congrArg (fun f => calls.filterMap f) (funext kept)

theorem unanswered_untimed :
    (calls.filterMap Entry.untimed?).filterMap Entry.unanswered?
      = (calls.filterMap Entry.unanswered?).filterMap Entry.untimed? := by
  have swapped (e : Entry) :
      e.untimed?.bind Entry.unanswered? = e.unanswered?.bind Entry.untimed? := by
    obtain ⟨time, call⟩ := e
    cases call with
    | complain complaint => cases complaint <;> rfl
    | _ => rfl
  rw [List.filterMap_filterMap, List.filterMap_filterMap]
  exact congrArg (fun f => calls.filterMap f) (funext swapped)

end Calls

/-- What was answered stays so with the time left out. -/
theorem Answered.untimed {calls : List Entry} {accepted refused : Nat}
    (answered : Answered calls accepted refused) :
    Answered (calls.filterMap Entry.untimed?) accepted refused := by
  induction answered with
  | nothing => exact .nothing
  | @other entry calls _ _ apart before ih =>
    obtain ⟨time, call⟩ := entry
    cases call with
    | cursor => exact ih
    | _ => exact .other apart ih
  | accepted yes before ih => exact .accepted yes ih
  | refused before ih => exact .refused ih

/-- Whether the answers of a peer go by neither the time nor the reports of the caret. -/
def Peer.Timeless (peer : Peer) : Prop :=
  ∀ calls e, peer (calls.filterMap Entry.untimed?) e = peer calls e

theorem Peer.agreeing_timeless : Peer.agreeing.Timeless := fun _ _ => rfl

namespace Session

variable {peer : Peer} {s t : Session} {m : Move}

/-! ## The time left out -/

/-- The session without its times and without its reports of the caret. -/
def untimed (s : Session) : Session :=
  { s with
    ticker := s.ticker.untimed
    tally := { s.tally with cursorReports := 0 }
    now := 0
    calls := s.calls.filterMap Entry.untimed? }

theorem untimed_untimed (s : Session) : s.untimed.untimed = s.untimed := by
  show { s.untimed with calls := (s.calls.filterMap Entry.untimed?).filterMap Entry.untimed? } = _
  rw [untimed_calls]
  rfl

/-- A report of the caret is all time. -/
theorem reportCursor_untimed (s : Session) : s.reportCursor.2.untimed = s.untimed := by
  unfold reportCursor
  split <;> rfl

theorem waitUntil_untimed (moment : Nat) (s : Session) :
    (s.waitUntil moment).untimed = s.untimed := by
  show { s.untimed with ticker := (s.ticker.arm s.now).untimed } = _
  rw [Ticker.untimed_arm]
  rfl

/-- With the time left out no tick is ever ready, and the rest is ready as before. -/
theorem ready_untimed (s : Session) :
    s.untimed.ready = s.ready.filter fun turn => turn ≠ .tick := by
  have notDue : s.untimed.ticker.isDue 0 = false := Bool.and_false _
  unfold ready
  grind [untimed]

theorem ready_untimed_of_none (idle : s.ready = none) : s.untimed.ready = none := by
  rw [ready_untimed, idle]
  rfl

/-- A move that takes no time, and is the same move otherwise. -/
def Move.untimed : Move → Move
  | .step (.run _) => .step (.run 0)
  | .step (.sleep _) => .step (.sleep 0)
  | .pass _ => .pass 0
  | m => m

section Timeless

variable (timeless : peer.Timeless)
include timeless

theorem send_untimed (e : Edit) (s : Session) :
    (s.send peer e).untimed = s.untimed.send peer e := by
  have answer : peer s.untimed.calls e = peer s.calls e := timeless s.calls e
  unfold send
  rw [answer]
  cases peer s.calls e <;> rfl

/-- The handlers do not see the time. -/
theorem unseen_untimed : Unseen untimed peer peer where
  phase _ := rfl
  pending _ := rfl
  text _ := rfl
  note _ _ := rfl
  complain _ _ := rfl
  send e s := send_untimed timeless e (s.accept e)
  write _ _ _ := rfl
  goLive _ _ := rfl
  presence _ _ := rfl

theorem localChange_untimed (s : Session) :
    (s.localChange peer).2.untimed = (s.untimed.localChange peer).2 :=
  (congrArg Prod.snd ((unseen_untimed timeless).localChange s)).symm

theorem receive_untimed (event : Incoming) (s : Session) :
    (s.receive peer event).untimed = s.untimed.receive peer event :=
  ((unseen_untimed timeless).receive fun _ _ => rfl).symm

theorem leave_untimed (ending : Ending) (s : Session) :
    (s.leave ending).untimed = s.untimed.leave ending :=
  ((unseen_untimed timeless).leave rfl).symm

/-! ## Whatever happens -/

/-- A turn that is no tick is taken as before. -/
theorem take_untimed {turn : Turn} (other : turn ≠ .tick) (s : Session) :
    (s.take peer turn).untimed = s.untimed.take peer turn := by
  cases turn with
  | teardown | editorClosed | inboxClosed => rfl
  | signal => exact localChange_untimed timeless _
  | event event rest => exact receive_untimed timeless event _
  | tick => exact absurd rfl other

/-- What is ready is taken as before, or it is a tick, which is no change. -/
theorem take_untimed_cases {turn : Turn} (isReady : s.ready = some turn) :
    s.untimed.ready = none ∧ (s.take peer turn).untimed = s.untimed ∨
      s.untimed.ready = some turn ∧ (s.take peer turn).untimed = s.untimed.take peer turn := by
  by_cases tick : turn = .tick
  · subst tick
    refine .inl ⟨?_, reportCursor_untimed _⟩
    rw [ready_untimed, isReady]
    rfl
  · refine .inr ⟨?_, take_untimed timeless tick s⟩
    rw [ready_untimed, isReady]
    simp [tick]

theorem pass_untimed (time : Nat) (s : Session) :
    (s.pass peer time).untimed = (s.untimed.pass peer 0).untimed := by
  by_cases ended : s.phase = .disconnected
  · rw [pass_of_disconnected ended, pass_of_disconnected (s := s.untimed) ended, untimed_untimed]
  cases isReady : s.ready with
  | none =>
    have still : s.untimed.ready = none := ready_untimed_of_none isReady
    rw [pass_of_idle ended isReady, pass_of_idle (s := s.untimed) ended still,
      waitUntil_untimed, waitUntil_untimed, untimed_untimed]
  | some turn =>
    rw [pass_of_ready ended isReady]
    obtain ⟨none, same⟩ | ⟨still, taken⟩ := take_untimed_cases timeless isReady
    · rw [same, pass_of_idle (s := s.untimed) ended none, waitUntil_untimed, untimed_untimed]
    · rw [taken, pass_of_ready (s := s.untimed) ended still, ← taken, untimed_untimed]

/-- **A run of any length is a run without time**, but for the reports of the caret. -/
theorem run_untimed (time : Nat) (s : Session) :
    (s.run peer time).2.untimed = (s.untimed.run peer 0).2.untimed := by
  fun_induction run peer time s with
  | case1 time s ended =>
    rw [run_of_disconnected (s := s.untimed) ended, untimed_untimed]
  | case2 time s on turn isReady ih =>
    obtain ⟨-, same⟩ | ⟨still, taken⟩ := take_untimed_cases timeless isReady
    · rw [ih, same]
    · rw [ih, taken, ← run_of_ready (s := s.untimed) on still]
  | case3 time s on idle next ih => rw [ih, waitUntil_untimed]
  | case4 time s on idle late =>
    have still : s.untimed.ready = none := ready_untimed_of_none idle
    have notYet : ¬ (s.untimed.ticker.running = true ∧
        s.untimed.ticker.dueAt s.untimed.now ≤ s.untimed.now + 0) := fun next =>
      absurd (lt_dueAt_of_ready_none still next.1) (Nat.not_lt.2 next.2)
    rw [run_of_idle (s := s.untimed) on still, if_neg notYet]
    show (s.waitUntil _).untimed = (s.untimed.waitUntil _).untimed
    rw [waitUntil_untimed, waitUntil_untimed, untimed_untimed]

/-- A move at any time, or for any length of time, is the move without time. -/
theorem move_untimed (m : Move) (s : Session) :
    (s.move peer m).untimed = (s.untimed.move peer m.untimed).untimed := by
  have once := untimed_untimed s
  have past {f : Session → Session} (through : ∀ u, (f u).untimed = f u.untimed) :
      (f s).untimed = (f s.untimed).untimed := by rw [through, through, once]
  have held {after next : Session} (answer answer' : Answer)
      (same : after.untimed = next.untimed) :
      (s.whileHeld answer after).2.untimed = (s.untimed.whileHeld answer' next).2.untimed :=
    whileHeld_relates (R := fun u v => u.untimed = v.untimed) answer answer' rfl once.symm same
  cases m with
  | pass time => exact pass_untimed timeless time s
  | stray => exact past (f := fun u => u.move peer .stray) fun _ => rfl
  | step step =>
    cases step with
    | act action => exact past (f := fun u => u.move peer (.step (.act action))) fun _ => rfl
    | offer event => exact past (f := fun u => u.move peer (.step (.offer event))) fun _ => rfl
    | closeSender => exact past (f := fun u => u.move peer (.step .closeSender)) fun _ => rfl
    | requestTeardown => exact past (f := requestTeardown) fun _ => rfl
    | sleep time => exact once.symm
    | receive event => exact held _ _ (past (receive_untimed timeless event))
    | localChange => exact held _ _ (past (localChange_untimed timeless))
    | reportCursor =>
      refine held _ _ ?_
      rw [reportCursor_untimed, reportCursor_untimed, once]
    | teardown => exact held _ _ (past (leave_untimed timeless .teardown))
    | run time =>
      refine held _ _ ?_
      rw [run_untimed timeless, run_untimed timeless 0 s.untimed, once]
    | drop =>
      have left := leave_untimed timeless .dropped
      exact past (f := drop) fun u =>
        congrArg (fun v : Session => { v with dropped := true }) (left u)

end Timeless

/-- Two sessions that are the same but for the time stay so, whatever happens to both, at whatever
times it does. -/
theorem after_untimed {moves others : List (Peer × Move)} (same : t.untimed = s.untimed)
    (alike : others.map (fun m => (m.1, m.2.untimed)) = moves.map fun m => (m.1, m.2.untimed))
    (timeless : ∀ m ∈ moves, m.1.Timeless) :
    (t.after others).untimed = (s.after moves).untimed := by
  induction moves generalizing others s t with
  | nil =>
    rw [List.map_eq_nil_iff.1 alike]
    exact same
  | cons m rest ih =>
    obtain ⟨first, others, rfl, here, later⟩ := List.map_eq_cons_iff.1 alike
    obtain ⟨peers, moved⟩ := Prod.mk.inj here
    have deaf := timeless m List.mem_cons_self
    rw [after_cons, after_cons]
    refine ih ?_ later fun next member => timeless next (List.mem_cons_of_mem _ member)
    rw [move_untimed (peers ▸ deaf), move_untimed deaf, moved, peers, same]

/-! ## Two clocks -/

/-- Two sessions that differ at most in the time and in the reports of the caret. -/
structure SameButTime (s t : Session) : Prop where
  phase : t.phase = s.phase
  content : t.content = s.content
  editor : t.editor = s.editor
  inbox : t.inbox = s.inbox
  history : t.history = s.history
  sent : t.tally.sent = s.tally.sent
  refused : t.tally.refused = s.tally.refused
  applied : t.tally.applied = s.tally.applied
  protocolErrors : t.tally.protocolErrors = s.tally.protocolErrors
  calls : t.calls.filterMap Entry.untimed? = s.calls.filterMap Entry.untimed?

theorem sameButTime_of_eq (same : t.untimed = s.untimed) : SameButTime s t where
  phase := congrArg (·.phase) same
  content := congrArg (·.content) same
  editor := congrArg (·.editor) same
  inbox := congrArg (·.inbox) same
  history := congrArg (·.history) same
  sent := congrArg (·.tally.sent) same
  refused := congrArg (·.tally.refused) same
  applied := congrArg (·.tally.applied) same
  protocolErrors := congrArg (·.tally.protocolErrors) same
  calls := congrArg (·.calls) same

/-- Sessions that differ at most in the time and in the answers differ at most in the time, if they
got the same answers. -/
theorem SameButTime.of_verdicts (same : SameButTime s.unanswered t.unanswered)
    (verdicts : t.verdicts = s.verdicts) (accounted : Accounted s) (accounted' : Accounted t) :
    SameButTime s t := by
  have calls : (t.calls.filterMap Entry.untimed?).filterMap Entry.unanswered?
      = (s.calls.filterMap Entry.untimed?).filterMap Entry.unanswered? := by
    rw [unanswered_untimed, unanswered_untimed]
    exact same.calls
  have answers : (t.calls.filterMap Entry.untimed?).filterMap Entry.verdict?
      = (s.calls.filterMap Entry.untimed?).filterMap Entry.verdict? := by
    rw [verdicts_untimed, verdicts_untimed]
    exact verdicts
  obtain ⟨kept, sent, refused⟩ :=
    Answered.eq_of_verdicts accounted.untimed accounted'.untimed calls answers
  exact ⟨same.phase, same.content, same.editor, same.inbox, same.history, sent, refused,
    same.applied, same.protocolErrors, kept⟩

section Moves

variable {moves others : List (Peer × Move)}
  (same : others.map (·.2.untimed) = moves.map (·.2.untimed))
include same

/-- With the answers left out, the peers may be any. -/
theorem sameButTime_unanswered (begun : t.unanswered.untimed = s.unanswered.untimed) :
    SameButTime (s.after moves).unanswered (t.after others).unanswered := by
  have agreed (moves : List (Peer × Move)) :
      ((moves.map (·.2)).map fun m => (Peer.agreeing, m)).map (fun m => (m.1, m.2.untimed))
        = (moves.map (·.2.untimed)).map fun m => (.agreeing, m) := by
    simp only [List.map_map]
    rfl
  refine sameButTime_of_eq ?_
  rw [after_unanswered, after_unanswered]
  refine after_untimed begun (by rw [agreed, agreed, same]) fun m member => ?_
  obtain ⟨_, -, rfl⟩ := List.mem_map.1 member
  exact Peer.agreeing_timeless

/-- Equal peers that go by neither the time nor the reports give the same answers. -/
theorem verdicts_after (begun : t.untimed = s.untimed) (peers : others.map (·.1) = moves.map (·.1))
    (timeless : ∀ m ∈ moves, m.1.Timeless) :
    (t.after others).verdicts = (s.after moves).verdicts := by
  have alike : others.map (fun m => (m.1, m.2.untimed))
      = moves.map fun m => (m.1, m.2.untimed) := by
    rw [← List.zip_map', ← List.zip_map', peers, same]
  have calls := (sameButTime_of_eq (after_untimed begun alike timeless)).calls
  show (t.after others).calls.filterMap Entry.verdict?
    = (s.after moves).calls.filterMap Entry.verdict?
  rw [← verdicts_untimed, calls, verdicts_untimed]

end Moves

/-- **Time steers nothing but the reports.** Let the same happen to two sessions on one editor, with
any two periods of the ticker, and let the runs, the passes and the pauses last as they may. If the
edits were answered alike so far, the two courses differ at most in the reports of the caret and in
when the calls were made: the stage, the texts, the selection, all other counts and all other calls
are the same. If not, they differ at most in this and in the answers. Equal peers that go by neither
the time nor the reports do answer alike. -/
theorem sameButTime_after {settings settings' : Settings} {inbox : Inbox} {editor : Editor}
    {now now' : Nat} {s₀ t₀ : Session} (started : start settings inbox editor now = .ok s₀)
    (started' : start settings' inbox editor now' = .ok t₀) {moves others : List (Peer × Move)}
    (same : others.map (·.2.untimed) = moves.map (·.2.untimed)) :
    let s := s₀.after moves
    let t := t₀.after others
    (t.verdicts = s.verdicts → SameButTime s t) ∧ SameButTime s.unanswered t.unanswered ∧
      (others.map (·.1) = moves.map (·.1) → (∀ m ∈ moves, m.1.Timeless) →
        t.verdicts = s.verdicts) := by
  intro s t
  have begun : t₀.untimed = s₀.untimed ∧ t₀.unanswered.untimed = s₀.unanswered.untimed := by
    obtain ⟨-, _, rfl⟩ := start_eq_ok started
    obtain ⟨-, _, rfl⟩ := start_eq_ok started'
    exact ⟨rfl, rfl⟩
  have unanswered : SameButTime s.unanswered t.unanswered := sameButTime_unanswered same begun.2
  refine ⟨fun verdicts => ?_, unanswered, verdicts_after same begun.1⟩
  exact unanswered.of_verdicts verdicts (accounted_after (accounted_start started) moves)
    (accounted_after (accounted_start started') others)

/-- A slow ticker that never comes to its turn, and a fast one that reports before and after a
change that both have to send. -/
theorem sameButTime_after_fast :
    let course (first second : Nat) : List (Peer × Move) :=
      [.step (.receive (.document ⟨['a', 'b']⟩)), .step (.run first),
        .step (.act (.typeText ['x'])), .step (.offer (.edits [.insert 0 ['y']])),
        .step (.run second)].map fun m => (.refusing ['n'], m)
    ∃ s₀ t₀, start {} (.ofCapacity 1) .fresh 0 = .ok s₀ ∧
      start { pollPeriod := 2 } (.ofCapacity 1) .fresh 7 = .ok t₀ ∧
      let s := s₀.after (course 0 0)
      let t := t₀.after (course 5 4)
      (course 5 4).map (·.2.untimed) = (course 0 0).map (·.2.untimed) ∧
      (course 5 4).map (·.1) = (course 0 0).map (·.1) ∧
      (∀ m ∈ course 0 0, m.1.Timeless) ∧ t.verdicts = s.verdicts ∧ SameButTime s t ∧
      s.content = ['y', 'x', 'a', 'b'] ∧ t.content = ['y', 'x', 'a', 'b'] ∧
      s.tally = ⟨0, 1, 1, 0, 0⟩ ∧ t.tally = ⟨0, 1, 1, 0, 4⟩ := by
  intro course
  have started : start {} (.ofCapacity 1) .fresh 0 = .ok _ := rfl
  have started' : start { pollPeriod := 2 } (.ofCapacity 1) .fresh 7 = .ok _ := rfl
  have same : (course 5 4).map (·.2.untimed) = (course 0 0).map (·.2.untimed) := rfl
  have peers : (course 5 4).map (·.1) = (course 0 0).map (·.1) := rfl
  have timeless : ∀ m ∈ course 0 0, m.1.Timeless := by
    intro m member
    obtain ⟨_, -, rfl⟩ := List.mem_map.1 member
    exact fun _ _ => rfl
  have ⟨alike, _, answers⟩ := sameButTime_after started started' same
  have verdicts := answers peers timeless
  refine ⟨_, _, started, started', same, peers, timeless, verdicts, alike verdicts, ?_⟩
  decide +kernel

/-- A peer may answer by what it has heard. One that agrees only after a report of the caret refuses
a change that comes before the first tick and takes the same change after it, and whether the tick
comes first is up to the length of a run and to the period. -/
theorem verdicts_differ_of_report :
    let peer : Peer := fun calls _ => if calls.isEmpty then .refused ['n'] else .delivered
    let course (time : Nat) : List (Peer × Move) :=
      [.step (.receive (.document ⟨['a', 'b']⟩)), .step (.run time),
        .step (.act (.typeText ['x'])), .step .localChange].map fun m => (peer, m)
    ∃ s₀ t₀, start {} (.ofCapacity 1) .fresh 0 = .ok s₀ ∧
      start { pollPeriod := 499 } (.ofCapacity 1) .fresh 0 = .ok t₀ ∧
      (course 500).map (·.2.untimed) = (course 499).map (·.2.untimed) ∧
      (course 500).map (·.1) = (course 499).map (·.1) ∧
      (s₀.after (course 499)).tally = ⟨0, 1, 0, 0, 0⟩ ∧
      (s₀.after (course 500)).tally = ⟨1, 0, 0, 0, 1⟩ ∧
      (t₀.after (course 499)).tally = ⟨1, 0, 0, 0, 1⟩ ∧
      ¬ SameButTime (s₀.after (course 499)) (s₀.after (course 500)) ∧
      ¬ SameButTime (s₀.after (course 499)) (t₀.after (course 499)) := by
  intro peer course
  have started : start {} (.ofCapacity 1) .fresh 0 = .ok _ := rfl
  have started' : start { pollPeriod := 499 } (.ofCapacity 1) .fresh 0 = .ok _ := rfl
  have apart {s t : Session} (refused : s.tally = ⟨0, 1, 0, 0, 0⟩)
      (sent : t.tally = ⟨1, 0, 0, 0, 1⟩) : ¬ SameButTime s t := by
    intro same
    have refusals := same.refused
    rw [refused, sent] at refusals
    cases refusals
  refine ⟨_, _, started, started', rfl, rfl, ?unheard, ?later, ?sooner, apart ?unheard ?later,
    apart ?unheard ?sooner⟩
  all_goals decide +kernel

end Session
end TextSync
