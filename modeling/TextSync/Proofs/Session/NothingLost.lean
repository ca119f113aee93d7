import TextSync.Proofs.Session.Recorded

/-!
# Nothing that the user types is lost

Where the loop alone drives a session, a change by the user that the session does not know has a
signal waiting for it. The loop takes every signal before it takes anything else but a request to
tear down. So the session knows the user's text whenever it takes an event or a tick, finds a
queue closed, or waits: all that the user has changed is sent by then, and the caret that a tick
reports lies within the text that the session knows.
-/

namespace TextSync.Session

variable {peer : Peer} {s t : Session} {time : Nat}

/-- A change by the user is sent, or told by a signal that still waits. -/
structure Told (s : Session) : Prop where
  tells : s.editor.editable = true → s.editor.signals.sending = true
  listens : s.phase ≠ .disconnected → s.editor.signals.listener = .taken
  waits : s.phase = .live → ¬ s.InStep → 0 < s.editor.signals.queued
  bounded : s.phase = .live → s.editor.Bounded

/-! ## Deeds -/

theorem Deed.sending (deed : Deed peer s t) :
    t.editor.signals.sending = s.editor.signals.sending := by
  cases deed with
  | send live found => rw [send_editor]; rfl
  | write live known applied =>
    obtain ⟨content, -, rfl⟩ := applyRemote_eq_ok applied
    rfl
  | _ => rfl

theorem Deed.listens (deed : Deed peer s t)
    (listens : s.phase ≠ .disconnected → s.editor.signals.listener = .taken) :
    t.phase ≠ .disconnected → t.editor.signals.listener = .taken := by
  cases deed with
  | note | complain | presence | cursor | around => exact listens
  | shutDown ending on => exact fun still => absurd rfl still
  | goLive document awaiting => exact fun _ => listens (by simp [awaiting])
  | send live found =>
    rw [send_phase, send_editor]
    exact listens
  | write live known applied =>
    obtain ⟨content, -, rfl⟩ := applyRemote_eq_ok applied
    exact listens

/-- A live session that knows the user's text still knows it after what it does. -/
theorem Deed.knows (deed : Deed peer s t) (knows : s.phase = .live → s.InStep) :
    t.phase = .live → t.InStep := by
  cases deed with
  | note | complain | presence | cursor | around => exact knows
  | shutDown ending on => exact fun live => nomatch live
  | goLive document awaiting => exact fun _ => rfl
  | send live found =>
    intro _
    rw [InStep, send_content, send_editor]
    rfl
  | write live known applied => exact fun _ => applyRemote_inStep applied

theorem Deed.bounded (deed : Deed peer s t) (bounded : s.phase = .live → s.editor.Bounded) :
    t.phase = .live → t.editor.Bounded := by
  cases deed with
  | note | complain | presence | cursor => exact bounded
  | around => exact fun live => ⟨(bounded live).start, (bounded live).stop⟩
  | shutDown ending on => exact fun live => nomatch live
  | goLive document awaiting =>
    have clamped := Editor.bounded_setContent document.content s.editor
    exact fun _ => ⟨clamped.start, clamped.stop⟩
  | send live found =>
    rw [send_phase, send_editor]
    exact bounded
  | write live known applied =>
    obtain ⟨content, -, rfl⟩ := applyRemote_eq_ok applied
    exact fun _ => Editor.bounded_select _ _

/-! ## Passes of the loop -/

/-- With no signal waiting and an editor that tells, the session may do anything. -/
theorem Told.deeds (told : Told s) (quiet : s.editor.signals.queued = 0)
    (tells : s.editor.signals.sending = true) (deeds : Deeds peer s t) : Told t := by
  have known : s.phase = .live → s.InStep := by
    intro live
    refine Classical.byContradiction fun differ => ?_
    have waits := told.waits live differ
    omega
  have still : t.editor.signals.sending = true :=
    deeds.keep (P := fun u => u.editor.signals.sending = true)
      (fun deed before => deed.sending.trans before) tells
  have knows := deeds.keep Deed.knows known
  exact ⟨fun _ => still, deeds.keep Deed.listens told.listens,
    fun live differ => absurd (knows live) differ, deeds.keep Deed.bounded told.bounded⟩

theorem told_shutDown (ending : Ending) (s : Session) : Told (s.shutDown ending) where
  tells := fun editable => nomatch editable
  listens := fun on => absurd rfl on
  waits := fun live => nomatch live
  bounded := fun live => nomatch live

/-- Taking a signal takes the change over that it tells of, and all others. -/
theorem Told.signal (told : Told s) : Told (s.take peer .signal) := by
  let heard : Session := { s with editor := { s.editor with signals := s.editor.signals.next } }
  have editor : (heard.localChange peer).2.editor = heard.editor := localChange_editor peer heard
  have phase : (heard.localChange peer).2.phase = s.phase := (localChange_sameCourse peer heard).phase
  show Told (heard.localChange peer).2
  refine ⟨?_, ?_, fun live differ => absurd (localChange_inStep (phase ▸ live)) differ, ?_⟩
  · rw [editor]
    exact told.tells
  · rw [editor, phase]
    exact told.listens
  · rw [editor, phase]
    exact fun live => ⟨(told.bounded live).start, (told.bounded live).stop⟩

theorem Told.pass (told : Told s) (peer : Peer) (time : Nat) : Told (s.pass peer time) := by
  by_cases on : s.phase = .disconnected
  · simpa [Session.pass, on] using told
  · cases isReady : s.ready with
    | none =>
      rw [pass_of_idle on isReady]
      exact ⟨told.tells, told.listens, told.waits, told.bounded⟩
    | some turn =>
      rw [pass_of_ready on isReady]
      cases turn with
      | teardown | editorClosed | inboxClosed => exact told_shutDown _ s
      | signal => exact told.signal
      | event | tick =>
        have quiet := queued_of_ready (s := s) (by simp [isReady]) (by simp [isReady])
        have tells := sending_of_ready (s := s) (by simp [isReady]) (by simp [isReady])
          (by simp [isReady])
        exact told.deeds quiet tells (deeds_take peer _ on)

/-! ## Moves -/

/-- Whether a move is left to the user, the loop and those at the far ends of the queues. -/
def Move.isFree (m : Move) : Bool := !m.writesText && !m.setsEditable && !m.callsHandler

theorem Move.isFree_iff {m : Move} :
    m.isFree = true ↔
      m.writesText = false ∧ m.setsEditable = false ∧ m.callsHandler = false := by
  simp [isFree, and_assoc]

/-- What the user changes is told at once. -/
theorem Told.act (told : Told s) {action : Editor.Action}
    (free : (Move.step (.act action)).isFree = true) :
    Told { s with editor := s.editor.perform action } := by
  obtain ⟨notWritten, notSet, -⟩ := Move.isFree_iff.1 free
  refine ⟨Editor.perform_open (Move.ne_setEditable notSet) told.tells, ?_, ?_,
    fun live => Editor.bounded_perform (told.bounded live) action⟩
  · intro on
    exact (Editor.perform_listener action s.editor).trans (told.listens on)
  · intro live differ
    show 0 < (s.editor.perform action).signals.queued
    obtain ⟨same, queued⟩ | ⟨-, editable, emitted⟩ :=
      Editor.perform_cases (Move.ne_setContent notWritten) s.editor
    · rw [queued]
      exact told.waits live fun known => differ (known.trans same.symm)
    · have on : s.phase ≠ .disconnected := by
        intro ended
        exact nomatch ended.symm.trans live
      have listens : s.editor.signals.listener ≠ .gone := by simp [told.listens on]
      rw [emitted, Signals.emit_queued (told.tells editable) listens]
      exact Nat.succ_pos _

theorem Told.leave (told : Told s) (ending : Ending) : Told (s.leave ending) :=
  leave_keeps ending told fun _ => told_shutDown ending s

theorem Told.whileHeld {after : Session} (answer : Answer) (told : Told s) (next : Told after) :
    Told (s.whileHeld answer after).2 := whileHeld_keeps answer told next

theorem Told.move (told : Told s) (peer : Peer) {m : Move} (free : m.isFree = true) :
    Told (s.move peer m) := by
  cases m with
  | pass time => exact told.pass peer time
  | stray =>
    have more : s.editor.signals.queued ≤ s.editor.signals.emit.queued := by
      unfold Signals.emit
      split
      · exact Nat.le_succ _
      · exact Nat.le_refl _
    refine ⟨fun editable => ?_, fun on => ?_, fun live differ => ?_, fun live => ?_⟩
    · exact s.editor.signals.emit_sending.trans (told.tells editable)
    · exact s.editor.signals.emit_listener.trans (told.listens on)
    · exact Nat.lt_of_lt_of_le (told.waits live differ) more
    · exact ⟨(told.bounded live).start, (told.bounded live).stop⟩
  | step step =>
    cases step with
    | act action => exact told.act free
    | offer | closeSender | requestTeardown | sleep =>
      exact ⟨told.tells, told.listens, told.waits, told.bounded⟩
    | receive | localChange | reportCursor => cases free
    | teardown => exact told.whileHeld _ (told.leave .teardown)
    | run time =>
      exact told.whileHeld _ (run_keeps (fun _ time before => before.pass peer time) told)
    | drop =>
      have left := told.leave .dropped
      exact ⟨left.tells, left.listens, left.waits, left.bounded⟩

/-- **Nothing is lost.** Let the loop drive a session, and let no one but the user and the session
write the text. Wherever a run looks at a live session and takes neither a request nor a signal, so
when it takes an event or a tick, finds a queue closed or waits, the session knows the user's text:
its history, which holds just the edits that were sent and those that were written, replays to it.
The caret that a tick reports lies within that text. A run looks at the session before each of its
passes and at no other moment, it comes to what its passes come to, and from where it looks it goes
on to the same end. -/
theorem inStep_of_visits {settings : Settings} {inbox : Inbox} {editor : Editor} {now : Nat}
    {s₀ : Session} (started : start settings inbox editor now = .ok s₀)
    {moves : List (Peer × Move)} (free : ∀ m ∈ moves, m.2.isFree = true)
    (visits : Visits peer time (s₀.after moves) t) (live : t.phase = .live)
    (notAsked : t.ready ≠ some .teardown) (notSignal : t.ready ≠ some .signal) :
    let s := s₀.after moves
    t.content = t.editor.content ∧ t.history.replay = .ok t.editor.content ∧
      t.history.editsFrom .here = t.sentEdits ∧
      (t.ready = some .tick → ∃ offset, offset ≤ t.content.length ∧
        (t.take peer .tick).calls = ⟨t.now, .cursor offset⟩ :: t.calls) ∧
      (∃ left, s.run peer time = t.run peer left) ∧
      s.after (s.passMoves peer time) = (s.run peer time).2 ∧
      ∀ u, Visits peer time s u ↔
        ∃ first m rest, s.passMoves peer time = first ++ m :: rest ∧ s.after first = u := by
  intro s
  have begun : Told s₀ := by
    obtain ⟨-, _, rfl⟩ := start_eq_ok started
    exact ⟨(fun editable => nomatch editable), (fun _ => rfl), (fun live => nomatch live),
      fun live => nomatch live⟩
  have reached : Told s :=
    after_keeps (P := Told) (fun m member _ told => told.move m.1 (free m member)) begun
  have told : Told t := visits.keep (fun _ time before => before.pass peer time) reached
  have known : t.InStep := by
    refine Classical.byContradiction fun differ => ?_
    have waits := told.waits live differ
    rw [queued_of_ready notAsked notSignal] at waits
    exact Nat.lt_irrefl 0 waits
  have recorded : Recorded t :=
    visits.deeds.keep Deed.recorded (recorded_after (recorded_start started))
  refine ⟨known, ?_, recorded.own, fun _ => ⟨t.editor.selection.start, ?_, ?_⟩, visits.run_eq,
    after_passMoves peer time s, fun _ => visits_iff peer time s⟩
  · rw [← known]
    exact (recorded.leads live).replay
  · rw [known]
    exact (told.bounded live).start
  · simp [take, reportCursor, live, call, count]

/-- A change waits behind a stray signal and before an event. The run takes both signals first and
looks at the event with the change sent. -/
theorem inStep_of_visits_event :
    let moves : List (Peer × Move) := [(.agreeing, .step (.offer (.document ⟨['a']⟩))),
      (.agreeing, .pass 0), (.agreeing, .stray), (.agreeing, .step (.act (.typeText ['x']))),
      (.agreeing, .step (.offer .disconnect))]
    ∃ s₀ t, start {} (.ofCapacity 1) .fresh 0 = .ok s₀ ∧ (∀ m ∈ moves, m.2.isFree = true) ∧
      Visits (.refusing []) 0 (s₀.after moves) t ∧ t.phase = .live ∧
      t.ready = some (.event .disconnect []) ∧ t.content = ['x', 'a'] ∧
      t.sentEdits = [.insert 0 ['x']] ∧ t.content = t.editor.content := by
  intro moves
  have started : start {} (.ofCapacity 1) .fresh 0 = .ok _ := rfl
  have free : ∀ m ∈ moves, m.2.isFree = true := by decide
  refine ⟨_, _, started, free, .turn (by decide) rfl (.turn (by decide) rfl (.here (by decide))),
    rfl, rfl, rfl, rfl, ?_⟩
  refine (@inStep_of_visits _ _ 0 _ _ _ _ _ started _ free
    (.turn ?_ rfl (.turn ?_ rfl (.here ?_))) rfl ?_ ?_).1
  all_goals decide

end TextSync.Session
