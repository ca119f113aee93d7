import TextSync.Proofs.Session.Lifecycle

/-!
# The end of a session

There are six ways to end a session (`Ends`, `ends_of_move`). By each of them the text and the
selection stay in the editor, which is read-only from then on, and no call is made (`Ends.closes`).
After that little can change about the session (`Ended.rests`): it makes no call, counts nothing and
leaves the editor to others, and no event gets into its inbox.

For a session that only the loop drives, a request to tear it down is as good as its end. It comes
before all that waits in the queues and all ticks, so the next pass of a run shuts the session down.
-/

namespace TextSync

theorem Inbox.reply_of_closed {inbox : Inbox} (closed : inbox.receiving = false) :
    inbox.reply ≠ .accepted := by
  unfold Inbox.reply
  rw [closed]
  split <;> simp

theorem Inbox.offer_of_closed {inbox : Inbox} (closed : inbox.receiving = false)
    (event : Incoming) : inbox.offer event = inbox := if_neg (Inbox.reply_of_closed closed)

namespace Session

variable {peer : Peer} {s t : Session} {m : Move} {moves : List (Peer × Move)}

/-! ## How it ends -/

/-- The session is over, and no one listens at its end of the queues. -/
structure Ended (s : Session) : Prop where
  phase : s.phase = .disconnected
  deaf : s.editor.signals.listener = .gone
  closed : s.inbox.receiving = false

/-- What becomes of a session as it ends for the given reason. -/
structure Closes (ending : Ending) (s t : Session) : Prop where
  ended : Ended t
  content : t.editor.content = s.editor.content
  selection : t.editor.selection = s.editor.selection
  readOnly : t.editor.editable = false
  emptied : t.content = []
  calls : t.calls = s.calls
  tally : t.tally = s.tally
  log : t.log = .disconnected ending :: s.log

/-- What a shutdown leaves behind, whatever queue and owner the session had. -/
theorem closes_shutDown (ending : Ending) (inbox : Inbox) (dropped : Bool) (s : Session) :
    Closes ending s { { s with inbox }.shutDown ending with dropped } :=
  ⟨⟨rfl, rfl, rfl⟩, rfl, rfl, rfl, rfl, rfl, rfl, rfl⟩

/-- There is one way to shut down, whatever the reason. -/
theorem Ends.closes {ending : Ending} (ends : Ends s m ending) (on : s.phase ≠ .disconnected)
    (peer : Peer) : Closes ending s (s.move peer m) := by
  have pass {time : Nat} {turn : Turn} (isReady : s.ready = some turn)
      (shuts : s.take peer turn = s.shutDown ending) : Closes ending s (s.pass peer time) := by
    rw [pass_of_ready on isReady, shuts]
    exact closes_shutDown ending s.inbox s.dropped s
  have leave : s.leave ending = s.shutDown ending := if_neg on
  cases ends with
  | disconnect live handed =>
    have single : m.isRun = false := by
      unfold Move.isRun
      split
      · cases handed
      · rfl
    have effect := effect_move peer s single
    rw [handed] at effect
    obtain ⟨inbox, -, same⟩ := effect.eq_receive
    have shuts : { s with inbox }.receive peer .disconnect
        = { s with inbox }.shutDown .remoteDisconnect := by
      have still : { s with inbox }.phase = .live := live
      unfold Session.receive
      rw [still]
    rw [same, shuts]
    exact closes_shutDown .remoteDisconnect inbox s.dropped s
  | teardown held =>
    show Closes .teardown s (s.whileHeld .done (s.leave .teardown)).2
    rw [leave, whileHeld, held]
    exact closes_shutDown .teardown s.inbox s.dropped s
  | request time asked => exact pass (ready_of_request asked) rfl
  | editorClosed time unasked quiet silent =>
    exact pass (ready_of_editorClosed unasked quiet silent) rfl
  | inboxClosed time unasked quiet tells empty closed =>
    exact pass (ready_of_inboxClosed unasked quiet tells empty closed) rfl
  | drop =>
    show Closes .dropped s { s.leave .dropped with dropped := true }
    rw [leave]
    exact closes_shutDown .dropped s.inbox true s

/-- There is no other way to end. -/
theorem ends_of_move (single : m.isRun = false) (on : s.phase ≠ .disconnected)
    (gone : (s.move peer m).phase = .disconnected) : ∃ ending, Ends s m ending := by
  have effect := effect_move peer s single
  generalize s.move peer m = t at effect gone
  cases handed : s.given? m with
  | some event =>
    rw [handed] at effect
    obtain ⟨inbox, -, rfl⟩ := effect.eq_receive
    obtain ⟨document, same⟩ | ⟨live, rfl, -⟩ | stays := receive_cases peer event { s with inbox }
    · rw [same] at gone
      cases gone
    · exact ⟨_, .disconnect live handed⟩
    · exact absurd (stays.symm.trans gone) on
  | none =>
    rw [handed] at effect
    cases effect with
    | act | around => exact absurd gone on
    | look queued => exact absurd ((localChange_sameCourse peer _).phase.symm.trans gone) on
    | report ticker => exact absurd ((reportCursor_sameCourse _).phase.symm.trans gone) on
    | shut ending dropped _ ends => exact ⟨ending, ends⟩

/-! ## After the end -/

/-- All that can still change about a session that has ended, but for what others do to the
editor. -/
def Rests (s t : Session) : Prop :=
  ∃ inbox teardownRequested dropped now log, inbox.receiving = false ∧
    t = { s with inbox, teardownRequested, dropped, now, log }

theorem Ended.rests_self (ended : Ended s) : Rests s s :=
  ⟨s.inbox, s.teardownRequested, s.dropped, s.now, s.log, ended.closed, rfl⟩

theorem Ended.rests_note (ended : Ended s) (notice : Notice) : Rests s (s.note notice) :=
  ⟨s.inbox, s.teardownRequested, s.dropped, s.now, _, ended.closed, rfl⟩

theorem Ended.rests_whileHeld {after : Session} (ended : Ended s) (answer : Answer)
    (rests : Rests s after) : Rests s (s.whileHeld answer after).2 :=
  whileHeld_keeps answer ended.rests_self rests

theorem Ended.receive (ended : Ended s) (peer : Peer) (event : Incoming) :
    s.receive peer event = s.note (.droppingEvent event.kind) := by
  unfold Session.receive
  rw [ended.phase]

theorem Ended.localChange (ended : Ended s) (peer : Peer) :
    s.localChange peer = (none, s.note (.ignoringChange s.phase)) := by
  simp [Session.localChange, ended.phase]

theorem Ended.leave (ended : Ended s) (ending : Ending) : s.leave ending = s := if_pos ended.phase

/-- Whatever comes but an action on the editor, a session that has ended rests. -/
theorem Ended.rests (ended : Ended s) (peer : Peer) (other : m.action? = none) :
    Rests s (s.move peer m) := by
  cases m with
  | pass time =>
    have same : s.move peer (.pass time) = s := pass_of_disconnected ended.phase
    rw [same]
    exact ended.rests_self
  | stray =>
    have same : s.move peer .stray = s := by
      simp only [Session.move, Signals.emit_of_gone ended.deaf]
    rw [same]
    exact ended.rests_self
  | step step =>
    cases step with
    | act action => cases other
    | offer event =>
      exact ⟨_, s.teardownRequested, s.dropped, s.now, s.log,
        (congrArg Inbox.receiving (Inbox.offer_of_closed ended.closed event)).trans ended.closed,
        rfl⟩
    | closeSender =>
      exact ⟨s.inbox.closeSender, s.teardownRequested, s.dropped, s.now, s.log, ended.closed, rfl⟩
    | receive event =>
      refine ended.rests_whileHeld _ ?_
      rw [ended.receive]
      exact ended.rests_note _
    | localChange =>
      refine ended.rests_whileHeld _ ?_
      rw [ended.localChange]
      exact ended.rests_note _
    | reportCursor =>
      refine ended.rests_whileHeld _ ?_
      have same : s.reportCursor = (none, s) := by simp [Session.reportCursor, ended.phase]
      rw [same]
      exact ended.rests_self
    | teardown =>
      refine ended.rests_whileHeld _ ?_
      rw [Session.teardown, ended.leave]
      exact ended.rests_self
    | requestTeardown => exact ⟨s.inbox, true, s.dropped, s.now, s.log, ended.closed, rfl⟩
    | run time =>
      refine ended.rests_whileHeld _ ?_
      rw [run_of_disconnected ended.phase]
      exact ended.rests_self
    | sleep time => exact ⟨s.inbox, s.teardownRequested, s.dropped, _, s.log, ended.closed, rfl⟩
    | drop =>
      show Rests s { s.leave .dropped with dropped := true }
      rw [ended.leave]
      exact ⟨s.inbox, s.teardownRequested, true, s.now, s.log, ended.closed, rfl⟩

/-- After any move a session that has ended has still ended, and has done nothing. -/
theorem Ended.move (ended : Ended s) (peer : Peer) (m : Move) :
    Ended (s.move peer m) ∧ (s.move peer m).calls = s.calls ∧ (s.move peer m).tally = s.tally ∧
      (s.move peer m).content = s.content ∧
      (s.move peer m).editor = m.action?.elim s.editor fun action => s.editor.perform action := by
  cases isAction : m.action? with
  | none =>
    obtain ⟨inbox, requested, dropped, now, log, closed, same⟩ := ended.rests peer isAction
    rw [same]
    exact ⟨⟨ended.phase, ended.deaf, closed⟩, rfl, rfl, rfl, rfl⟩
  | some action =>
    rw [Move.eq_act isAction]
    have deaf : (s.editor.perform action).signals.listener = .gone :=
      (Editor.perform_listener action s.editor).trans ended.deaf
    exact ⟨⟨ended.phase, deaf, ended.closed⟩, rfl, rfl, rfl, rfl⟩

/-- What a session that has ended lets happen: it does nothing of its own, and its editor is what
the actions of others make of it. -/
structure Silent (s : Session) (later : List (Peer × Move)) : Prop where
  phase : (s.after later).phase = .disconnected
  calls : (s.after later).calls = s.calls
  tally : (s.after later).tally = s.tally
  content : (s.after later).content = s.content
  editor : (s.after later).editor =
    (later.filterMap (·.2.action?)).foldl (fun e action => e.perform action) s.editor
  closed : (s.after later).inbox.reply ≠ .accepted

/-- A session that has ended is silent, whatever comes. -/
theorem Ended.silent (ended : Ended s) (later : List (Peer × Move)) : Silent s later := by
  induction later generalizing s with
  | nil => exact ⟨ended.phase, rfl, rfl, rfl, rfl, Inbox.reply_of_closed ended.closed⟩
  | cons m rest ih =>
    obtain ⟨gone, calls, tally, content, editor⟩ := ended.move m.1 m.2
    have still := ih gone
    refine ⟨still.phase, still.calls.trans calls, still.tally.trans tally,
      still.content.trans content, ?_, still.closed⟩
    rw [after_cons, still.editor, editor, List.filterMap_cons]
    cases m.2.action? <;> rfl

/-! ## After a request -/

/-- Nothing is ready before a request. -/
theorem given?_of_request (asked : s.teardownRequested = true) (left : m.callsHandler = false) :
    s.given? m = none := by
  cases m with
  | pass time => simp [given?, ready_of_request asked]
  | stray => rfl
  | step step =>
    cases step with
    | receive => cases left
    | _ => rfl

/-- The session has been asked to end, and has not done anything since. -/
structure Asked (s t : Session) : Prop where
  asked : t.teardownRequested = true
  calls : t.calls = s.calls
  tally : t.tally = s.tally

theorem Asked.leave (asked : Asked s t) (ending : Ending) : Asked s (t.leave ending) :=
  leave_keeps ending asked fun _ => ⟨asked.asked, asked.calls, asked.tally⟩

theorem Asked.pass (asked : Asked s t) (peer : Peer) (time : Nat) : Asked s (t.pass peer time) := by
  by_cases gone : t.phase = .disconnected
  · rw [pass_of_disconnected gone]
    exact asked
  · rw [pass_of_ready gone (ready_of_request asked.asked)]
    exact ⟨asked.asked, asked.calls, asked.tally⟩

/-- No move makes a session that was asked to end do anything else, unless it calls a handler. -/
theorem Asked.move (asked : Asked s t) (peer : Peer) (left : m.callsHandler = false) :
    Asked s (t.move peer m) := by
  cases m with
  | pass time => exact asked.pass peer time
  | stray => exact ⟨asked.asked, asked.calls, asked.tally⟩
  | step step =>
    cases step with
    | receive | localChange | reportCursor => cases left
    | act | offer | closeSender | sleep => exact ⟨asked.asked, asked.calls, asked.tally⟩
    | requestTeardown => exact ⟨rfl, asked.calls, asked.tally⟩
    | teardown => exact whileHeld_keeps _ asked (asked.leave .teardown)
    | run time =>
      exact whileHeld_keeps _ asked (run_keeps (fun _ time before => before.pass peer time) asked)
    | drop =>
      have gone := asked.leave .dropped
      exact ⟨gone.asked, gone.calls, gone.tally⟩

theorem Asked.after (asked : Asked s t) (left : ∀ m ∈ moves, m.2.callsHandler = false) :
    Asked s (t.after moves) :=
  after_keeps (fun m member _ before => before.move m.1 (left m member)) asked

/-- No event is handled any more. -/
theorem Asked.givenBy (asked : Asked s t) (left : ∀ m ∈ moves, m.2.callsHandler = false) :
    t.givenBy moves = [] := by
  induction moves generalizing t with
  | nil => rfl
  | cons m rest ih =>
    have here := left m List.mem_cons_self
    rw [Session.givenBy, given?_of_request asked.asked here]
    exact ih (asked.move m.1 here) fun later member => left later (List.mem_cons_of_mem _ member)

/-- The next run shuts the session down, unless it has ended already. -/
theorem run_of_request (asked : s.teardownRequested = true) (peer : Peer) (time : Nat) :
    (s.run peer time).1 = .finished ∧
      (s.phase ≠ .disconnected → Closes .teardown s (s.run peer time).2) ∧
      (s.phase = .disconnected → (s.run peer time).2 = s) := by
  by_cases gone : s.phase = .disconnected
  · rw [run_of_disconnected gone]
    exact ⟨rfl, fun on => absurd gone on, fun _ => rfl⟩
  · have ends : (s.take peer .teardown).phase = .disconnected := rfl
    rw [run_of_ready gone (ready_of_request asked), run_of_disconnected ends]
    exact ⟨rfl, fun _ => closes_shutDown .teardown s.inbox s.dropped s, fun ended => absurd ended gone⟩

/-- **The end is the end.** Take any session and whatever happens to it. It ends by one of six kinds of
move and by no other; each leaves the text and the selection to the editor and makes no call, and
after it no call is made, nothing is counted or written, and no event gets in, whatever comes. Once a
session has been asked to end, and no one but the loop calls its handlers, it makes no call and
handles no event, whatever waits. The next run is its last: it finds the session ended and leaves it
alone, or shuts it down, so that nothing is known of the text and the user cannot type. -/
theorem silent_of_ended (s : Session) :
    (∀ moves, s.after (s.unrolled moves) = s.after moves ∧
      ∀ first m rest, s.unrolled moves = first ++ m :: rest →
        let before := s.after first
        let after := before.move m.1 m.2
        before.phase ≠ .disconnected →
          (after.phase = .disconnected ↔ ∃ ending, Ends before m.2 ending) ∧
          ∀ ending, Ends before m.2 ending →
            Closes ending before after ∧ ∀ later, Silent after later) ∧
    ∀ later, (∀ m ∈ later, m.2.callsHandler = false) →
      let asked := s.requestTeardown
      let t := asked.after later
      t.calls = s.calls ∧ t.tally = s.tally ∧ asked.given later = [] ∧
        ∀ peer time, (t.run peer time).1 = .finished ∧
          (t.phase ≠ .disconnected → Closes .teardown t (t.run peer time).2) ∧
          (t.phase = .disconnected → (t.run peer time).2 = t) := by
  constructor
  · intro moves
    refine ⟨after_unrolled s moves, ?_⟩
    intro first m rest split before after on
    have member : m ∈ s.unrolled moves := by
      rw [split]
      exact List.mem_append_right first List.mem_cons_self
    refine ⟨⟨ends_of_move (isRun_of_mem_unrolled member) on, ?_⟩, fun ending ends => ?_⟩
    · rintro ⟨ending, ends⟩
      exact (ends.closes on m.1).ended.phase
    · have closes : Closes ending before after := ends.closes on m.1
      exact ⟨closes, closes.ended.silent⟩
  · intro later left asked t
    have begun : Asked s asked := ⟨rfl, rfl, rfl⟩
    have still : Asked s t := begun.after left
    refine ⟨still.calls, still.tally, begun.givenBy fun m member => ?_, run_of_request still.asked⟩
    exact unrolled_all (P := fun m => m.callsHandler = false) (fun _ => rfl) left member

/-- A change and an event wait when the session is asked to end. Neither is handled, before or after
the end, and what is typed later is between the user and the editor. -/
theorem silent_of_ended_request :
    let moves : List (Peer × Move) := [(.agreeing, .step (.receive (.document ⟨['a']⟩))),
      (.agreeing, .step .reportCursor), (.agreeing, .step (.act (.typeText ['x']))),
      (.agreeing, .step (.offer (.edits [.insert 0 ['y']])))]
    let later : List (Peer × Move) := [(.agreeing, .step (.offer .disconnect)),
      (.agreeing, .step (.receive (.document ⟨['b']⟩))), (.agreeing, .step .localChange),
      (.agreeing, .step (.act (.setEditable true))), (.agreeing, .step (.act (.typeText ['z']))),
      (.agreeing, .step (.run 1000)), (.agreeing, .step .drop)]
    ∃ s₀, start {} (.ofCapacity 1) .fresh 0 = .ok s₀ ∧
      let asked := (s₀.after moves).requestTeardown
      let ended := asked.move .agreeing (.pass 0)
      asked.phase = .live ∧ ended.phase = .disconnected ∧ Closes .teardown asked ended ∧
      (ended.after later).calls = [⟨0, .cursor 0⟩] ∧
      (ended.after later).editor.content = ['x', 'z', 'a'] ∧
      asked.given [(.agreeing, .step (.run 1000)), (.agreeing, .step (.act .backspace))] = [] ∧
      let edited := asked.after [(.agreeing, .step (.act .backspace))]
      edited.phase = .live ∧ Closes .teardown edited (edited.run .agreeing 1000).2 ∧
      (edited.run .agreeing 1000).2.editor.content = ['a'] := by
  intro moves later
  have started : start {} (.ofCapacity 1) .fresh 0 = .ok _ := rfl
  refine ⟨_, started, ?_⟩
  intro asked ended
  have live : asked.phase ≠ .disconnected := fun gone => nomatch gone
  obtain ⟨-, shuts⟩ :=
    ((silent_of_ended asked).1 [(.agreeing, .pass 0)]).2 [] (.agreeing, .pass 0) [] rfl live
  obtain ⟨closes, silent⟩ := shuts .teardown (.request 0 rfl)
  obtain ⟨-, -, nothing, -⟩ := (silent_of_ended (after _ moves)).2 [(.agreeing, .step (.run 1000)),
    (.agreeing, .step (.act .backspace))] (by decide)
  obtain ⟨-, -, -, last⟩ :=
    (silent_of_ended (after _ moves)).2 [(.agreeing, .step (.act .backspace))] (by decide)
  obtain ⟨-, closed, -⟩ := last .agreeing 1000
  have edited : (asked.after [(.agreeing, .step (.act .backspace))]).phase = .live := rfl
  have shut := closed fun gone => nomatch edited.symm.trans gone
  exact ⟨rfl, rfl, closes, (silent later).calls, congrArg Editor.content (silent later).editor,
    nothing, edited, shut, shut.content⟩

end Session
end TextSync
