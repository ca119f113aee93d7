import TextSync.Proofs.Session.Moves

/-!
# Runs taken apart

A run among other moves stands for the passes that it makes (`after_passMoves`), each of which begins
where the run looks at the session (`visits_iff`). `unrolled` puts the passes in the run's place, so
that every move that is left does one thing only, and what the whole list comes to is the same
(`after_unrolled`). What one such move can do is said once, by `Effect`. In particular a move hands
at most one event to the session, from outside or out of its inbox (`given?`), and there are six
reasons for which it may end the session (`Ends`).
-/

namespace TextSync.Session

variable {peer : Peer} {s t : Session} {moves : List (Peer × Move)}

/-! ## Passes of a run -/

/-- How long each pass of a run waits; one that takes something does not wait. -/
def passes (peer : Peer) (time : Nat) (s : Session) : List Nat :=
  if _ended : s.phase = .disconnected then []
  else
    match _isReady : s.ready with
    | some turn => 0 :: passes peer time (s.take peer turn)
    | none =>
      if _next : s.ticker.running = true ∧ s.ticker.dueAt s.now ≤ s.now + time then
        (s.ticker.dueAt s.now - s.now) ::
          passes peer (s.now + time - s.ticker.dueAt s.now) (s.waitUntil (s.ticker.dueAt s.now))
      else [time]
termination_by s.patience (s.now + time)
decreasing_by
  · rw [take_now]
    exact patience_take_lt peer _ended (Nat.le_add_right _ _) _isReady
  · have total : s.ticker.dueAt s.now + (s.now + time - s.ticker.dueAt s.now) = s.now + time := by
      omega
    show (s.waitUntil (s.ticker.dueAt s.now)).patience
      (s.ticker.dueAt s.now + (s.now + time - s.ticker.dueAt s.now)) < _
    rw [total]
    exact patience_waitUntil_lt _ended _isReady _next.1 _next.2

/-- The passes of a run as moves. -/
def passMoves (peer : Peer) (time : Nat) (s : Session) : List (Peer × Move) :=
  (s.passes peer time).map fun wait => (peer, .pass wait)

theorem after_append (s : Session) (first rest : List (Peer × Move)) :
    s.after (first ++ rest) = (s.after first).after rest := List.foldl_append

/-- A run is its passes, one after the other. -/
theorem after_passMoves (peer : Peer) (time : Nat) (s : Session) :
    s.after (s.passMoves peer time) = (s.run peer time).2 := by
  unfold passMoves
  fun_induction passes peer time s with
  | case1 time s ended =>
    rw [run_of_disconnected ended]
    rfl
  | case2 time s on turn isReady ih =>
    have first : s.move peer (.pass 0) = s.take peer turn := pass_of_ready on isReady
    rw [List.map_cons, after_cons, first, ih, run_of_ready on isReady]
  | case3 time s on idle next ih =>
    have first : s.move peer (.pass (s.ticker.dueAt s.now - s.now))
        = s.waitUntil (s.ticker.dueAt s.now) := pass_to_due on idle next.1
    rw [List.map_cons, after_cons, first, ih, run_of_idle on idle, if_pos next]
  | case4 time s on idle late =>
    rw [run_of_idle on idle, if_neg late]
    exact pass_of_idle on idle

/-- The moments at which a list of moves stands before one of them: at its beginning, and those of
what comes after the first. -/
theorem before_cons {first : Peer × Move} {rest : List (Peer × Move)} :
    (∃ before m after, first :: rest = before ++ m :: after ∧ s.after before = t) ↔
      t = s ∨ ∃ before m after, rest = before ++ m :: after ∧
        (s.move first.1 first.2).after before = t := by
  constructor
  · rintro ⟨before, m, after, split, reached⟩
    obtain ⟨rfl, -⟩ | ⟨more, rfl, same⟩ := List.cons_eq_append_iff.1 split
    · exact .inl reached.symm
    · exact .inr ⟨more, m, after, same, reached⟩
  · rintro (rfl | ⟨before, m, after, rfl, reached⟩)
    · exact ⟨[], first, rest, rfl, rfl⟩
    · exact ⟨first :: before, m, after, rfl, reached⟩

/-- **A run looks at a state just before each of its passes**, and at no other. -/
theorem visits_iff (peer : Peer) (time : Nat) (s : Session) : Visits peer time s t ↔
    ∃ first m rest, s.passMoves peer time = first ++ m :: rest ∧ s.after first = t := by
  unfold passMoves
  fun_induction passes peer time s with
  | case1 time s ended =>
    constructor
    · intro visits
      cases visits with
      | here on | turn on | wait on => exact absurd ended on
    · rintro ⟨first, m, rest, split, -⟩
      simp at split
  | case2 time s on turn isReady ih =>
    have taken : s.move peer (.pass 0) = s.take peer turn := pass_of_ready on isReady
    rw [List.map_cons, before_cons, taken, ← ih]
    constructor
    · intro visits
      cases visits with
      | here => exact .inl rfl
      | turn _ other later =>
        cases isReady.symm.trans other
        exact .inr later
      | wait _ idle => cases isReady.symm.trans idle
    · rintro (rfl | later)
      · exact .here on
      · exact .turn on isReady later
  | case3 time s on idle next ih =>
    have waited : s.move peer (.pass (s.ticker.dueAt s.now - s.now))
        = s.waitUntil (s.ticker.dueAt s.now) := pass_to_due on idle next.1
    rw [List.map_cons, before_cons, waited, ← ih]
    constructor
    · intro visits
      cases visits with
      | here => exact .inl rfl
      | turn _ isReady => cases idle.symm.trans isReady
      | wait _ _ _ later => exact .inr later
    · rintro (rfl | later)
      · exact .here on
      · exact .wait on idle next later
  | case4 time s on idle late =>
    rw [List.map_singleton, before_cons]
    constructor
    · intro visits
      cases visits with
      | here => exact .inl rfl
      | turn _ isReady => cases idle.symm.trans isReady
      | wait _ _ next => exact absurd next late
    · rintro (rfl | ⟨first, m, rest, split, -⟩)
      · exact .here on
      · simp at split

/-! ## Moves without runs -/

def Move.isRun : Move → Bool
  | .step (.run _) => true
  | _ => false

theorem Move.eq_run {m : Move} (isRun : m.isRun = true) : ∃ time, m = .step (.run time) := by
  unfold Move.isRun at isRun
  split at isRun
  · exact ⟨_, rfl⟩
  · cases isRun

/-- A move with its run taken apart. -/
def unroll (s : Session) (m : Peer × Move) : List (Peer × Move) :=
  match m.2 with
  | .step (.run time) => if s.dropped then [] else s.passMoves m.1 time
  | _ => [m]

theorem after_unroll (s : Session) (m : Peer × Move) : s.after (s.unroll m) = s.move m.1 m.2 := by
  unfold unroll
  split
  · rename_i time isRun
    rw [isRun]
    show s.after _ = (s.whileHeld _ (s.run m.1 time).2).2
    unfold whileHeld
    split
    · rfl
    · exact after_passMoves m.1 time s
  · rfl

/-- Moves with their runs taken apart. -/
def unrolled (s : Session) : List (Peer × Move) → List (Peer × Move)
  | [] => []
  | m :: rest => s.unroll m ++ (s.move m.1 m.2).unrolled rest

/-- **Moves come to the same with their runs taken apart.** -/
theorem after_unrolled (s : Session) (moves : List (Peer × Move)) :
    s.after (s.unrolled moves) = s.after moves := by
  induction moves generalizing s with
  | nil => rfl
  | cons m rest ih => rw [unrolled, after_append, after_unroll, ih, after_cons]

/-- What is left is a move of the list that is no run, or a pass with the peer of a run. -/
theorem mem_unrolled {m : Peer × Move} (member : m ∈ s.unrolled moves) :
    m ∈ moves ∧ m.2.isRun = false ∨
      ∃ time wait, (m.1, .step (.run time)) ∈ moves ∧ m.2 = .pass wait := by
  induction moves generalizing s with
  | nil => cases member
  | cons first rest ih =>
    rw [unrolled, List.mem_append] at member
    obtain here | later := member
    · unfold unroll at here
      split at here
      · rename_i time isRun
        split at here
        · cases here
        · obtain ⟨wait, -, rfl⟩ := List.mem_map.1 here
          exact .inr ⟨time, wait, by rw [← isRun]; exact List.mem_cons_self, rfl⟩
      · rename_i single
        obtain rfl := List.mem_singleton.1 here
        refine .inl ⟨List.mem_cons_self, ?_⟩
        unfold Move.isRun
        split
        · rename_i time isRun
          exact absurd isRun (single time)
        · rfl
    · obtain ⟨listed, single⟩ | ⟨time, wait, listed, same⟩ := ih later
      · exact .inl ⟨List.mem_cons_of_mem _ listed, single⟩
      · exact .inr ⟨time, wait, List.mem_cons_of_mem _ listed, same⟩

/-- What holds of the moves of a list and of all passes holds of what is left. -/
theorem unrolled_all {P : Move → Prop} (pass : ∀ wait, P (.pass wait))
    (all : ∀ m ∈ moves, P m.2) {m : Peer × Move} (member : m ∈ s.unrolled moves) : P m.2 := by
  obtain ⟨listed, -⟩ | ⟨_, wait, -, same⟩ := mem_unrolled member
  · exact all m listed
  · rw [same]
    exact pass wait

theorem isRun_of_mem_unrolled {m : Peer × Move} (member : m ∈ s.unrolled moves) :
    m.2.isRun = false := by
  obtain ⟨-, single⟩ | ⟨_, _, -, same⟩ := mem_unrolled member
  · exact single
  · rw [same]
    rfl

/-! ## Events handed to a session -/

/-- The event that a move hands to the session, from outside or out of its inbox. -/
def given? (s : Session) : Move → Option Incoming
  | .step (.receive event) => if s.dropped then none else some event
  | .pass _ =>
    if s.phase = .disconnected then none
    else
      match s.ready with
      | some (.event event _) => some event
      | _ => none
  | _ => none

/-- The events that moves hand to the session, in order, if none of the moves is a run. -/
def givenBy (s : Session) : List (Peer × Move) → List Incoming
  | [] => []
  | m :: rest => (s.given? m.2).toList ++ (s.move m.1 m.2).givenBy rest

/-- The events that a session is given in the course of some moves, in order. -/
def given (s : Session) (moves : List (Peer × Move)) : List Incoming := s.givenBy (s.unrolled moves)

/-! ## What one move does -/

/-- The ways to end a session that has not ended yet: the moves that do it, and why. -/
inductive Ends (s : Session) : Move → Ending → Prop
  | disconnect {m : Move} (live : s.phase = .live) (handed : s.given? m = some .disconnect) :
      Ends s m .remoteDisconnect
  | teardown (held : s.dropped = false) : Ends s (.step .teardown) .teardown
  | request (time : Nat) (asked : s.teardownRequested = true) : Ends s (.pass time) .teardown
  | editorClosed (time : Nat) (unasked : s.teardownRequested = false)
      (quiet : s.editor.signals.queued = 0) (silent : s.editor.signals.sending = false) :
      Ends s (.pass time) .editorClosed
  | inboxClosed (time : Nat) (unasked : s.teardownRequested = false)
      (quiet : s.editor.signals.queued = 0) (tells : s.editor.signals.sending = true)
      (empty : s.inbox.queued = []) (closed : s.inbox.sending = false) :
      Ends s (.pass time) .inboxClosed
  | drop : Ends s (.step .drop) .dropped

/-- What a move that is no run makes of a session, with the event that it hands over, if any. -/
inductive Effect (peer : Peer) (s : Session) (m : Move) : Option Incoming → Session → Prop
  | act (action : Editor.Action) (same : m.action? = some action) :
      Effect peer s m none { s with editor := s.editor.perform action }
  | around (queued : Nat) (inbox : Inbox) (ticker : Ticker) (teardownRequested dropped : Bool)
      (now : Nat) : Effect peer s m none { s with
        editor := { s.editor with signals := { s.editor.signals with queued } }
        inbox, ticker, teardownRequested, dropped, now }
  | given (event : Incoming) (inbox : Inbox)
      (taken : inbox = s.inbox ∨ s.inbox.queued = event :: inbox.queued) :
      Effect peer s m (some event) ({ s with inbox }.receive peer event)
  | look (queued : Nat) : Effect peer s m none ({ s with
      editor := { s.editor with signals := { s.editor.signals with queued } } }.localChange peer).2
  | report (ticker : Ticker) : Effect peer s m none { s with ticker }.reportCursor.2
  | shut (ending : Ending) (dropped : Bool) (on : s.phase ≠ .disconnected) (ends : Ends s m ending) :
      Effect peer s m none { s.shutDown ending with dropped }

theorem effect_self (peer : Peer) (s : Session) (m : Move) : Effect peer s m none s :=
  .around s.editor.signals.queued s.inbox s.ticker s.teardownRequested s.dropped s.now

theorem effect_whileHeld {m : Move} {after : Session} (answer : Answer)
    (effect : Effect peer s m none after) : Effect peer s m none (s.whileHeld answer after).2 :=
  whileHeld_keeps answer (effect_self peer s m) effect

theorem effect_pass (peer : Peer) (time : Nat) (s : Session) :
    Effect peer s (.pass time) (s.given? (.pass time)) (s.pass peer time) := by
  by_cases ended : s.phase = .disconnected
  · have nothing : s.given? (.pass time) = none := if_pos ended
    rw [pass_of_disconnected ended, nothing]
    exact effect_self peer s (.pass time)
  · cases isReady : s.ready with
    | none =>
      have nothing : s.given? (.pass time) = none := by simp [given?, ended, isReady]
      rw [pass_of_idle ended isReady, nothing]
      exact .around s.editor.signals.queued s.inbox (s.ticker.arm s.now) s.teardownRequested
        s.dropped (s.now + time)
    | some turn =>
      rw [pass_of_ready ended isReady]
      simp only [given?, ended, isReady, if_false]
      cases turn with
      | teardown =>
        exact .shut .teardown s.dropped ended (.request time (ready_eq_teardown isReady))
      | signal => exact .look (s.editor.signals.queued - 1)
      | editorClosed =>
        obtain ⟨unasked, quiet, silent⟩ := ready_eq_editorClosed isReady
        exact .shut .editorClosed s.dropped ended (.editorClosed time unasked quiet silent)
      | event event rest =>
        exact .given event { s.inbox with queued := rest } (.inr (ready_eq_event isReady))
      | inboxClosed =>
        obtain ⟨unasked, quiet, tells, empty, closed⟩ := ready_eq_inboxClosed isReady
        exact .shut .inboxClosed s.dropped ended
          (.inboxClosed time unasked quiet tells empty closed)
      | tick => exact .report (s.ticker.fire s.now)

/-- **One move does one thing.** -/
theorem effect_move (peer : Peer) (s : Session) {m : Move} (single : m.isRun = false) :
    Effect peer s m (s.given? m) (s.move peer m) := by
  cases m with
  | pass time => exact effect_pass peer time s
  | stray =>
    show Effect peer s .stray none
      { s with editor := { s.editor with signals := s.editor.signals.emit } }
    rw [Signals.emit_eq]
    exact .around _ s.inbox s.ticker s.teardownRequested s.dropped s.now
  | step step =>
    cases step with
    | act action => exact .act action rfl
    | offer | closeSender => exact .around s.editor.signals.queued _ s.ticker _ _ s.now
    | receive event =>
      show Effect peer s _ (if s.dropped then none else some event)
        (s.whileHeld .done (s.receive peer event)).2
      unfold whileHeld
      split
      · exact effect_self peer s _
      · exact .given event s.inbox (.inl rfl)
    | localChange => exact effect_whileHeld _ (.look s.editor.signals.queued)
    | reportCursor => exact effect_whileHeld _ (.report s.ticker)
    | teardown =>
      show Effect peer s _ none (s.whileHeld .done (s.leave .teardown)).2
      unfold whileHeld
      split
      · exact effect_self peer s _
      · rename_i held
        have own : Ends s (.step .teardown) .teardown := .teardown (Bool.eq_false_iff.2 held)
        exact leave_keeps .teardown (effect_self peer s _) fun on =>
          .shut .teardown s.dropped on own
    | requestTeardown => exact .around s.editor.signals.queued s.inbox s.ticker true _ s.now
    | run time => cases single
    | sleep time => exact .around s.editor.signals.queued s.inbox s.ticker _ _ _
    | drop =>
      show Effect peer s _ none { s.leave .dropped with dropped := true }
      refine leave_keeps (P := fun u => Effect peer s _ none { u with dropped := true }) .dropped ?_
        fun on => .shut .dropped true on .drop
      exact .around s.editor.signals.queued s.inbox s.ticker s.teardownRequested true s.now

end TextSync.Session
