import TextSync.Proofs.Session.Essence
import TextSync.Proofs.Session.Lifecycle
import TextSync.Proofs.Session.NothingLost

/-!
# Sessions at rest

A session is at rest (`Rested`) if nothing waits for it and it knows the user's text. Then a run
only passes the time. If there is one thing to do, an event to receive or a change by the user to
take over, the next run does it, and the session is at rest again (`Rested.run_receive`,
`Rested.run_act`). What it comes to is what the handler makes of the session, but for what is not
in its essence. Once no more events come in, the next run ends the session (`Rested.run_closed`).
-/

namespace TextSync.Session

variable {peer : Peer} {s t : Session} {time : Nat}

/-- A session with nothing to do, at a time at which no one has given it up. -/
structure Rested (s : Session) : Prop where
  unasked : s.teardownRequested = false
  quiet : s.editor.signals.queued = 0
  tells : s.editor.signals.sending = true
  empty : s.inbox.queued = []
  sends : s.inbox.sending = true
  room : 0 < s.inbox.capacity
  receives : s.inbox.receiving = true ↔ s.phase ≠ .disconnected
  listens : s.phase ≠ .disconnected → s.editor.signals.listener = .taken
  guarded : Guarded s
  known : s.phase = .live → s.InStep

theorem rested_start {settings : Settings} {capacity : Nat} {now : Nat} (room : 0 < capacity)
    (started : start settings (.ofCapacity capacity) .fresh now = .ok s) : Rested s := by
  obtain ⟨-, _, rfl⟩ := start_eq_ok started
  constructor <;> simp_all [Inbox.ofCapacity, Editor.fresh, Signals.fresh, Guarded]

theorem Rested.isOpen (rested : Rested s) (on : s.phase ≠ .disconnected) : s.Open :=
  ⟨on, rested.unasked⟩

theorem Rested.holding_eq (rested : Rested s) : s.holding 0 [] = s :=
  holding_eq_self rested.quiet rested.empty

/-- With the same surroundings a session is at rest as well, if it has ended just when the other has
and knows the text in which it lets the user type. -/
theorem Rested.of_surroundings (rested : Rested s)
    (asked : t.teardownRequested = s.teardownRequested)
    (signals : t.editor.signals = s.editor.signals) (inbox : t.inbox = s.inbox)
    (ends : t.phase = .disconnected ↔ s.phase = .disconnected) (guarded : Guarded t)
    (known : t.phase = .live → t.InStep) : Rested t := by
  constructor
  · exact asked.trans rested.unasked
  · rw [signals]
    exact rested.quiet
  · rw [signals]
    exact rested.tells
  · rw [inbox]
    exact rested.empty
  · rw [inbox]
    exact rested.sends
  · rw [inbox]
    exact rested.room
  · rw [inbox]
    exact rested.receives.trans (not_congr ends.symm)
  · intro on
    rw [signals]
    exact rested.listens fun ended => on (ends.2 ended)
  · exact guarded
  · exact known

/-- The time has nothing to do with it. -/
theorem Rested.of_untimed (rested : Rested s) (same : t.untimed = s.untimed) : Rested t := by
  have alike := sameButTime_of_eq same
  have asked : t.teardownRequested = s.teardownRequested := congrArg (·.teardownRequested) same
  apply rested.of_surroundings asked (congrArg (·.signals) alike.editor) alike.inbox
  · rw [alike.phase]
  · rw [Guarded, alike.phase, alike.editor]
    exact rested.guarded
  · rw [InStep, alike.phase, alike.content, alike.editor]
    exact rested.known

/-- The session may move its selection and stays at rest. -/
theorem Rested.withSelection (rested : Rested s) (selection : Selection) :
    Rested { s with editor := { s.editor with selection } } :=
  rested.of_surroundings rfl rfl rfl Iff.rfl rested.guarded rested.known

theorem rested_shutDown (rested : Rested s) (ending : Ending) : Rested (s.shutDown ending) := by
  constructor
  · exact rested.unasked
  · rfl
  · exact rested.tells
  · rfl
  · exact rested.sends
  · exact rested.room
  · simp [shutDown, Inbox.closeReceiver]
  · intro on
    exact absurd rfl on
  · intro editable
    cases editable
  · intro live
    cases live

/-- An event that is received at rest leaves nothing to do. -/
theorem Rested.receive (rested : Rested s) (on : s.phase ≠ .disconnected) (peer : Peer)
    (event : Incoming) : Rested (s.receive peer event) := by
  by_cases disconnects : s.phase = .live ∧ event = .disconnect
  · obtain ⟨live, rfl⟩ := disconnects
    rw [receive_disconnect live]
    exact rested_shutDown rested .remoteDisconnect
  · obtain ⟨still, signals, inbox⟩ := (rested.isOpen on).receive peer disconnects
    have deeds := deeds_receive peer event s
    apply rested.of_surroundings (still.unasked.trans rested.unasked.symm) signals inbox
    · exact iff_of_false still.on on
    · exact deeds.keep Deed.guarded rested.guarded
    · exact deeds.keep Deed.knows rested.known

/-! ## The straight line of a step -/

/-- What is left to do where no one has asked for the end and the editor still tells. -/
theorem catchUp_of_open (isOpen : s.Open) (tells : s.editor.signals.sending = true) :
    s.catchUp peer =
      if (s.received peer).phase ≠ .disconnected ∧ !s.inbox.sending then
        (s.received peer).shutDown .inboxClosed
      else s.received peer := by
  unfold catchUp
  rw [if_neg isOpen.on]
  simp [isOpen.unasked, tells]

theorem catchUp_of_sending (isOpen : s.Open) (tells : s.editor.signals.sending = true)
    (sends : s.inbox.sending = true) : s.catchUp peer = s.received peer := by
  rw [catchUp_of_open isOpen tells]
  simp [sends]

/-- Without a signal the editor is not looked at. -/
theorem received_of_quiet (quiet : s.editor.signals.queued = 0) :
    s.received peer = receiveAll peer s.inbox.queued (s.holding 0 []) := by
  unfold Session.received heard
  rw [quiet]
  rfl

/-- Without an event only the editor is looked at. -/
theorem received_of_empty (empty : s.inbox.queued = []) : s.received peer = s.heard peer := by
  unfold Session.received
  rw [empty]
  rfl

/-- At rest there is nothing to catch up with. -/
theorem Rested.catchUp_eq (rested : Rested s) : s.catchUp peer = s := by
  by_cases ended : s.phase = .disconnected
  · exact if_pos ended
  · rw [catchUp_of_sending (rested.isOpen ended) rested.tells rested.sends,
      received_of_quiet rested.quiet, rested.empty]
    exact rested.holding_eq

/-! ## Runs -/

/-- At rest a run only passes the time. -/
theorem Rested.run_self (rested : Rested s) (timeless : peer.Timeless) (time : Nat) :
    (s.run peer time).2.essence = s.essence ∧ Rested (s.run peer time).2 := by
  constructor
  · rw [essence_run timeless, rested.catchUp_eq]
  · apply rested.of_untimed
    rw [run_untimed_eq_catchUp timeless, rested.catchUp_eq]

/-- There is room for an event, and the next run receives it. -/
theorem Rested.run_receive (rested : Rested s) (on : s.phase ≠ .disconnected)
    (timeless : peer.Timeless) (time : Nat) (event : Incoming) :
    let offered := { s with inbox := s.inbox.offer event }
    (offered.run peer time).2.essence = (s.receive peer event).essence ∧
      Rested (offered.run peer time).2 := by
  intro offered
  have accepted : s.inbox.reply = .accepted := by
    simp [Inbox.reply, rested.sends, rested.receives.2 on, rested.empty, rested.room]
  have queued : offered.inbox = { s.inbox with queued := [event] } := by
    simp [offered, Inbox.offer, accepted, rested.empty]
  have isOpen : offered.Open := ⟨on, rested.unasked⟩
  have sends : offered.inbox.sending = true := by
    rw [queued]
    exact rested.sends
  have aside : offered.holding 0 [] = s := by
    rw [holding, queued]
    exact rested.holding_eq
  have line : offered.catchUp peer = s.receive peer event := by
    rw [catchUp_of_sending isOpen rested.tells sends, received_of_quiet (s := offered) rested.quiet,
      aside, queued]
    simp [receiveAll, on]
  constructor
  · rw [essence_run timeless, line]
  · apply (rested.receive on peer event).of_untimed
    rw [run_untimed_eq_catchUp timeless, line]

/-- What the user does: changes the text or moves the selection. -/
inductive OfUser : Editor.Action → Prop
  | edit {a : Editor.Action} (user : a.isUserEdit = true) : OfUser a
  | select (selection : Selection) : OfUser (.select selection)

/-- A change by the user is told by one signal, and the next run takes it over. -/
theorem Rested.run_edit (rested : Rested s) (timeless : peer.Timeless) (time : Nat)
    (editable : s.editor.editable = true) (first last : Nat) (text : Text) :
    let edited := { s with editor := s.editor.edit first last text }
    (edited.run peer time).2.essence = (edited.localChange peer).2.essence ∧
      Rested (edited.run peer time).2 := by
  intro edited
  have live : s.phase = .live := rested.guarded editable
  have on : s.phase ≠ .disconnected := by simp [live]
  have listens : s.editor.signals.listener = .taken := rested.listens on
  have one : edited.editor.signals.queued = 1 := by
    show s.editor.signals.emit.queued = 1
    rw [Signals.emit_queued rested.tells (by simp [listens]), rested.quiet]
  have tells : edited.editor.signals.sending = true :=
    s.editor.signals.emit_sending.trans rested.tells
  have line : edited.catchUp peer = (edited.localChange peer).2.holding 0 [] := by
    have isOpen : edited.Open := ⟨on, rested.unasked⟩
    rw [catchUp_of_sending isOpen tells rested.sends, received_of_empty (s := edited) rested.empty,
      heard, one]
    exact localChange_holding peer 0 [] edited
  have same := localChange_sameCourse peer edited
  have editor := localChange_editor peer edited
  have heardAll : { s.editor.signals.emit with queued := 0 } = s.editor.signals := by
    rw [Signals.emit_eq, ← rested.quiet]
  have after : Rested ((edited.localChange peer).2.holding 0 []) := by
    have asked : ((edited.localChange peer).2.holding 0 []).teardownRequested
        = s.teardownRequested := same.teardownRequested
    apply rested.of_surroundings asked
    · rw [holding, editor]
      exact heardAll
    · rw [holding, same.inbox, ← rested.empty]
    · show (edited.localChange peer).2.phase = _ ↔ _
      rw [same.phase]
    · intro _
      exact same.phase.trans live
    · intro _
      exact localChange_inStep (s := edited) live
  constructor
  · rw [essence_run timeless, line]
    rfl
  · apply after.of_untimed
    rw [run_untimed_eq_catchUp timeless, line]

/-- Whatever the user does at rest, the next run comes to a look at the editor. -/
theorem Rested.run_act (rested : Rested s) (timeless : peer.Timeless) (time : Nat)
    {a : Editor.Action} (user : OfUser a) :
    ((s.act a).run peer time).2.essence = ((s.act a).localChange peer).2.essence ∧
      Rested ((s.act a).run peer time).2 := by
  have calm (still : Rested (s.act a)) :
      ((s.act a).run peer time).2.essence = ((s.act a).localChange peer).2.essence ∧
        Rested ((s.act a).run peer time).2 := by
    rw [localChange_essence still.known]
    exact still.run_self timeless time
  cases user with
  | edit user =>
    rcases Editor.perform_user user s.editor with same | ⟨editable, first, last, text, -, same⟩
    · apply calm
      rw [act, same]
      exact rested
    · rw [act, same]
      exact rested.run_edit timeless time editable first last text
  | select selection => exact calm (rested.withSelection _)

/-- Once no more events come in, the next run ends the session, unless it has ended. -/
theorem Rested.run_closed (rested : Rested s) (timeless : peer.Timeless) (time : Nat) :
    let closed := { s with inbox := s.inbox.closeSender }
    (closed.run peer time).2.essence = (s.leave .inboxClosed).essence := by
  intro closed
  rw [essence_run timeless]
  by_cases ended : s.phase = .disconnected
  · have line : closed.catchUp peer = closed := if_pos ended
    have stays : s.leave .inboxClosed = s := if_pos ended
    rw [line, stays]
    rfl
  · have isOpen : closed.Open := ⟨ended, rested.unasked⟩
    have received : closed.received peer = closed := by
      have empty : closed.inbox.queued = [] := rested.empty
      rw [received_of_quiet (s := closed) rested.quiet, empty]
      exact holding_eq_self rested.quiet empty
    have line : closed.catchUp peer = closed.shutDown .inboxClosed := by
      rw [catchUp_of_open isOpen rested.tells, received]
      exact if_pos ⟨ended, rfl⟩
    have leaves : s.leave .inboxClosed = s.shutDown .inboxClosed := if_neg ended
    rw [line, leaves]
    rfl

end TextSync.Session
