import TextSync.Proofs.Session.Lifecycle

/-!
# Closed editors

To close an editor takes the text out of its user's hands and ends the signals. The loop finds the
end of the signals before it looks at any event, so it ends the session and never opens the text
again. But a document that is handed to the session past the loop, while the session awaits it, is
written into the editor and lets the user type once more. Nothing else does: a closed editor refuses
every change if and only if it is not revived in this way (`refuses_iff_not_revived`).
-/

namespace TextSync

/-! ## The editor -/

/-- An editor that was closed, and that no one has opened to its user since. -/
structure Editor.Closed (e : Editor) : Prop where
  readOnly : e.editable = false
  silent : e.signals.sending = false

theorem Editor.closed_close (e : Editor) : e.close.Closed := ⟨rfl, rfl⟩

/-- Nothing that is done to a closed editor opens it, unless it does just that. -/
theorem Editor.Closed.perform {e : Editor} {a : Action} (closed : e.Closed)
    (own : ∀ editable, a ≠ .setEditable editable) : (e.perform a).Closed := by
  have readOnly : (e.perform a).editable = false :=
    Bool.eq_false_iff.2 fun editable =>
      Bool.false_ne_true (closed.readOnly.symm.trans (perform_editable own e editable))
  refine ⟨readOnly, ?_⟩
  cases user : a.isUserEdit with
  | true =>
    obtain same | ⟨-, _, _, _, -, same⟩ := perform_user user e
    · rw [same]
      exact closed.silent
    · rw [same]
      exact e.signals.emit_sending.trans closed.silent
  | false =>
    cases a with
    | typeText | backspace | replaceAll => cases user
    | close => rfl
    | select | setContent | setEditable => exact closed.silent

namespace Session

variable {peer : Peer} {s t : Session} {m : Move} {moves : List (Peer × Move)}

/-- A session on an editor that was closed before finds it closed. -/
theorem closed_start {settings : Settings} {inbox : Inbox} {editor : Editor} {now : Nat}
    (started : start settings inbox editor now = .ok s)
    (silent : editor.signals.sending = false) : s.editor.Closed := by
  obtain ⟨-, _, rfl⟩ := start_eq_ok started
  exact ⟨rfl, silent⟩

/-! ## What opens a closed editor -/

/-- Whether a move hands the awaited document straight to the session. -/
def revives (s : Session) : Move → Bool
  | .step (.receive (.document _)) => s.phase = .awaitingSnapshot && !s.dropped
  | _ => false

/-- The loop never comes to an event behind the end of the signals. -/
theorem given?_pass_of_silent (silent : s.editor.signals.sending = false) (time : Nat) :
    s.given? (.pass time) = none := by
  simp only [given?]
  split
  · rfl
  split
  · rename_i isReady
    have tells : s.editor.signals.sending = true :=
      sending_of_ready (by simp [isReady]) (by simp [isReady]) (by simp [isReady])
    exact absurd (silent.symm.trans tells) Bool.false_ne_true
  · rfl

/-- With the signals at their end, a document is handed over in this way only. -/
theorem revives_of_given {document : Document} (silent : s.editor.signals.sending = false)
    (awaiting : s.phase = .awaitingSnapshot) (given : s.given? m = some (.document document)) :
    s.revives m = true := by
  cases m with
  | pass time =>
    rw [given?_pass_of_silent silent] at given
    cases given
  | stray => cases given
  | step step =>
    cases step with
    | receive event =>
      simp only [given?] at given
      split at given
      · cases given
      · rename_i held
        cases given
        simp [revives, awaiting, held]
    | _ => cases given

theorem editable_of_revives (revived : s.revives m = true) :
    (s.move peer m).editor.editable = true := by
  unfold revives at revived
  split at revived
  · rename_i document
    have on : s.phase = .awaitingSnapshot ∧ s.dropped = false := by simpa using revived
    show (s.whileHeld _ (s.receive peer (.document document))).2.editor.editable = true
    simp [whileHeld, receive, on, goLive, Editor.setEditable]
  · cases revived

theorem Deed.closed (deed : Deed peer s t) (past : s.phase ≠ .awaitingSnapshot)
    (closed : s.editor.Closed) : t.editor.Closed := by
  cases deed with
  | note | complain | presence | cursor => exact closed
  | around => exact ⟨closed.readOnly, closed.silent⟩
  | shutDown => exact ⟨rfl, closed.silent⟩
  | goLive document awaiting => exact absurd awaiting past
  | send live found =>
    rw [send_editor]
    exact closed
  | write live known applied =>
    obtain ⟨content, -, rfl⟩ := applyRemote_eq_ok applied
    exact ⟨closed.readOnly, closed.silent⟩

/-- Only the awaited document opens a closed editor. -/
theorem closed_receive (closed : s.editor.Closed) {event : Incoming}
    (other : s.phase = .awaitingSnapshot → ∀ document, event ≠ .document document) :
    (s.receive peer event).editor.Closed := by
  by_cases awaiting : s.phase = .awaitingSnapshot
  · have misplaced : s.phase.takes event = false := by
      rw [awaiting]
      cases event with
      | document document => exact absurd rfl (other awaiting document)
      | edits | disconnect | presence => rfl
    rw [receive_of_misplaced (by simp [awaiting]) misplaced]
    exact closed
  · have kept := (deeds_receive peer event s).keep
      (P := fun u => u.phase ≠ .awaitingSnapshot ∧ u.editor.Closed)
      (fun deed before => ⟨deed.onward.ne_awaiting before.1, deed.closed before.1 before.2⟩)
      ⟨awaiting, closed⟩
    exact kept.2

theorem Effect.closed {event : Option Incoming} (effect : Effect peer s m event t)
    (closed : s.editor.Closed) (own : m.setsEditable = false)
    (other : s.phase = .awaitingSnapshot → ∀ document, event ≠ some (.document document)) :
    t.editor.Closed := by
  cases effect with
  | act action isAction =>
    rw [Move.eq_act isAction] at own
    exact closed.perform (Move.ne_setEditable own)
  | around => exact ⟨closed.readOnly, closed.silent⟩
  | given event inbox taken =>
    have waiting : { s with inbox }.editor.Closed := closed
    exact closed_receive waiting fun awaiting document same =>
      other awaiting document (congrArg some same)
  | look queued =>
    rw [localChange_editor]
    exact ⟨closed.readOnly, closed.silent⟩
  | report ticker =>
    unfold reportCursor
    split <;> exact closed
  | shut => exact ⟨rfl, closed.silent⟩

theorem closed_pass (closed : s.editor.Closed) (peer : Peer) (time : Nat) :
    (s.pass peer time).editor.Closed := by
  have effect := effect_pass peer time s
  rw [given?_pass_of_silent closed.silent] at effect
  exact effect.closed closed rfl fun _ _ => nofun

/-- A move leaves a closed editor closed, if it neither opens the editor itself nor revives it. -/
theorem closed_move (closed : s.editor.Closed) (own : m.setsEditable = false)
    (still : s.revives m = false) : (s.move peer m).editor.Closed := by
  cases isRun : m.isRun with
  | true =>
    obtain ⟨time, rfl⟩ := Move.eq_run isRun
    exact whileHeld_keeps (P := fun u => u.editor.Closed) _ closed
      (run_keeps (P := fun u => u.editor.Closed) (fun _ wait before => closed_pass before peer wait)
        closed)
  | false =>
    refine (effect_move peer s isRun).closed closed own fun awaiting document given => ?_
    have revived := revives_of_given closed.silent awaiting given
    exact Bool.false_ne_true (still.symm.trans revived)

/-! ## Closed for good, or not -/

/-- Whether the user is refused every change, and nothing happens. -/
def Refuses (s : Session) : Prop :=
  ∀ (peer : Peer) (action : Editor.Action), action.isUserEdit = true →
    s.step peer (.act action) = (.editor (.accepted false), s)

theorem refuses_iff : s.Refuses ↔ s.editor.editable = false := by
  constructor
  · intro refuses
    have typed := refuses .agreeing (.typeText []) rfl
    simpa [step, Editor.answer, Editor.accepts, Editor.Action.isUserEdit] using
      congrArg Prod.fst typed
  · exact fun readOnly _ _ user => step_act_of_readOnly readOnly user

theorem closed_after (closed : s.editor.Closed) (own : ∀ m ∈ moves, m.2.setsEditable = false)
    (still : ∀ before m, before ++ [m] <+: moves → (s.after before).revives m.2 = false) :
    (s.after moves).editor.Closed := by
  induction moves generalizing s with
  | nil => exact closed
  | cons m rest ih =>
    have first := still [] m (List.prefix_append [m] rest)
    refine ih (closed_move closed (own m List.mem_cons_self) first)
      (fun later member => own later (List.mem_cons_of_mem _ member)) fun before later within => ?_
    exact still (m :: before) later ((List.prefix_cons_inj m).2 within)

/-- **A closed editor stays closed, unless it is revived.** Let the editor of a session be closed at
any stage of its life, and let no one but the session open an editor from then on. The user is then
refused every change for good, if and only if the awaited document is never handed straight to the
session. It cannot be once the session is past waiting. -/
theorem refuses_iff_not_revived (closed : s.editor.Closed)
    (own : ∀ m ∈ moves, m.2.setsEditable = false) :
    ((∀ before, before <+: moves → (s.after before).Refuses) ↔
      ∀ before m, before ++ [m] <+: moves → (s.after before).revives m.2 = false) ∧
    (s.phase ≠ .awaitingSnapshot → ∀ before, before <+: moves → (s.after before).Refuses) := by
  have refuses (still : ∀ before m, before ++ [m] <+: moves →
      (s.after before).revives m.2 = false) (before : List (Peer × Move))
      (within : before <+: moves) : (s.after before).Refuses :=
    refuses_iff.2 (closed_after closed (fun m member => own m (within.subset member))
      fun earlier m prior => still earlier m (prior.trans within)).readOnly
  refine ⟨⟨fun refused before m within => ?_, refuses⟩, fun past => refuses fun before m _ => ?_⟩
  · refine Bool.eq_false_iff.2 fun revived => ?_
    have opened : (s.after (before ++ [m])).editor.editable = true := by
      rw [after_append]
      exact editable_of_revives revived
    have readOnly := refuses_iff.1 (refused _ within)
    exact Bool.false_ne_true (readOnly.symm.trans opened)
  · have still := (after_onward s before).ne_awaiting past
    unfold revives
    split
    · simp [still]
    · rfl

/-- Closed before the session began: the document waits in the inbox, but the run finds the end of
the signals first and ends the session. -/
theorem refuses_iff_not_revived_queued :
    let moves : List (Peer × Move) := [.step (.offer (.document ⟨['a']⟩)),
      .step (.act (.typeText ['x'])), .step (.run 0),
      .step (.act (.replaceAll ['y']))].map fun m => (.agreeing, m)
    ∃ s, start {} (.ofCapacity 1) Editor.fresh.close 0 = .ok s ∧ s.editor.Closed ∧
      (∀ m ∈ moves, m.2.setsEditable = false) ∧
      (∀ before m, before ++ [m] <+: moves → (s.after before).revives m.2 = false) ∧
      (∀ before, before <+: moves → (s.after before).Refuses) ∧
      (s.after moves).phase = .disconnected ∧ (s.after moves).editor.content = [] := by
  intro moves
  have started : start {} (.ofCapacity 1) Editor.fresh.close 0 = .ok _ := rfl
  have closed := closed_start started rfl
  have own : ∀ m ∈ moves, m.2.setsEditable = false := by decide
  have queued : ∀ m ∈ moves, ∀ s : Session, s.revives m.2 = false := by simp [moves, revives]
  have still (s : Session) (before : List (Peer × Move)) (m : Peer × Move)
      (within : before ++ [m] <+: moves) : (s.after before).revives m.2 = false :=
    queued m (within.subset (by simp)) _
  exact ⟨_, started, closed, own, still _, (refuses_iff_not_revived closed own).1.2 (still _),
    by decide +kernel, by decide +kernel⟩

/-- Closed while the document is awaited: handed straight to the session it opens the editor, and
what the user types is taken. -/
theorem accepts_of_revived :
    let moves : List (Peer × Move) := [(.agreeing, .step (.act .close)),
      (.agreeing, .step (.receive (.document ⟨['a']⟩)))]
    ∃ s₀, start {} (.ofCapacity 1) .fresh 0 = .ok s₀ ∧
      (s₀.after (moves.take 1)).editor.Closed ∧
      let s := s₀.after moves
      let typed := s.step .agreeing (.act (.typeText ['x']))
      s.phase = .live ∧ s.editor.signals.sending = false ∧
      typed.1 = .editor (.accepted true) ∧ typed.2.editor.content = ['x', 'a'] :=
  ⟨_, rfl, Editor.closed_close _, rfl, rfl, rfl, rfl⟩

end Session
end TextSync
