import TextSync.Proofs.Session.Unrolled

/-!
# The stages of a session's life

A session goes from awaiting its snapshot to live, and from either to disconnected, and no other way
(`Deed.onward`). What it may do depends on the stage. Only while it is live can the user type
(`Guarded`) and are calls made that are no complaints (`Steady`). A document is taken over only
while it is awaited, which happens once (`receive_document`), and an event that does not belong to
the stage is complained of and changes nothing (`receive_of_misplaced`).
-/

namespace TextSync

/-- The only ways from one stage of life to another. -/
inductive Phase.Next : Phase → Phase → Prop
  | joined : Next .awaitingSnapshot .live
  | ended : Next .live .disconnected
  | abandoned : Next .awaitingSnapshot .disconnected

/-- The events that belong to a stage. -/
def Phase.takes : Phase → Incoming → Bool
  | .awaitingSnapshot, .document _ => true
  | .live, .edits _ | .live, .disconnect | .live, .presence _ => true
  | _, _ => false

/-- Whether a call is one of `raise_error`. -/
def Call.isComplaint : Call → Bool
  | .complain _ => true
  | _ => false

/-- The document that an event brings. -/
def Incoming.document? : Incoming → Option Document
  | .document d => some d
  | _ => none

/-- The edits that an event brings. -/
def Incoming.batch : Incoming → List Edit
  | .edits batch => batch
  | _ => []

/-- From one stage to the same or to one that comes after it. -/
def Phase.Onward (p q : Phase) : Prop := q = p ∨ p.Next q

namespace Phase

variable {p q r : Phase}

theorem next_disconnected (on : p ≠ .disconnected) : p.Next .disconnected := by
  cases p with
  | awaitingSnapshot => exact .abandoned
  | live => exact .ended
  | disconnected => exact absurd rfl on

theorem Onward.trans (first : p.Onward q) (second : q.Onward r) : p.Onward r := by
  obtain rfl | first := first
  · exact second
  · obtain rfl | second := second
    · exact .inr first
    · cases first <;> cases second
      exact .inr .abandoned

/-- There is no way back. -/
theorem Onward.antisymm (there : p.Onward q) (back : q.Onward p) : q = p := by
  obtain same | there := there
  · exact same
  · obtain same | back := back
    · exact same.symm
    · cases there <;> cases back

theorem Onward.ne_awaiting (onward : p.Onward q) (past : p ≠ .awaitingSnapshot) :
    q ≠ .awaitingSnapshot := by
  obtain rfl | next := onward
  · exact past
  · cases next <;> simp

end Phase

namespace Session

variable {peer : Peer} {s t : Session} {m : Move} {moves : List (Peer × Move)}

/-! ## One stage after the other -/

/-- No deed leads back to an earlier stage. -/
theorem Deed.onward (deed : Deed peer s t) : s.phase.Onward t.phase := by
  cases deed with
  | note | complain | presence | cursor | around => exact .inl rfl
  | shutDown ending on => exact .inr (Phase.next_disconnected on)
  | goLive document awaiting =>
    rw [awaiting]
    exact .inr .joined
  | send live found => exact .inl send_phase
  | write live known applied => exact .inl (applyRemote_sameCourse applied).phase

theorem Deeds.onward (deeds : Deeds peer s t) : s.phase.Onward t.phase :=
  deeds.keep (P := fun u => s.phase.Onward u.phase) (fun deed far => far.trans deed.onward)
    (.inl rfl)

theorem move_onward (peer : Peer) (s : Session) (m : Move) :
    s.phase.Onward (s.move peer m).phase :=
  move_keeps (P := fun u => s.phase.Onward u.phase) (fun deed far => far.trans deed.onward)
    (fun _ _ far => far) (.inl rfl)

/-- Whatever happens, there is no way back to an earlier stage. -/
theorem after_onward (s : Session) (moves : List (Peer × Move)) :
    s.phase.Onward (s.after moves).phase :=
  after_keeps (P := fun u => s.phase.Onward u.phase)
    (fun m _ u far => far.trans (move_onward m.1 u m.2)) (.inl rfl)

/-! ## Who can type -/

/-- The user can type only while the session is live. -/
def Guarded (s : Session) : Prop := s.editor.editable = true → s.phase = .live

theorem Deed.guarded (deed : Deed peer s t) (guarded : Guarded s) : Guarded t := by
  cases deed with
  | note | complain | presence | cursor | around => exact guarded
  | shutDown ending on => exact fun editable => nomatch editable
  | goLive document awaiting => exact fun _ => rfl
  | send live found =>
    rw [Guarded, send_phase]
    exact fun _ => live
  | write live known applied =>
    rw [Guarded, (applyRemote_sameCourse applied).phase]
    exact fun _ => live

/-- A user who is let type by no one else stays guarded. -/
theorem guarded_after (own : ∀ m ∈ moves, m.2.setsEditable = false) (guarded : Guarded s) :
    Guarded (s.after moves) := by
  refine after_keeps (P := Guarded) (fun m member u before => ?_) guarded
  refine move_keeps Deed.guarded (fun action isAction before => ?_) before
  have notSet := own m member
  rw [Move.eq_act isAction] at notSet
  exact fun editable =>
    before (Editor.perform_editable (Move.ne_setEditable notSet) u.editor editable)

/-- A user who cannot type is told so, and nothing happens. -/
theorem step_act_of_readOnly (readOnly : s.editor.editable = false) {action : Editor.Action}
    (user : action.isUserEdit = true) :
    s.step peer (.act action) = (.editor (.accepted false), s) := by
  have refused : s.editor.accepts action = false := by simp [Editor.accepts, user, readOnly]
  simp [step, Editor.answer, Editor.perform, user, refused]

theorem step_act_of_guarded (guarded : Guarded s) (off : s.phase ≠ .live) {action : Editor.Action}
    (user : action.isUserEdit = true) :
    s.step peer (.act action) = (.editor (.accepted false), s) :=
  step_act_of_readOnly (Bool.eq_false_iff.2 fun editable => off (guarded editable)) user

/-! ## What is called -/

/-- From one moment to a later one calls are only added, all of them of one kind. -/
def Adds (kind : Entry → Prop) (s t : Session) : Prop :=
  ∃ new, t.calls = new ++ s.calls ∧ ∀ entry ∈ new, kind entry

section Adds

variable {kind : Entry → Prop}

theorem adds_of_eq (same : t.calls = s.calls) : Adds kind s t := ⟨[], same, nofun⟩

theorem adds_of_call {entry : Entry} (called : t.calls = entry :: s.calls) (allowed : kind entry) :
    Adds kind s t := by
  refine ⟨[entry], called, ?_⟩
  intro other member
  obtain rfl := List.mem_singleton.1 member
  exact allowed

theorem Adds.trans {u : Session} (first : Adds kind s t) (second : Adds kind t u) :
    Adds kind s u := by
  obtain ⟨earlier, called, allowed⟩ := first
  obtain ⟨later, calledLater, allowedLater⟩ := second
  refine ⟨later ++ earlier, ?_, ?_⟩
  · rw [calledLater, called, List.append_assoc]
  · intro entry member
    rcases List.mem_append.1 member with late | early
    · exact allowedLater entry late
    · exact allowed entry early

end Adds

/-- The stage stays, and unless it is the live one all calls are complaints. -/
structure Steady (s t : Session) : Prop where
  phase : t.phase = s.phase
  calls : ∃ new, t.calls = new ++ s.calls ∧
    ∀ entry ∈ new, entry.call.isComplaint = true ∨ s.phase = .live

theorem Steady.refl (s : Session) : Steady s s := ⟨rfl, [], rfl, nofun⟩

theorem Steady.trans {u : Session} (first : Steady s t) (second : Steady t u) : Steady s u := by
  have later := second.calls
  rw [first.phase] at later
  exact ⟨second.phase.trans first.phase, Adds.trans first.calls later⟩

theorem send_calls (peer : Peer) (e : Edit) (s : Session) :
    ∃ new, (s.send peer e).calls = new ++ s.calls := by
  unfold send
  cases peer s.calls e with
  | delivered => exact ⟨[_], rfl⟩
  | undeliverable => exact ⟨[_], rfl⟩
  | refused reason => exact ⟨[_, _], rfl⟩

theorem Deed.steady (deed : Deed peer s t) (stays : t.phase = s.phase) : Steady s t := by
  refine ⟨stays, ?_⟩
  cases deed with
  | note | around => exact ⟨[], rfl, nofun⟩
  | complain complaint on => exact adds_of_call rfl (.inl rfl)
  | shutDown ending on => exact absurd stays.symm on
  | goLive document awaiting => exact nomatch stays.trans awaiting
  | @send e live found =>
    obtain ⟨new, called⟩ := send_calls peer e (s.accept e)
    exact ⟨new, called, fun _ _ => .inr live⟩
  | presence payload live => exact ⟨[_], rfl, fun _ _ => .inr live⟩
  | cursor live => exact ⟨[_], rfl, fun _ _ => .inr live⟩
  | write live known applied =>
    obtain ⟨content, -, rfl⟩ := applyRemote_eq_ok applied
    exact ⟨[], rfl, nofun⟩

/-- There is no way back, so deeds that end in the stage in which they began never left it. -/
theorem Deeds.steady (deeds : Deeds peer s t) (stays : t.phase = s.phase) : Steady s t := by
  induction deeds with
  | refl => exact Steady.refl s
  | @tail u t far deed ih =>
    have on : s.phase.Onward u.phase := Deeds.onward far
    have back : u.phase.Onward s.phase := stays ▸ deed.onward
    have still : u.phase = s.phase := on.antisymm back
    exact (ih still).trans (deed.steady (stays.trans still.symm))

/-! ## Events in their place and out of it -/

/-- A document is taken over while it is awaited, and leaves all texts alone at any other stage. -/
theorem receive_document (peer : Peer) (document : Document) (s : Session) :
    s.phase = .awaitingSnapshot ∧ s.receive peer (.document document) = s.goLive document ∨
      s.phase ≠ .awaitingSnapshot ∧ (s.receive peer (.document document)).content = s.content ∧
        (s.receive peer (.document document)).editor = s.editor := by
  unfold receive
  cases s.phase with
  | awaitingSnapshot => exact .inl ⟨rfl, rfl⟩
  | live => exact .inr ⟨nofun, rfl, rfl⟩
  | disconnected => exact .inr ⟨nofun, rfl, rfl⟩

/-- An event out of its place is complained of, and that is all. -/
theorem receive_of_misplaced {event : Incoming} (on : s.phase ≠ .disconnected)
    (misplaced : s.phase.takes event = false) :
    s.receive peer event = s.protocolError (.unexpected event.kind s.phase) := by
  unfold receive
  cases phase : s.phase with
  | disconnected => exact absurd phase on
  | awaitingSnapshot =>
    rw [phase] at misplaced
    cases event with
    | document => cases misplaced
    | edits | disconnect | presence => rfl
  | live =>
    rw [phase] at misplaced
    cases event with
    | document => rfl
    | edits | disconnect | presence => cases misplaced

/-- An event leads to another stage only as the awaited document or as the disconnect of a live
session. -/
theorem receive_cases (peer : Peer) (event : Incoming) (s : Session) :
    (∃ document, s.receive peer event = s.goLive document) ∨
      s.phase = .live ∧ event = .disconnect ∧
        s.receive peer event = s.shutDown .remoteDisconnect ∨
      (s.receive peer event).phase = s.phase := by
  unfold receive
  split
  · exact .inl ⟨_, rfl⟩
  · exact .inr (.inr (applyBatch_sameCourse peer _ s).phase)
  · exact .inr (.inl ⟨‹_›, rfl, rfl⟩)
  · exact .inr (.inr rfl)
  · exact .inr (.inr rfl)
  · exact .inr (.inr rfl)

/-! ## Moves -/

theorem Effect.eq_receive {event : Incoming} (effect : Effect peer s m (some event) t) :
    ∃ inbox, (inbox = s.inbox ∨ s.inbox.queued = event :: inbox.queued) ∧
      t = { s with inbox }.receive peer event := by
  cases effect with
  | given _ inbox taken => exact ⟨inbox, taken, rfl⟩

/-- Who is live in the end has not ended before. -/
theorem connected_of_after (live : (t.after moves).phase = .live) : t.phase ≠ .disconnected := by
  intro gone
  have onward := after_onward t moves
  rw [gone, live] at onward
  obtain same | next := onward
  · cases same
  · cases next

/-- Without an event a session stays at its stage, if it is live in the end. -/
theorem Effect.stays (effect : Effect peer s m none t) (live : (t.after moves).phase = .live) :
    t.phase = s.phase := by
  cases effect with
  | act | around => rfl
  | look queued => exact (localChange_sameCourse peer _).phase
  | report ticker => exact (reportCursor_sameCourse _).phase
  | shut => exact absurd rfl (connected_of_after live)

/-- A session that awaits its snapshot takes over the document it is given, and nothing else. -/
theorem Effect.awaiting {event : Incoming} (effect : Effect peer s m (some event) t)
    (awaiting : s.phase = .awaitingSnapshot) :
    (∃ document inbox, event = .document document ∧ t = { s with inbox }.goLive document) ∨
      event.document? = none ∧ t.phase = .awaitingSnapshot := by
  obtain ⟨inbox, -, rfl⟩ := effect.eq_receive
  have on : { s with inbox }.phase ≠ .disconnected := by simp [awaiting]
  cases event with
  | document document =>
    obtain ⟨-, taken⟩ | ⟨past, -⟩ := receive_document peer document { s with inbox }
    · exact .inl ⟨document, inbox, rfl, taken⟩
    · exact absurd awaiting past
  | edits | disconnect | presence =>
    refine .inr ⟨rfl, ?_⟩
    rw [receive_of_misplaced on (by simp [Phase.takes, awaiting])]
    exact awaiting

theorem Steady.told (steady : Steady s t) : ∃ new, t.calls = new ++ s.calls ∧
    ∀ entry ∈ new, entry.call.isComplaint = true ∨ s.phase = .live ∧ t.phase = .live := by
  obtain ⟨new, called, allowed⟩ := steady.calls
  refine ⟨new, called, fun entry member => ?_⟩
  obtain complaint | live := allowed entry member
  · exact .inl complaint
  · exact .inr ⟨live, steady.phase.trans live⟩

theorem Effect.told {event : Option Incoming} (effect : Effect peer s m event t) :
    ∃ new, t.calls = new ++ s.calls ∧
      ∀ entry ∈ new, entry.call.isComplaint = true ∨ s.phase = .live ∧ t.phase = .live := by
  cases effect with
  | act | around | shut => exact ⟨[], rfl, nofun⟩
  | given event inbox taken =>
    obtain ⟨document, same⟩ | ⟨-, -, same⟩ | stays := receive_cases peer event { s with inbox }
    · rw [same]
      exact ⟨[], rfl, nofun⟩
    · rw [same]
      exact ⟨[], rfl, nofun⟩
    · exact ((deeds_receive peer event { s with inbox }).steady stays).told
  | look queued =>
    exact ((deeds_localChange peer _).steady (localChange_sameCourse peer _).phase).told
  | report ticker =>
    exact ((deeds_reportCursor peer _).steady (reportCursor_sameCourse _).phase).told

/-- What a move that is no run may do, at each stage of life. -/
structure Gated (peer : Peer) (s : Session) (m : Move) : Prop where
  order : s.phase.Onward (s.move peer m).phase
  document : ∀ document, s.given? m = some (.document document) →
    s.phase = .awaitingSnapshot ∧ (s.move peer m).phase = .live ∧
        (s.move peer m).content = document.content ∧
        (s.move peer m).editor.content = document.content ∨
      s.phase ≠ .awaitingSnapshot ∧ (s.move peer m).content = s.content ∧
        (s.move peer m).editor = s.editor
  typing : ∀ action, m = .step (.act action) → action.isUserEdit = true → s.phase ≠ .live →
    s.step peer (.act action) = (.editor (.accepted false), s)
  calls : ∃ new, (s.move peer m).calls = new ++ s.calls ∧ ∀ entry ∈ new,
    entry.call.isComplaint = true ∨ s.phase = .live ∧ (s.move peer m).phase = .live
  misplaced : ∀ event, s.given? m = some event → s.phase ≠ .disconnected →
    s.phase.takes event = false → ∃ inbox,
      (inbox = s.inbox ∨ s.inbox.queued = event :: inbox.queued) ∧
      s.move peer m = { s with
        inbox
        tally := { s.tally with protocolErrors := s.tally.protocolErrors + 1 }
        calls := ⟨s.now, .complain (.unexpected event.kind s.phase)⟩ :: s.calls
        log := .protocolError (.unexpected event.kind s.phase) :: s.log }

/-- Every move keeps the rules of its stage, as long as the user is guarded. -/
theorem gated_move (peer : Peer) (guarded : Guarded s) (single : m.isRun = false) :
    Gated peer s m := by
  have effect := effect_move peer s single
  refine ⟨move_onward peer s m, fun document handed => ?_, fun action _ user off => ?_, effect.told,
    fun event handed on misplaced => ?_⟩
  · rw [handed] at effect
    obtain ⟨inbox, -, same⟩ := effect.eq_receive
    rw [same]
    obtain ⟨awaiting, live⟩ | ⟨past, content, editor⟩ :=
      receive_document peer document { s with inbox }
    · rw [live]
      exact .inl ⟨awaiting, rfl, rfl, rfl⟩
    · exact .inr ⟨past, content, editor⟩
  · exact step_act_of_guarded guarded off user
  · rw [handed] at effect
    obtain ⟨inbox, taken, same⟩ := effect.eq_receive
    exact ⟨inbox, taken, same.trans (receive_of_misplaced (s := { s with inbox }) on misplaced)⟩

/-- After a document, whether it was taken over or not, none is awaited. -/
theorem Gated.past (gated : Gated peer s m) {document : Document}
    (handed : s.given? m = some (.document document)) :
    (s.move peer m).phase ≠ .awaitingSnapshot := by
  obtain ⟨-, live, -⟩ | ⟨past, -⟩ := gated.document document handed
  · simp [live]
  · exact gated.order.ne_awaiting past

/-- **Every stage keeps its rules.** Whatever happens to a session, as long as no one else lets its
user type: at every moment the user can type only while it is live, and every move, those of a run
included, keeps the rules of the stage at which it is made. Of all the documents that the session is
given only the first can change a text. -/
theorem gated_of_unrolled {settings : Settings} {inbox : Inbox} {editor : Editor} {now : Nat}
    {s₀ : Session} (started : start settings inbox editor now = .ok s₀)
    {moves : List (Peer × Move)} (own : ∀ m ∈ moves, m.2.setsEditable = false) :
    s₀.phase = .awaitingSnapshot ∧ s₀.after (s₀.unrolled moves) = s₀.after moves ∧
      (∀ first rest, s₀.unrolled moves = first ++ rest →
        (s₀.after first).editor.editable = true → (s₀.after first).phase = .live) ∧
      (∀ first m rest, s₀.unrolled moves = first ++ m :: rest →
        Gated m.1 (s₀.after first) m.2) ∧
      ∀ first m middle m' rest, s₀.unrolled moves = first ++ m :: (middle ++ m' :: rest) →
        ∀ earlier later, (s₀.after first).given? m.2 = some (.document earlier) →
          (s₀.after (first ++ m :: middle)).given? m'.2 = some (.document later) →
          let s := s₀.after (first ++ m :: middle)
          (s.move m'.1 m'.2).content = s.content ∧ (s.move m'.1 m'.2).editor = s.editor := by
  have begun : s₀.phase = .awaitingSnapshot ∧ Guarded s₀ := by
    obtain ⟨-, _, rfl⟩ := start_eq_ok started
    exact ⟨rfl, fun editable => nomatch editable⟩
  have alone : ∀ m ∈ s₀.unrolled moves, m.2.setsEditable = false := fun m =>
    unrolled_all (P := fun m => m.setsEditable = false) (fun _ => rfl) own
  have guarded (first rest : List (Peer × Move)) (split : s₀.unrolled moves = first ++ rest) :
      Guarded (s₀.after first) := by
    refine guarded_after (fun m member => alone m ?_) begun.2
    rw [split]
    exact List.mem_append_left rest member
  have gated (first : List (Peer × Move)) (m : Peer × Move) (rest : List (Peer × Move))
      (split : s₀.unrolled moves = first ++ m :: rest) : Gated m.1 (s₀.after first) m.2 := by
    have member : m ∈ s₀.unrolled moves := by
      rw [split]
      exact List.mem_append_right first List.mem_cons_self
    exact gated_move m.1 (guarded first _ split) (isRun_of_mem_unrolled member)
  refine ⟨begun.1, after_unrolled s₀ moves, guarded, gated, ?_⟩
  intro first m middle m' rest split earlier later handed handedLater
  -- The first document ends the wait, and no move leads back to it.
  have past : (s₀.after (first ++ m :: middle)).phase ≠ .awaitingSnapshot := by
    rw [after_append, after_cons]
    exact (after_onward _ middle).ne_awaiting ((gated first m _ split).past handed)
  have again : Gated m'.1 (s₀.after (first ++ m :: middle)) m'.2 :=
    gated (first ++ m :: middle) m' rest (by rw [split, List.append_assoc, List.cons_append])
  obtain ⟨awaiting, -⟩ | ⟨-, unchanged⟩ := again.document later handedLater
  · exact absurd awaiting past
  · exact unchanged

/-- A batch and a user's change before the snapshot, a change after it, a second snapshot, and a
change after the end. Only the first document and the change while live leave a trace in the text. -/
theorem gated_of_unrolled_twice :
    let before : List (Peer × Move) := [(.agreeing, .step (.act (.setContent ['u']))),
      (.agreeing, .step (.receive (.edits [.insert 0 ['y']]))),
      (.agreeing, .step (.act (.typeText ['v']))), (.agreeing, .step (.offer (.document ⟨['a']⟩)))]
    let between : List (Peer × Move) := [(.refusing [], .step (.act (.typeText ['x']))),
      (.agreeing, .step (.offer (.document ⟨['b']⟩))), (.refusing [], .pass 0)]
    let after : List (Peer × Move) := [(.agreeing, .step .teardown),
      (.agreeing, .step (.act (.typeText ['w'])))]
    let moves := before ++ (.agreeing, .pass 0) :: (between ++ (.agreeing, .pass 0) :: after)
    ∃ s₀, start {} (.ofCapacity 1) .fresh 0 = .ok s₀ ∧
      (∀ m ∈ moves, m.2.setsEditable = false) ∧
      (s₀.after before).editor.content = ['u'] ∧
      let s := s₀.after (before ++ (.agreeing, .pass 0) :: between)
      s.content = ['x', 'a'] ∧ s.given? (.pass 0) = some (.document ⟨['b']⟩) ∧
      (s.move .agreeing (.pass 0)).content = s.content ∧
      (s.move .agreeing (.pass 0)).editor = s.editor ∧
      (s.move .agreeing (.pass 0)).tally.protocolErrors = 2 ∧
      (s₀.after moves).editor.content = ['x', 'a'] := by
  intro before between after moves
  have started : start {} (.ofCapacity 1) .fresh 0 = .ok _ := rfl
  have own : ∀ m ∈ moves, m.2.setsEditable = false := by decide
  obtain ⟨-, -, -, -, once⟩ := gated_of_unrolled started own
  have unchanged := once before (.agreeing, .pass 0) between (.agreeing, .pass 0) after rfl ⟨['a']⟩
    ⟨['b']⟩ rfl rfl
  exact ⟨_, started, own, rfl, rfl, rfl, unchanged.1, unchanged.2, rfl, rfl⟩

end Session
end TextSync
