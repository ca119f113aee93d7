import TextSync.Proofs.Session.Unrolled
import TextSync.Proofs.Session.Unseen

/-!
# The answers of a peer steer nothing

What a peer answers to an edit is recorded and forgotten. With the answers left out of its records
(`unanswered`) a session is what it would be with a peer that agrees to everything, whatever happens
to it (`after_unanswered`). So two sessions to which the same happens are the same but for these
records. There every refusal is counted once and complained of once (`Answered`), so the answers
alone tell the two apart (`Answered.eq_of_verdicts`).
-/

namespace TextSync

/-- A call with the answer to it left out. A complaint about a refusal is all answer. -/
def Call.unanswered? : Call → Option Call
  | .send edit _ => some (.send edit .delivered)
  | .complain .refused => none
  | call => some call

def Entry.unanswered? (e : Entry) : Option Entry :=
  e.call.unanswered?.map fun call => ⟨e.time, call⟩

/-- The answer to a call, if it was answered. -/
def Entry.verdict? (e : Entry) : Option Verdict :=
  match e.call with
  | .send _ verdict => some verdict
  | _ => none

/-- Whether a call is an edit, which is answered, or a complaint that one was refused. -/
def Call.isAnswer : Call → Bool
  | .send _ _ | .complain .refused => true
  | _ => false

/-- The calls so far, the latest first, with so many edits accepted and so many refused. Each edit
that is refused is complained of right after it, and nothing else is complained of as refused. -/
inductive Answered : List Entry → Nat → Nat → Prop
  | nothing : Answered [] 0 0
  | other {entry : Entry} {calls : List Entry} {accepted refused : Nat}
      (apart : entry.call.isAnswer = false) (before : Answered calls accepted refused) :
      Answered (entry :: calls) accepted refused
  | accepted {time : Nat} {edit : Edit} {verdict : Verdict} {calls : List Entry}
      {accepted refused : Nat} (yes : verdict.isRefusal = false)
      (before : Answered calls accepted refused) :
      Answered (⟨time, .send edit verdict⟩ :: calls) (accepted + 1) refused
  | refused {time : Nat} {edit : Edit} {reason : Text} {calls : List Entry}
      {accepted refused : Nat} (before : Answered calls accepted refused) :
      Answered (⟨time, .complain .refused⟩ :: ⟨time, .send edit (.refused reason)⟩ :: calls)
        accepted (refused + 1)

/-- Puts answers back into calls that they were left out of. -/
def withVerdicts : List Entry → List Verdict → List Entry
  | ⟨time, .send edit _⟩ :: rest, verdict :: verdicts =>
    (if verdict.isRefusal then [⟨time, .complain .refused⟩] else [])
      ++ ⟨time, .send edit verdict⟩ :: withVerdicts rest verdicts
  | entry :: rest, verdicts => entry :: withVerdicts rest verdicts
  | [], _ => []

namespace Answered

variable {calls others : List Entry} {accepted refused accepted' refused' : Nat}

/-- Nothing but the answers is left out. -/
theorem withVerdicts_eq (answered : Answered calls accepted refused) :
    withVerdicts (calls.filterMap Entry.unanswered?) (calls.filterMap Entry.verdict?) = calls := by
  induction answered with
  | nothing => rfl
  | @other entry calls _ _ apart before ih =>
    obtain ⟨time, call⟩ := entry
    cases call with
    | send => cases apart
    | cursor | presence => exact congrArg _ ih
    | complain complaint =>
      cases complaint with
      | refused => cases apart
      | _ => exact congrArg _ ih
  | @accepted time edit verdict calls _ _ yes before ih =>
    cases verdict with
    | refused => cases yes
    | delivered | undeliverable => exact congrArg _ ih
  | @refused time edit reason calls _ _ before ih =>
    exact congrArg (fun rest => _ :: _ :: rest) ih

theorem counts (answered : Answered calls accepted refused) :
    accepted = (calls.filterMap Entry.verdict?).countP (fun verdict => !verdict.isRefusal) ∧
      refused = (calls.filterMap Entry.verdict?).countP Verdict.isRefusal := by
  induction answered with
  | nothing => exact ⟨rfl, rfl⟩
  | @other entry calls _ _ apart before ih =>
    have unasked : entry.verdict? = none := by
      obtain ⟨time, call⟩ := entry
      cases call with
      | send => cases apart
      | _ => rfl
    rw [List.filterMap_cons_none unasked]
    exact ih
  | @accepted time edit verdict calls _ _ yes before ih =>
    have asked : Entry.verdict? ⟨time, .send edit verdict⟩ = some verdict := rfl
    rw [List.filterMap_cons_some asked]
    simp [yes, ← ih.1, ← ih.2]
  | @refused time edit reason calls _ _ before ih =>
    have complained : Entry.verdict? ⟨time, .complain .refused⟩ = none := rfl
    have asked : Entry.verdict? ⟨time, .send edit (.refused reason)⟩ = some (.refused reason) := rfl
    have no : (Verdict.refused reason).isRefusal = true := rfl
    rw [List.filterMap_cons_none complained, List.filterMap_cons_some asked]
    simp [no, ← ih.1, ← ih.2]

/-- The answers tell two courses apart that are the same without them. -/
theorem eq_of_verdicts (answered : Answered calls accepted refused)
    (answered' : Answered others accepted' refused')
    (same : others.filterMap Entry.unanswered? = calls.filterMap Entry.unanswered?)
    (verdicts : others.filterMap Entry.verdict? = calls.filterMap Entry.verdict?) :
    others = calls ∧ accepted' = accepted ∧ refused' = refused := by
  refine ⟨?_, ?_, ?_⟩
  · rw [← answered'.withVerdicts_eq, ← answered.withVerdicts_eq, same, verdicts]
  · rw [answered'.counts.1, answered.counts.1, verdicts]
  · rw [answered'.counts.2, answered.counts.2, verdicts]

end Answered

namespace Session

variable {peer : Peer} {s t : Session} {m : Move} {moves : List (Peer × Move)}

/-! ## The answers left out -/

/-- The answers so far, the latest first. -/
def verdicts (s : Session) : List Verdict := s.calls.filterMap Entry.verdict?

/-- The session without the answers to its edits, each of which counts as sent. -/
def unanswered (s : Session) : Session :=
  { s with
    tally := { s.tally with sent := s.tally.sent + s.tally.refused, refused := 0 }
    calls := s.calls.filterMap Entry.unanswered?
    log := s.log.filter fun notice => !notice.isAnswer }

/-- An edit is sent, whatever the answer. -/
theorem send_unanswered (peer : Peer) (e : Edit) (s : Session) :
    (s.send peer e).unanswered = s.unanswered.send .agreeing e := by
  have sent : s.tally.sent + 1 + s.tally.refused = s.tally.sent + s.tally.refused + 1 := by omega
  have refused : s.tally.sent + (s.tally.refused + 1) = s.tally.sent + s.tally.refused + 1 := rfl
  unfold send
  cases peer s.calls e <;>
    simp [recordSend, call, note, count, unanswered, Peer.agreeing, List.filterMap_cons,
      Entry.unanswered?, Call.unanswered?, Notice.isAnswer, sent, refused]

/-- The handlers do not see the answers. -/
theorem unseen_unanswered (peer : Peer) : Unseen unanswered peer .agreeing where
  phase _ := rfl
  pending _ := rfl
  text _ := rfl
  note own s := by simp [unanswered, note, own]
  complain {c} own s := by
    have kept : (Call.complain c).unanswered? = some (.complain c) := by
      cases c with
      | refused => exact absurd rfl own
      | _ => rfl
    simp [unanswered, protocolError, call, note, count, Entry.unanswered?, kept, Notice.isAnswer]
  send e s := send_unanswered peer e (s.accept e)
  write _ _ _ := rfl
  goLive _ _ := rfl
  presence _ _ := rfl

theorem localChange_unanswered (peer : Peer) (s : Session) :
    (s.localChange peer).2.unanswered = (s.unanswered.localChange .agreeing).2 :=
  (congrArg Prod.snd ((unseen_unanswered peer).localChange s)).symm

theorem receive_unanswered (peer : Peer) (event : Incoming) (s : Session) :
    (s.receive peer event).unanswered = s.unanswered.receive .agreeing event :=
  ((unseen_unanswered peer).receive fun _ _ => rfl).symm

theorem reportCursor_unanswered (s : Session) :
    s.reportCursor.2.unanswered = s.unanswered.reportCursor.2 := by
  have phase : s.unanswered.phase = s.phase := rfl
  unfold reportCursor
  rw [phase]
  split <;> rfl

theorem leave_unanswered (ending : Ending) (s : Session) :
    (s.leave ending).unanswered = s.unanswered.leave ending :=
  ((unseen_unanswered .agreeing).leave rfl).symm

/-! ## Whatever happens -/

theorem take_unanswered (peer : Peer) (turn : Turn) (s : Session) :
    (s.take peer turn).unanswered = s.unanswered.take .agreeing turn := by
  cases turn with
  | teardown | editorClosed | inboxClosed => rfl
  | signal => exact localChange_unanswered peer _
  | event event rest => exact receive_unanswered peer event _
  | tick => exact reportCursor_unanswered _

/-- A run goes the same way, whatever the answers. -/
theorem run_unanswered (peer : Peer) (time : Nat) (s : Session) :
    (s.run peer time).2.unanswered = (s.unanswered.run .agreeing time).2 := by
  fun_induction run peer time s with
  | case1 time s ended => rw [run_of_disconnected (s := s.unanswered) ended]
  | case2 time s on turn isReady ih =>
    rw [ih, take_unanswered, ← run_of_ready (s := s.unanswered) on isReady]
  | case3 time s on idle next ih =>
    have waits : s.unanswered.run .agreeing time
        = (s.waitUntil (s.ticker.dueAt s.now)).unanswered.run .agreeing
          (s.now + time - s.ticker.dueAt s.now) :=
      (run_of_idle (s := s.unanswered) on idle).trans (if_pos next)
    rw [ih, waits]
  | case4 time s on idle late =>
    have waits : s.unanswered.run .agreeing time
        = (.running, (s.waitUntil (s.now + time)).unanswered) :=
      (run_of_idle (s := s.unanswered) on idle).trans (if_neg late)
    rw [waits]

theorem pass_unanswered (peer : Peer) (time : Nat) (s : Session) :
    (s.pass peer time).unanswered = s.unanswered.pass .agreeing time := by
  by_cases ended : s.phase = .disconnected
  · rw [pass_of_disconnected ended, pass_of_disconnected (s := s.unanswered) ended]
  · cases isReady : s.ready with
    | none =>
      rw [pass_of_idle ended isReady, pass_of_idle (s := s.unanswered) ended isReady]
      rfl
    | some turn =>
      rw [pass_of_ready ended isReady, pass_of_ready (s := s.unanswered) ended isReady]
      exact take_unanswered peer turn s

theorem move_unanswered (peer : Peer) (m : Move) (s : Session) :
    (s.move peer m).unanswered = s.unanswered.move .agreeing m := by
  have held {after next : Session} (answer answer' : Answer) (same : after.unanswered = next) :
      (s.whileHeld answer after).2.unanswered = (s.unanswered.whileHeld answer' next).2 :=
    whileHeld_relates (R := fun u v => u.unanswered = v) answer answer' rfl rfl same
  cases m with
  | pass time => exact pass_unanswered peer time s
  | stray => rfl
  | step step =>
    cases step with
    | act | offer | closeSender | requestTeardown | sleep => rfl
    | receive event => exact held _ _ (receive_unanswered peer event s)
    | localChange => exact held _ _ (localChange_unanswered peer s)
    | reportCursor => exact held _ _ (reportCursor_unanswered s)
    | teardown => exact held _ _ (leave_unanswered .teardown s)
    | run time => exact held _ _ (run_unanswered peer time s)
    | drop =>
      show _ = ({ s.unanswered.leave .dropped with dropped := true } : Session)
      rw [← leave_unanswered]
      rfl

/-- With the answers left out, a session is as with a peer that agrees to everything. -/
theorem after_unanswered (s : Session) (moves : List (Peer × Move)) :
    (s.after moves).unanswered
      = s.unanswered.after ((moves.map (·.2)).map fun m => (.agreeing, m)) := by
  induction moves generalizing s with
  | nil => rfl
  | cons m rest ih =>
    rw [after_cons, ih, move_unanswered]
    rfl

/-! ## The traces of a refusal -/

/-- The counts of a session are those of its calls. -/
abbrev Accounted (s : Session) : Prop := Answered s.calls s.tally.sent s.tally.refused

/-- An answer is counted on its side, and a refusal is complained of. -/
theorem Accounted.send (accounted : Accounted s) (peer : Peer) (e : Edit) :
    Accounted (s.send peer e) := by
  unfold Session.send
  cases peer s.calls e with
  | delivered | undeliverable => exact .accepted rfl accounted
  | refused reason => exact .refused accounted

theorem Accounted.localChange (accounted : Accounted s) (peer : Peer) :
    Accounted (s.localChange peer).2 := by
  unfold Session.localChange
  split
  · split
    · exact accounted
    · rename_i e _
      have taken : Accounted (s.accept e) := accounted
      exact taken.send peer e
  · exact accounted

theorem Accounted.protocolError (accounted : Accounted s) {complaint : Complaint}
    (own : complaint ≠ .refused) : Accounted (s.protocolError complaint) := by
  cases complaint with
  | refused => exact absurd rfl own
  | _ => exact .other rfl accounted

theorem Accounted.applyAll (accounted : Accounted s) (total done : Nat) (batch : List Edit) :
    Accounted (applyAll total done batch s) := by
  induction batch generalizing done s with
  | nil => exact accounted
  | cons e rest ih =>
    unfold Session.applyAll
    split
    · rename_i t applied
      obtain ⟨content, -, rfl⟩ := applyRemote_eq_ok applied
      refine ih ?_ (done + 1)
      exact accounted
    · exact accounted.protocolError (by simp)

theorem Accounted.receive (accounted : Accounted s) (peer : Peer) (event : Incoming) :
    Accounted (s.receive peer event) := by
  unfold Session.receive
  split
  · exact accounted
  · exact (accounted.localChange peer).applyAll _ 0 _
  · exact accounted
  · exact .other rfl accounted
  · exact accounted
  · exact accounted.protocolError (by simp)

theorem Accounted.reportCursor (accounted : Accounted s) : Accounted s.reportCursor.2 := by
  unfold Session.reportCursor
  split
  · exact .other rfl accounted
  · exact accounted

theorem Accounted.effect {event : Option Incoming} (accounted : Accounted s)
    (effect : Effect peer s m event t) : Accounted t := by
  cases effect with
  | act | around | shut => exact accounted
  | given event inbox taken =>
    have waiting : Accounted { s with inbox } := accounted
    exact waiting.receive peer event
  | look queued =>
    have heard : Accounted { s with
        editor := { s.editor with signals := { s.editor.signals with queued } } } := accounted
    exact heard.localChange peer
  | report ticker =>
    have fired : Accounted { s with ticker } := accounted
    exact fired.reportCursor

theorem accounted_start {settings : Settings} {inbox : Inbox} {editor : Editor} {now : Nat}
    (started : start settings inbox editor now = .ok s) : Accounted s := by
  obtain ⟨-, _, rfl⟩ := start_eq_ok started
  exact .nothing

/-- The counts and the calls tell the same story after anything that happens. -/
theorem accounted_after (accounted : Accounted s) (moves : List (Peer × Move)) :
    Accounted (s.after moves) := by
  rw [← after_unrolled]
  refine after_keeps (P := Accounted) (fun m member u before => ?_) accounted
  exact before.effect (effect_move m.1 u (isRun_of_mem_unrolled member))

/-! ## Two peers -/

/-- Two sessions that differ at most in the answers they got: the same is in the editor and in the
queues, the same is known and due, and the same calls were made at the same times. -/
structure SameButAnswers (s t : Session) : Prop where
  phase : t.phase = s.phase
  content : t.content = s.content
  editor : t.editor = s.editor
  inbox : t.inbox = s.inbox
  history : t.history = s.history
  ticker : t.ticker = s.ticker
  now : t.now = s.now
  edits : t.tally.sent + t.tally.refused = s.tally.sent + s.tally.refused
  applied : t.tally.applied = s.tally.applied
  protocolErrors : t.tally.protocolErrors = s.tally.protocolErrors
  cursorReports : t.tally.cursorReports = s.tally.cursorReports
  calls : t.calls.filterMap Entry.unanswered? = s.calls.filterMap Entry.unanswered?

theorem sameButAnswers_of_eq (same : t.unanswered = s.unanswered) : SameButAnswers s t where
  phase := congrArg (·.phase) same
  content := congrArg (·.content) same
  editor := congrArg (·.editor) same
  inbox := congrArg (·.inbox) same
  history := congrArg (·.history) same
  ticker := congrArg (·.ticker) same
  now := congrArg (·.now) same
  edits := congrArg (·.tally.sent) same
  applied := congrArg (·.tally.applied) same
  protocolErrors := congrArg (·.tally.protocolErrors) same
  cursorReports := congrArg (·.tally.cursorReports) same
  calls := congrArg (·.calls) same

/-- **The answers steer nothing.** Let the same happen to a session with one peer and with another,
whatever the two answer to each edit. The two courses differ at most in the answers: the stage, the
texts, the selection and all counts but two are the same at every moment, and the same calls are
made at the same times. Only how many of the edits count as refused may differ, and each of these is
complained of once, right after it was sent. -/
theorem sameButAnswers_after {settings : Settings} {inbox : Inbox} {editor : Editor} {now : Nat}
    {s₀ : Session} (started : start settings inbox editor now = .ok s₀)
    {moves others : List (Peer × Move)} (same : others.map (·.2) = moves.map (·.2)) :
    let s := s₀.after moves
    let t := s₀.after others
    SameButAnswers s t ∧ Answered s.calls s.tally.sent s.tally.refused ∧
      Answered t.calls t.tally.sent t.tally.refused := by
  intro s t
  have alike : t.unanswered = s.unanswered := by rw [after_unanswered, after_unanswered, same]
  have begun := accounted_start started
  exact ⟨sameButAnswers_of_eq alike, accounted_after begun moves, accounted_after begun others⟩

/-- One peer agrees and one refuses: a change that a batch finds unsent, a batch that is left out
half, a report of the caret, and a change on top of all this. -/
theorem sameButAnswers_after_refusing :
    let course (peer : Peer) : List (Peer × Move) := [.step (.receive (.document ⟨['a', 'b']⟩)),
      .step (.act (.typeText ['x'])), .step (.receive (.edits [.insert 3 ['y'], .delete 9 1])),
      .step .reportCursor, .step (.act (.replaceAll ['z'])), .pass 0].map fun m => (peer, m)
    ∃ s₀, start {} (.ofCapacity 1) .fresh 0 = .ok s₀ ∧
      let s := s₀.after (course .agreeing)
      let t := s₀.after (course (.refusing ['n']))
      (course (.refusing ['n'])).map (·.2) = (course .agreeing).map (·.2) ∧
      SameButAnswers s t ∧ s.content = ['z'] ∧ t.content = ['z'] ∧
      s.tally = ⟨2, 0, 1, 1, 1⟩ ∧ t.tally = ⟨0, 2, 1, 1, 1⟩ := by
  intro course
  have started : start {} (.ofCapacity 1) .fresh 0 = .ok _ := rfl
  have same : (course (.refusing ['n'])).map (·.2) = (course .agreeing).map (·.2) := rfl
  exact ⟨_, started, same, (sameButAnswers_after started same).1, rfl, rfl, rfl, rfl⟩

end Session
end TextSync
