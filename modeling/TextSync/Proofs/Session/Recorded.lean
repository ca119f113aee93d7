import Mathlib.Data.List.Forall2
import TextSync.Proofs.History
import TextSync.Proofs.Session.Lifecycle

/-!
# The history of a session is true

A session writes every edit it makes or takes over into its history. The main statement says what
that is good for: whatever happens to a live session, and however its peer answers, the history
replays from the snapshot to the text that the session knows. No edit in it is out of bounds, and
each edit that was sent is the one between the text that the edits before it lead to and the text of
the user.

A history comes from the events that the session was given. It begins with the first document among
them (`findSome?_given`), and what it holds of others is the beginning of each batch, up to the edit
that did not fit (`there_given`). Both are inductions over moves without runs.
-/

namespace TextSync.Session

variable {peer : Peer} {s t : Session} {m : Move} {moves : List (Peer × Move)}

/-- What the history of a session says is what the session has done: it leads to the text that the
session knows, it holds the edits that were sent and as many others as are counted. Before the
snapshot there are none. -/
structure Recorded (s : Session) : Prop where
  leads : s.phase = .live → History.Leads s.history.base s.history.changes s.content
  own : s.history.editsFrom .here = s.sentEdits
  others : (s.history.editsFrom .there).length = s.tally.applied
  nothingYet : s.phase = .awaitingSnapshot → s.sentEdits = [] ∧ s.tally.applied = 0

theorem recorded_start {settings : Settings} {inbox : Inbox} {editor : Editor} {now : Nat}
    (started : start settings inbox editor now = .ok s) : Recorded s := by
  obtain ⟨-, _, rfl⟩ := start_eq_ok started
  exact ⟨(fun live => nomatch live), rfl, rfl, fun _ => ⟨rfl, rfl⟩⟩

/-- Every deed that touches the text or the counts records it. -/
theorem Deed.recorded (deed : Deed peer s t) (recorded : Recorded s) : Recorded t := by
  cases deed with
  | note | complain | presence | cursor | around =>
    exact ⟨recorded.leads, recorded.own, recorded.others, recorded.nothingYet⟩
  | shutDown ending on =>
    exact ⟨(fun live => nomatch live), recorded.own, recorded.others, fun awaits => nomatch awaits⟩
  | goLive document awaiting =>
    obtain ⟨nothingSent, nothingApplied⟩ := recorded.nothingYet awaiting
    exact ⟨fun _ => .start, nothingSent.symm, nothingApplied.symm, fun awaits => nomatch awaits⟩
  | @send e live found =>
    refine ⟨fun _ => ?_, ?_, ?_, fun awaits => ?_⟩
    · rw [send_history, send_content]
      exact .here (recorded.leads live) found
    · rw [send_history, send_sentEdits]
      exact (History.editsFrom_record_same _ _ _).trans (congrArg (· ++ [e]) recorded.own)
    · rw [send_history, send_applied]
      refine (congrArg List.length (History.editsFrom_record_other ?_ _ _)).trans recorded.others
      decide
    · rw [send_phase] at awaits
      exact nomatch live.symm.trans awaits
  | write live known applied =>
    obtain ⟨content, fits, rfl⟩ := applyRemote_eq_ok applied
    refine ⟨fun _ => ?_, ?_, ?_, fun awaits => nomatch live.symm.trans awaits⟩
    · exact .there (recorded.leads live) (by rw [known]; exact fits)
    · exact (History.editsFrom_record_other (by decide) _ _).trans recorded.own
    · show ((s.history.record .there _).editsFrom .there).length = s.tally.applied + 1
      rw [History.editsFrom_record_same, List.length_append, recorded.others]
      rfl

/-- An action on the editor alone is not recorded. It is found when the session looks. -/
theorem recorded_after (recorded : Recorded s) :
    Recorded (s.after moves) :=
  after_keeps (P := Recorded) (fun _ _ _ holds => move_keeps Deed.recorded
    (fun _ _ before => ⟨before.leads, before.own, before.others, before.nothingYet⟩) holds) recorded

/-! ## Where it comes from -/

/-- The snapshot is taken over once. -/
theorem base_after (past : s.phase ≠ .awaitingSnapshot) (moves : List (Peer × Move)) :
    (s.after moves).history.base = s.history.base := by
  let Kept (u : Session) : Prop := u.phase ≠ .awaitingSnapshot ∧ u.history.base = s.history.base
  have deed {peer : Peer} {u v : Session} (deed : Deed peer u v) (kept : Kept u) : Kept v := by
    refine ⟨deed.onward.ne_awaiting kept.1, ?_⟩
    cases deed with
    | goLive document awaiting => exact absurd awaiting kept.1
    | send live found =>
      rw [send_history]
      exact kept.2
    | write live known applied =>
      obtain ⟨content, -, rfl⟩ := applyRemote_eq_ok applied
      exact kept.2
    | _ => exact kept.2
  exact (after_keeps (P := Kept) (fun _ _ _ before => move_keeps deed (fun _ _ kept => kept) before)
    ⟨past, rfl⟩).2

/-- A session that is live has taken over the first document it was given. -/
theorem findSome?_givenBy (single : ∀ m ∈ moves, m.2.isRun = false)
    (awaiting : s.phase = .awaitingSnapshot) (live : (s.after moves).phase = .live) :
    (s.givenBy moves).findSome? Incoming.document? = some ⟨(s.after moves).history.base⟩ := by
  induction moves generalizing s with
  | nil => exact nomatch awaiting.symm.trans live
  | cons m rest ih =>
    obtain ⟨first, single⟩ := List.forall_mem_cons.1 single
    have effect := effect_move m.1 s first
    have later (still : (s.move m.1 m.2).phase = .awaitingSnapshot) := ih single still live
    rw [givenBy]
    cases handed : s.given? m.2 with
    | none =>
      rw [handed] at effect
      exact later ((effect.stays live).trans awaiting)
    | some event =>
      rw [handed] at effect
      obtain ⟨document, inbox, rfl, taken⟩ | ⟨other, still⟩ := effect.awaiting awaiting
      · have base := base_after (s := s.move m.1 m.2) (by rw [taken]; nofun) rest
        rw [after_cons, base, taken]
        rfl
      · rw [Option.toList_some, List.singleton_append, List.findSome?_cons, other]
        exact later still

/-- A session that is live has taken over the first document it was given, by a run or otherwise. -/
theorem findSome?_given (awaiting : s.phase = .awaitingSnapshot)
    (live : (s.after moves).phase = .live) :
    (s.given moves).findSome? Incoming.document? = some ⟨(s.after moves).history.base⟩ := by
  have same : s.after (s.unrolled moves) = s.after moves := after_unrolled s moves
  rw [← same] at live ⊢
  exact findSome?_givenBy (fun _ => isRun_of_mem_unrolled) awaiting live

/-- What is sent is no edit of others. -/
theorem localChange_there (peer : Peer) (s : Session) :
    (s.localChange peer).2.history.editsFrom .there = s.history.editsFrom .there := by
  unfold localChange
  split
  · split
    · rfl
    · rw [send_history]
      exact History.editsFrom_record_other (by decide) _ _
  · rfl

/-- A batch adds its edits to those of others in the history, up to the first that does not fit. -/
theorem applyAll_there (total done : Nat) (batch : List Edit) (s : Session) :
    ∃ taken, taken <+: batch ∧ (applyAll total done batch s).history.editsFrom .there
      = s.history.editsFrom .there ++ taken := by
  induction batch generalizing done s with
  | nil => exact ⟨[], List.nil_prefix, (List.append_nil _).symm⟩
  | cons e rest ih =>
    unfold applyAll
    split
    · rename_i t applied
      obtain ⟨taken, begins, same⟩ := ih (done + 1) t
      refine ⟨e :: taken, List.cons_prefix_cons.2 ⟨rfl, begins⟩, ?_⟩
      obtain ⟨content, -, rfl⟩ := applyRemote_eq_ok applied
      rw [same]
      show (s.history.record .there e).editsFrom .there ++ taken = _
      rw [History.editsFrom_record_same, List.append_assoc, List.singleton_append]
    · exact ⟨[], List.nil_prefix, (List.append_nil _).symm⟩

/-- An event adds a beginning of its batch to the edits of others. -/
theorem receive_there (recorded : Recorded s) (peer : Peer) (event : Incoming) :
    ∃ taken, taken <+: event.batch ∧ (s.receive peer event).history.editsFrom .there
      = s.history.editsFrom .there ++ taken := by
  have unchanged {h : History} (same : h.editsFrom .there = s.history.editsFrom .there) :
      ∃ taken, taken <+: event.batch ∧ h.editsFrom .there = s.history.editsFrom .there ++ taken :=
    ⟨[], List.nil_prefix, by rw [same, List.append_nil]⟩
  unfold receive
  split
  · rename_i awaiting
    have nothing : s.history.editsFrom .there = [] :=
      List.length_eq_zero_iff.1 (recorded.others.trans (recorded.nothingYet awaiting).2)
    exact unchanged nothing.symm
  · rename_i batch _
    obtain ⟨taken, begins, added⟩ := applyAll_there batch.length 0 batch (s.localChange peer).2
    exact ⟨taken, begins, by rw [applyBatch, added, localChange_there]⟩
  · exact unchanged rfl
  · exact unchanged rfl
  · exact unchanged rfl
  · exact unchanged rfl

/-- Without an event no edit of others gets into the history. -/
theorem Effect.there (effect : Effect peer s m none t) :
    t.history.editsFrom .there = s.history.editsFrom .there := by
  cases effect with
  | act | around | shut => rfl
  | look queued => exact localChange_there peer _
  | report ticker =>
    unfold reportCursor
    split <;> rfl

/-- The edits of others in the history are beginnings of the batches given, one after the other. -/
theorem there_givenBy (recorded : Recorded s) (single : ∀ m ∈ moves, m.2.isRun = false) :
    ∃ taken, List.Forall₂ (· <+: ·) taken ((s.givenBy moves).map Incoming.batch) ∧
      (s.after moves).history.editsFrom .there
        = s.history.editsFrom .there ++ taken.flatten := by
  -- `Recorded` says that a history which a document is about to replace holds no edits yet.
  induction moves generalizing s with
  | nil => exact ⟨[], .nil, (List.append_nil _).symm⟩
  | cons m rest ih =>
    obtain ⟨first, single⟩ := List.forall_mem_cons.1 single
    have effect := effect_move m.1 s first
    have next : Recorded (s.after [m]) := recorded_after recorded
    obtain ⟨taken, begin, same⟩ := ih next single
    rw [after_cons, givenBy]
    cases handed : s.given? m.2 with
    | none =>
      rw [handed] at effect
      exact ⟨taken, begin, same.trans (by rw [← effect.there]; rfl)⟩
    | some event =>
      rw [handed] at effect
      obtain ⟨inbox, -, moved⟩ := effect.eq_receive
      have before : Recorded { s with inbox } :=
        ⟨recorded.leads, recorded.own, recorded.others, recorded.nothingYet⟩
      obtain ⟨here, begins, added⟩ := receive_there before m.1 event
      rw [← moved] at added
      refine ⟨here :: taken, .cons begins begin, same.trans ?_⟩
      show (s.move m.1 m.2).history.editsFrom .there ++ _ = _
      rw [added, List.flatten_cons, List.append_assoc]

/-- The same with runs among the moves. -/
theorem there_given (recorded : Recorded s) (moves : List (Peer × Move)) :
    ∃ taken, List.Forall₂ (· <+: ·) taken ((s.given moves).map Incoming.batch) ∧
      (s.after moves).history.editsFrom .there
        = s.history.editsFrom .there ++ taken.flatten := by
  rw [← after_unrolled]
  exact there_givenBy recorded fun _ => isRun_of_mem_unrolled

/-- **The history of a live session replays to its text.** After any moves, with any answers of the
peer, it begins with the first document that the session was given. It holds just the edits sent and
the edits of others that were written, in the order in which they were made; the latter are
beginnings of the batches that the session was given, one after the other. Each edit fits the text
that the earlier ones lead to, and one of the session's own is the edit between the text before and
the text after it. -/
theorem history_replays {settings : Settings} {inbox : Inbox} {editor : Editor} {now : Nat}
    {s₀ : Session} (started : start settings inbox editor now = .ok s₀)
    (moves : List (Peer × Move)) (live : (s₀.after moves).phase = .live) :
    let s := s₀.after moves
    (s₀.given moves).findSome? Incoming.document? = some ⟨s.history.base⟩ ∧
      s.history.replay = .ok s.content ∧ s.history.editsFrom .here = s.sentEdits ∧
      (s.history.editsFrom .there).length = s.tally.applied ∧
      (∃ taken, List.Forall₂ (· <+: ·) taken ((s₀.given moves).map Incoming.batch) ∧
        s.history.editsFrom .there = taken.flatten) ∧
      ∀ later change earlier, s.history.changes = later ++ change :: earlier →
        ∃ before after, (History.mk s.history.base earlier).replay = .ok before ∧
          change.edit.apply before = .ok after ∧
          (change.origin = .here → Edit.between before after = some change.edit) := by
  intro s
  have begun : s₀.phase = .awaitingSnapshot ∧ s₀.history.editsFrom .there = [] := by
    obtain ⟨-, _, rfl⟩ := start_eq_ok started
    exact ⟨rfl, rfl⟩
  have recorded : Recorded s := recorded_after (recorded_start started)
  have leads := recorded.leads live
  obtain ⟨taken, begin, same⟩ := there_given (recorded_start started) moves
  rw [begun.2, List.nil_append] at same
  refine ⟨findSome?_given begun.1 live, leads.replay, recorded.own, recorded.others,
    ⟨taken, begin, same⟩, ?_⟩
  intro later change earlier split
  rw [split] at leads
  obtain ⟨before, after, far, applied, own⟩ := leads.split
  exact ⟨before, after, far.replay, applied, own⟩

/-- The user types between two batches, the second of which reaches too far, and the peer refuses
what is sent. -/
theorem history_replays_refused : ∃ s₀, start {} (.ofCapacity 1) .fresh 0 = .ok s₀ ∧
    let s := s₀.after [(.agreeing, .step (.receive (.document ⟨['a', 'b']⟩))),
      (.agreeing, .step (.act (.typeText ['x']))),
      (.refusing [], .step (.receive (.edits [.insert 3 ['y'], .delete 9 1, .delete 0 1]))),
      (.agreeing, .step (.act (.setContent ['z']))), (.refusing [], .step .localChange)]
    s.phase = .live ∧ s.content = ['z'] ∧ s.history.base = ['a', 'b'] ∧
      s.history.replay = .ok s.content ∧
      s.sentEdits = [.insert 0 ['x'], .replace 0 4 ['z']] ∧
      s.history.editsFrom .there = [.insert 3 ['y']] ∧ s.tally.applied = 1 := by
  have started : start {} (.ofCapacity 1) .fresh 0 = .ok _ := rfl
  exact ⟨_, started, rfl, rfl, rfl, (history_replays started _ rfl).2.1, rfl, rfl, rfl⟩

end TextSync.Session
