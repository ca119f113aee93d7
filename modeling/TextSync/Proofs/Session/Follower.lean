import TextSync.Outbox
import TextSync.Proofs.Message.RoundTrip
import TextSync.Proofs.Session.Recorded

/-!
# Whoever follows a history arrives at its text

The edits that a session has sent and written since its snapshot, put into batches in any way and
sent as texts, bring a second session that has the same snapshot to the same text, as long as its
own user leaves the text alone. The second session finds nothing amiss and sends nothing back.

On the leading side this rests on the history, which replays to the text (`Recorded`), on the
snapshot being the first document (`findSome?_givenBy`), and on an outbox, which refuses none of the
edits (`Deed.delivered`). On the following side `CaughtUp` says how far the session has come: an
event takes it one batch further (`CaughtUp.receive`), and all else leaves it where it is
(`CaughtUp.effect`).
-/

namespace TextSync

/-- An outbox refuses only what changes nothing. -/
theorem Outbox.verdict_of_isEmpty {e : Edit} (worth : e.isEmpty = false) (listening : Bool) :
    Outbox.verdict listening e = if listening then .delivered else .undeliverable := by
  simp [Outbox.verdict, Edit.check, worth]

namespace Session

variable {peer : Peer} {s t f : Session} {m : Move} {moves : List (Peer × Move)}

/-! ## The leading side -/

/-- All edits sent so far count as sent. -/
structure Delivered (s : Session) : Prop where
  refused : s.tally.refused = 0
  sent : s.tally.sent = s.sentEdits.length

theorem send_delivered {listening : Bool} {e : Edit} (worth : e.isEmpty = false)
    (delivered : Delivered s) : Delivered (s.send (Outbox.peer listening) e) := by
  constructor
  · rw [send, Outbox.peer, Outbox.verdict_of_isEmpty worth]
    cases listening <;> exact delivered.refused
  · rw [send_sentEdits, List.length_append, ← delivered.sent, send, Outbox.peer,
      Outbox.verdict_of_isEmpty worth]
    cases listening <;> rfl

theorem Deed.delivered {listening : Bool} (deed : Deed (Outbox.peer listening) s t)
    (delivered : Delivered s) : Delivered t := by
  cases deed with
  | note | complain | presence | cursor | around | shutDown | goLive =>
    exact ⟨delivered.refused, delivered.sent⟩
  | @send e live found =>
    have before : Delivered (s.accept e) := ⟨delivered.refused, delivered.sent⟩
    exact send_delivered (Edit.isEmpty_of_between found) before
  | write live known applied =>
    obtain ⟨content, -, rfl⟩ := applyRemote_eq_ok applied
    exact ⟨delivered.refused, delivered.sent⟩

theorem delivered_after (channel : ∀ m ∈ moves, ∃ listening, m.1 = Outbox.peer listening)
    (delivered : Delivered s) : Delivered (s.after moves) := by
  refine after_keeps (P := Delivered) (fun m member u before => ?_) delivered
  obtain ⟨listening, same⟩ := channel m member
  rw [same]
  exact move_keeps Deed.delivered (fun _ _ before => ⟨before.refused, before.sent⟩) before

/-! ## The following side -/

/-- The session is at this text after so many edits of others, and all went well. -/
structure CaughtUp (text : Text) (count : Nat) (s : Session) : Prop where
  live : s.phase = .live
  content : s.content = text
  editor : s.editor.content = text
  applied : s.tally.applied = count
  noErrors : s.tally.protocolErrors = 0
  nothingSent : s.sentEdits = []

/-- Whether a move is no change of the text from outside the session. -/
def Move.isPassive (m : Move) : Bool := !m.writesText && !m.action?.any (·.isUserEdit)

theorem perform_content {action : Editor.Action} (same : m.action? = some action)
    (passive : m.isPassive = true) (e : Editor) : (e.perform action).content = e.content := by
  cases Move.eq_act same
  obtain ⟨own, notUser⟩ : (Move.step (.act action)).writesText = false ∧
      action.isUserEdit = false := by
    simpa [Move.isPassive, Move.action?] using passive
  obtain ⟨content, -⟩ | ⟨user, -⟩ := Editor.perform_cases (Move.ne_setContent own) e
  · exact content
  · rw [notUser] at user
    cases user

section CaughtUp

variable {text result : Text} {n : Nat} (caught : CaughtUp text n f)
include caught

theorem CaughtUp.localChange (peer : Peer) : f.localChange peer = (none, f) :=
  localChange_of_inStep caught.live (caught.content.trans caught.editor.symm)

/-- Edits that follow from the text take the session where they lead. -/
theorem CaughtUp.applyAll {batch : List Edit} (fits : Edit.applyEach batch text = .ok result)
    (total done : Nat) : CaughtUp result (n + batch.length) (applyAll total done batch f) := by
  induction batch generalizing f text n done with
  | nil =>
    cases fits
    exact caught
  | cons e rest ih =>
    obtain ⟨next, applied, onward⟩ := Edit.applyEach_cons_eq_ok fits
    have written : CaughtUp next (n + 1) { f with
        editor := (f.editor.setContent next).select (f.editor.selection.remap e next.length)
        content := next
        history := f.history.record .there e
        tally := { f.tally with applied := f.tally.applied + 1 } } :=
      ⟨caught.live, rfl, rfl, congrArg (· + 1) caught.applied, caught.noErrors,
        caught.nothingSent⟩
    have count : n + (e :: rest).length = n + 1 + rest.length := by
      rw [List.length_cons]
      omega
    rw [count]
    unfold Session.applyAll applyRemote
    rw [caught.editor, applied]
    exact ih written onward (done + 1)

theorem CaughtUp.receive {batch : List Edit} (fits : Edit.applyEach batch text = .ok result)
    (peer : Peer) : CaughtUp result (n + batch.length) (f.receive peer (.edits batch)) := by
  have live : f.receive peer (.edits batch) = f.applyBatch peer batch := by
    unfold Session.receive
    rw [caught.live]
  rw [live, applyBatch, caught.localChange]
  exact caught.applyAll fits batch.length 0

/-- Without an event the session stays where it is. -/
theorem CaughtUp.effect (effect : Effect peer f m none t) (passive : m.isPassive = true)
    (live : t.phase = .live) : CaughtUp text n t := by
  obtain ⟨on, known, shown, applied, noErrors, nothingSent⟩ := caught
  cases effect with
  | act action same =>
    exact ⟨on, known, (perform_content same passive f.editor).trans shown, applied, noErrors,
      nothingSent⟩
  | around => exact ⟨on, known, shown, applied, noErrors, nothingSent⟩
  | look queued =>
    have still : CaughtUp text n { f with
        editor := { f.editor with signals := { f.editor.signals with queued } } } :=
      ⟨on, known, shown, applied, noErrors, nothingSent⟩
    rw [still.localChange]
    exact still
  | report ticker =>
    unfold reportCursor
    rw [if_pos on]
    exact ⟨on, known, shown, applied, noErrors, nothingSent⟩
  | shut => cases live

end CaughtUp

/-- Batch by batch. -/
theorem CaughtUp.foldl {text result : Text} {n : Nat} {batches : List (List Edit)}
    (caught : CaughtUp text n f) (fits : Edit.applyEach batches.flatten text = .ok result)
    (peer : Peer) : CaughtUp result (n + batches.flatten.length)
      ((batches.map Incoming.edits).foldl (fun f event => f.receive peer event) f) := by
  induction batches generalizing f text n with
  | nil =>
    cases fits
    exact caught
  | cons batch rest ih =>
    obtain ⟨next, reached, onward⟩ := Edit.applyEach_append_eq_ok fits
    have further := ih (caught.receive reached peer) onward
    rw [List.flatten_cons, List.length_append, ← Nat.add_assoc]
    exact further

/-- Batch by batch, with other moves before, between and after. -/
theorem CaughtUp.after {text result : Text} {n : Nat} {batches : List (List Edit)}
    (caught : CaughtUp text n f)
    (passive : ∀ m ∈ moves, m.2.isRun = false ∧ m.2.isPassive = true)
    (live : (f.after moves).phase = .live)
    (handed : f.givenBy moves = batches.map Incoming.edits)
    (fits : Edit.applyEach batches.flatten text = .ok result) :
    CaughtUp result (n + batches.flatten.length) (f.after moves) := by
  -- Every event is the first of the batches that are left, and takes the text past it.
  induction moves generalizing f text n batches with
  | nil =>
    cases batches with
    | nil =>
      cases fits
      exact caught
    | cons => cases handed
  | cons m rest ih =>
    obtain ⟨⟨single, here⟩, passive⟩ := List.forall_mem_cons.1 passive
    have effect := effect_move m.1 f single
    rw [givenBy] at handed
    cases event : f.given? m.2 with
    | none =>
      rw [event] at effect handed
      have still := caught.effect effect here ((effect.stays live).trans caught.live)
      exact ih still passive live handed fits
    | some next =>
      rw [event] at effect handed
      cases batches with
      | nil => cases handed
      | cons batch later =>
        obtain ⟨rfl, handedLater⟩ := List.cons.inj handed
        obtain ⟨inbox, -, same⟩ := effect.eq_receive
        obtain ⟨between, reached, onward⟩ := Edit.applyEach_append_eq_ok fits
        have taken : CaughtUp text n { f with inbox } := ⟨caught.live, caught.content,
          caught.editor, caught.applied, caught.noErrors, caught.nothingSent⟩
        have further : CaughtUp between (n + batch.length) (f.move m.1 m.2) :=
          same ▸ taken.receive reached m.1
        rw [List.flatten_cons, List.length_append, ← Nat.add_assoc]
        exact ih further passive live handedLater onward

/-- The session awaits its snapshot, and nothing has gone wrong so far. -/
structure Blank (s : Session) : Prop where
  awaiting : s.phase = .awaitingSnapshot
  applied : s.tally.applied = 0
  noErrors : s.tally.protocolErrors = 0
  nothingSent : s.sentEdits = []

theorem Blank.effect (blank : Blank f) (effect : Effect peer f m none t)
    (on : t.phase ≠ .disconnected) : Blank t := by
  have off : f.phase ≠ .live := by simp [blank.awaiting]
  cases effect with
  | act | around => exact ⟨blank.awaiting, blank.applied, blank.noErrors, blank.nothingSent⟩
  | look queued =>
    unfold Session.localChange
    rw [if_neg off]
    exact ⟨blank.awaiting, blank.applied, blank.noErrors, blank.nothingSent⟩
  | report ticker =>
    unfold reportCursor
    rw [if_neg off]
    exact ⟨blank.awaiting, blank.applied, blank.noErrors, blank.nothingSent⟩
  | shut => exact absurd rfl on

theorem Blank.goLive (blank : Blank f) (document : Document) :
    CaughtUp document.content 0 (f.goLive document) :=
  ⟨rfl, rfl, rfl, blank.applied, blank.noErrors, blank.nothingSent⟩

section Blank

variable {document : Document} {result : Text} {batches : List (List Edit)} (blank : Blank f)
  (fits : Edit.applyEach batches.flatten document.content = .ok result)
include blank fits

/-- From the snapshot on, batch by batch. -/
theorem Blank.foldl (peer : Peer) : CaughtUp result batches.flatten.length
    ((.document document :: batches.map Incoming.edits).foldl (fun f event => f.receive peer event)
      f) := by
  have taken : f.receive peer (.document document) = f.goLive document := by
    unfold Session.receive
    rw [blank.awaiting]
  have reached := (blank.goLive document).foldl fits peer
  rw [Nat.zero_add] at reached
  rw [List.foldl_cons, taken]
  exact reached

/-- From the snapshot on, batch by batch, with other moves before, between and after. -/
theorem Blank.after (passive : ∀ m ∈ moves, m.2.isRun = false ∧ m.2.isPassive = true)
    (live : (f.after moves).phase = .live)
    (handed : f.givenBy moves = .document document :: batches.map Incoming.edits) :
    CaughtUp result batches.flatten.length (f.after moves) := by
  induction moves generalizing f with
  | nil => cases handed
  | cons m rest ih =>
    obtain ⟨⟨single, -⟩, passive⟩ := List.forall_mem_cons.1 passive
    have effect := effect_move m.1 f single
    rw [givenBy] at handed
    cases event : f.given? m.2 with
    | none =>
      rw [event] at effect handed
      exact ih (blank.effect effect (connected_of_after live)) passive live handed
    | some first =>
      rw [event] at effect handed
      obtain ⟨rfl, handedLater⟩ := List.cons.inj handed
      obtain ⟨d, inbox, same, taken⟩ | ⟨other, -⟩ := effect.awaiting blank.awaiting
      · cases same
        have waiting : Blank { f with inbox } :=
          ⟨blank.awaiting, blank.applied, blank.noErrors, blank.nothingSent⟩
        have caught : CaughtUp document.content 0 (f.move m.1 m.2) := taken ▸ waiting.goLive document
        have reached := caught.after passive live handedLater fits
        rw [Nat.zero_add] at reached
        exact reached
      · cases other

theorem Blank.caughtUp (passive : ∀ m ∈ moves, m.2.isPassive = true)
    (live : (f.after moves).phase = .live)
    (handed : f.given moves = .document document :: batches.map Incoming.edits) :
    CaughtUp result batches.flatten.length (f.after moves) := by
  have same : f.after (f.unrolled moves) = f.after moves := after_unrolled f moves
  rw [← same] at live ⊢
  refine blank.after fits (fun m member => ⟨isRun_of_mem_unrolled member, ?_⟩) live handed
  exact unrolled_all (P := fun m => m.isPassive = true) (fun _ => rfl) passive member

end Blank

/-- **A follower arrives at the leader's text.** Let a session become live and let anything happen to
it, with an outbox as its peer. Its history since the first document it was given is what it has sent
and what it has written of others, and nothing of it was refused. Cut the history, whose numbers all
fit a word, into batches in any way, write each as a text and read it back: there is an event in each
text. Any other session that is handed the same document and then these events, be it straight away
or among other moves, and whose user leaves the text alone, has the text of the first, counts as many
edits as were made, finds no error and sends nothing. -/
theorem caughtUp_of_history {settings : Settings} {inbox : Inbox} {editor : Editor} {now : Nat}
    {s₀ : Session} (started : start settings inbox editor now = .ok s₀)
    {moves : List (Peer × Move)}
    (channel : ∀ m ∈ moves, ∃ listening, m.1 = Outbox.peer listening)
    (live : (s₀.after moves).phase = .live)
    (portable : ∀ e ∈ (s₀.after moves).history.edits, e.Portable)
    {batches : List (List Edit)} (cut : batches.flatten = (s₀.after moves).history.edits) :
    let s := s₀.after moves
    let snapshot : Document := ⟨s.history.base⟩
    ((s₀.given moves).findSome? Incoming.document? = some snapshot ∧
      s.history.editsFrom .here = s.sentEdits ∧ s.tally.sent = s.sentEdits.length ∧
      s.tally.refused = 0 ∧ s.tally.applied = (s.history.editsFrom .there).length) ∧
    ∃ events : List Incoming,
      batches.map (fun batch => Wire.decodeText Incoming.decode (Incoming.edits batch).toJson.print)
        = events.map .ok ∧
      ∀ {settings : Settings} {inbox : Inbox} {editor : Editor} {now : Nat} {f₀ : Session},
        start settings inbox editor now = .ok f₀ →
        (∀ peer, CaughtUp s.content s.history.edits.length
          ((.document snapshot :: events).foldl (fun f event => f.receive peer event) f₀)) ∧
        ∀ others : List (Peer × Move), (∀ m ∈ others, m.2.isPassive = true) →
          f₀.given others = .document snapshot :: events → (f₀.after others).phase = .live →
          CaughtUp s.content s.history.edits.length (f₀.after others) := by
  intro s snapshot
  have recorded : Recorded s := recorded_after (recorded_start started)
  have begun : s₀.phase = .awaitingSnapshot ∧ Delivered s₀ := by
    obtain ⟨-, _, rfl⟩ := start_eq_ok started
    exact ⟨rfl, rfl, rfl⟩
  have delivered : Delivered s := delivered_after channel begun.2
  have fits : Edit.applyEach batches.flatten snapshot.content = .ok s.content := by
    rw [cut]
    exact (recorded.leads live).replay
  rw [← cut] at portable ⊢
  refine ⟨⟨findSome?_given begun.1 live, recorded.own, delivered.sent, delivered.refused,
    recorded.others.symm⟩, batches.map Incoming.edits, Incoming.map_decodeText_edits portable, ?_⟩
  intro _ _ _ _ f₀ started
  have blank : Blank f₀ := by
    obtain ⟨-, _, rfl⟩ := start_eq_ok started
    exact ⟨rfl, rfl, rfl, rfl⟩
  exact ⟨blank.foldl fits, fun others passive handed live =>
    blank.caughtUp fits passive live handed⟩

/-- The leader sends a change to no one, leaves a misfit out and takes its change back. The follower
is handed an empty batch as well, hears a stray signal and moves its caret. -/
theorem caughtUp_of_history_cut :
    let moves : List (Peer × Move) := [(true, .step (.receive (.document ⟨['a', 'b']⟩))),
      (true, .step (.act (.typeText ['x']))),
      (false, .step (.receive (.edits [.insert 3 ['y'], .delete 9 1]))),
      (true, .step (.act .backspace)), (true, .pass 0)].map fun m => (Outbox.peer m.1, m.2)
    let batches : List (List Edit) := [[.insert 0 ['x']], [], [.insert 3 ['y'], .delete 0 1]]
    let others : List (Peer × Move) := [(.agreeing, .step (.offer (.document ⟨['a', 'b']⟩))),
      (.agreeing, .pass 0), (.agreeing, .stray),
      (.agreeing, .step (.offer (.edits [.insert 0 ['x']]))), (.agreeing, .pass 0),
      (.agreeing, .pass 0), (.agreeing, .step (.receive (.edits []))),
      (.agreeing, .step (.act (.select ⟨1, 2⟩))), (.agreeing, .step .reportCursor),
      (.agreeing, .step (.receive (.edits [.insert 3 ['y'], .delete 0 1])))]
    ∃ s₀ f₀, start {} (.ofCapacity 1) .fresh 0 = .ok s₀ ∧
      start {} (.ofCapacity 1) { Editor.fresh with content := ['u'] } 7 = .ok f₀ ∧
      (∀ m ∈ moves, ∃ listening, m.1 = Outbox.peer listening) ∧
      (s₀.after moves).phase = .live ∧ (s₀.after moves).tally.sent = 2 ∧
      batches.flatten = (s₀.after moves).history.edits ∧
      (∀ e ∈ (s₀.after moves).history.edits, e.Portable) ∧
      f₀.given others = .document ⟨['a', 'b']⟩ :: batches.map Incoming.edits ∧
      CaughtUp ['a', 'b', 'y'] 3 (f₀.after others) := by
  intro moves batches others
  have started : start {} (.ofCapacity 1) .fresh 0 = .ok _ := rfl
  have follows : start {} (.ofCapacity 1) { Editor.fresh with content := ['u'] } 7 = .ok _ := rfl
  have channel : ∀ m ∈ moves, ∃ listening, m.1 = Outbox.peer listening := by
    intro m member
    obtain ⟨m', -, rfl⟩ := List.mem_map.1 member
    exact ⟨m'.1, rfl⟩
  have portable : ∀ e ∈ [Edit.insert 0 ['x'], .insert 3 ['y'], .delete 0 1], e.Portable := by
    decide
  have cut : batches.flatten = [Edit.insert 0 ['x'], .insert 3 ['y'], .delete 0 1] := rfl
  refine ⟨_, _, started, follows, channel, rfl, rfl, cut, portable, rfl, ?_⟩
  obtain ⟨-, events, read, follow⟩ := caughtUp_of_history started channel rfl portable cut
  have decoded : batches.map (fun batch =>
      Wire.decodeText Incoming.decode (Incoming.edits batch).toJson.print)
        = (batches.map Incoming.edits).map .ok := rfl
  obtain rfl : events = batches.map Incoming.edits :=
    (List.map_inj_right fun _ _ => Except.ok.inj).1 (read.symm.trans decoded)
  exact (follow follows).2 others (by decide) rfl rfl

end Session
end TextSync
