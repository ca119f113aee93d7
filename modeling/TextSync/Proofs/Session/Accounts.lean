import TextSync.Proofs.Session.Answers
import TextSync.Proofs.Session.Follower

/-!
# What the counts of a session count

Every count of a session is the number of things that it has done: the edits that were accepted and
those that were refused (`Accounted`), the complaints and the reports of the caret (`Booked`), and
the edits of others that were written into the editor. Of a batch as much is written as fits
(`Edit.fitting`), and nothing but a batch adds to that count (`Effect.applied`).

With an outbox for a peer nothing is refused, because an edit is sent only between texts that
differ. An `Exchange` is a session together with its outbox. As long as someone listens there, all
that the session has told its peer has gone through the outbox, in the same order
(`Exchange.Carried`).
-/

namespace TextSync

/-! ## Batches -/

namespace Edit

variable {e : Edit} {text next : Text}

/-- The edits of a batch that can be made one after the other, up to the first that does not fit. -/
def fitting : List Edit → Text → List Edit
  | [], _ => []
  | e :: rest, text =>
    match e.apply text with
    | .ok text => e :: fitting rest text
    | .error _ => []

theorem fitting_of_ok (rest : List Edit) (applied : e.apply text = .ok next) :
    fitting (e :: rest) text = e :: fitting rest next := by
  simp only [fitting, applied]

theorem fitting_of_error {fault : Fault} (rest : List Edit)
    (refused : e.apply text = .error fault) : fitting (e :: rest) text = [] := by
  simp only [fitting, refused]

/-- A batch is cut before the first edit that does not fit, if there is one. -/
theorem fitting_cut (batch : List Edit) (text : Text) :
    ∃ rest result, batch = fitting batch text ++ rest ∧
      applyEach (fitting batch text) text = .ok result ∧
      ∀ e ∈ rest.head?, ∃ fault, e.apply result = .error fault := by
  induction batch generalizing text with
  | nil => exact ⟨[], text, rfl, rfl, nofun⟩
  | cons e batch ih =>
    cases applied : e.apply text with
    | error fault =>
      rw [fitting_of_error batch applied]
      refine ⟨e :: batch, text, rfl, rfl, fun first member => ?_⟩
      obtain rfl : e = first := Option.some.inj member
      exact ⟨fault, applied⟩
    | ok next =>
      obtain ⟨rest, result, split, reached, ends⟩ := ih next
      rw [fitting_of_ok batch applied, applyEach_of_ok _ applied]
      exact ⟨rest, result, congrArg (e :: ·) split, reached, ends⟩

end Edit

/-! ## Complaints -/

namespace Complaint

/-- A text with another first letter is not the complaint about a refusal. -/
theorem append_ne_refused {first : String} (other : first.toList.head?.any (· ≠ 'L') = true)
    (rest : String) : first ++ rest ≠ Complaint.refused.message := by
  intro same
  have word : Complaint.refused.message.toList.head? = some 'L' := rfl
  have heads := congrArg (·.toList.head?) same
  cases letters : first.toList with
  | nil => simp [letters] at other
  | cons a tail =>
    simp [letters, word] at heads other
    exact other heads

/-- No other complaint reads like the one about a refusal. -/
theorem eq_refused_of_message {c : Complaint} (same : c.message = Complaint.refused.message) :
    c = .refused := by
  cases c with
  | refused => rfl
  | settings fault => cases fault <;> exact absurd same (by decide)
  | noSignals => exact absurd same (by decide)
  | unexpected kind phase =>
    have text : message (.unexpected kind phase)
        = "unexpected " ++ (kind ++ " event while " ++ phase.name) := by
      show "unexpected " ++ kind ++ " event while " ++ phase.name = _
      simp only [String.append_assoc]
    exact absurd (text ▸ same) (append_ne_refused rfl _)
  | misfit index total fault =>
    have text : message (.misfit index total fault) = "dropping transform "
        ++ (toString index ++ " of " ++ toString total ++ ": " ++ fault.message) := by
      show "dropping transform " ++ toString index ++ " of " ++ toString total ++ ": "
        ++ fault.message = _
      simp only [String.append_assoc]
    exact absurd (text ▸ same) (append_ne_refused rfl _)

end Complaint

def Call.isCursor : Call → Bool
  | .cursor _ => true
  | _ => false

/-- Where nothing counts as refused, no refusal is complained of. -/
theorem Answered.ne_refused {calls : List Entry} {accepted refused : Nat}
    (answered : Answered calls accepted refused) (none : refused = 0) {entry : Entry}
    (member : entry ∈ calls) : entry.call ≠ .complain .refused := by
  induction answered with
  | nothing => cases member
  | other apart before ih =>
    obtain rfl | member := List.mem_cons.1 member
    · intro same
      rw [same] at apart
      cases apart
    · exact ih none member
  | accepted yes before ih =>
    obtain rfl | member := List.mem_cons.1 member
    · exact nofun
    · exact ih none member
  | refused before ih => cases none

namespace Session

variable {peer : Peer} {s t : Session} {m : Move} {moves : List (Peer × Move)}
  {event : Option Incoming}

/-! ## Complaints and reports of the caret -/

/-- Complaints and reports of the caret are counted. A complaint is about an error of the other side
or about an edit that it refused. -/
structure Booked (s : Session) : Prop where
  complaints : s.calls.countP (·.call.isComplaint) = s.tally.protocolErrors + s.tally.refused
  cursors : s.calls.countP (·.call.isCursor) = s.tally.cursorReports

/-- A call that is neither need not be counted. -/
theorem Booked.call (booked : Booked s) {c : Call} (complains : c.isComplaint = false)
    (reports : c.isCursor = false) : Booked (s.call c) where
  complaints := (List.countP_cons_of_neg (by simp [complains])).trans booked.complaints
  cursors := (List.countP_cons_of_neg (by simp [reports])).trans booked.cursors

theorem countP_complain (c : Complaint) (s : Session) :
    (s.call (.complain c)).calls.countP (·.call.isComplaint)
      = s.calls.countP (·.call.isComplaint) + 1 := List.countP_cons_of_pos rfl

theorem Booked.protocolError (booked : Booked s) (c : Complaint) : Booked (s.protocolError c) where
  complaints := by
    show (s.call (.complain c)).calls.countP _ = s.tally.protocolErrors + 1 + s.tally.refused
    rw [countP_complain, booked.complaints]
    omega
  cursors := (List.countP_cons_of_neg Bool.false_ne_true).trans booked.cursors

theorem Booked.send (booked : Booked s) (peer : Peer) (e : Edit) : Booked (s.send peer e) := by
  unfold Session.send
  cases peer s.calls e with
  | delivered =>
    have called : Booked (s.call (.send e .delivered)) := booked.call rfl rfl
    exact ⟨called.complaints, called.cursors⟩
  | undeliverable =>
    have called : Booked (s.call (.send e .undeliverable)) := booked.call rfl rfl
    exact ⟨called.complaints, called.cursors⟩
  | refused reason =>
    have called : Booked (s.call (.send e (.refused reason))) := booked.call rfl rfl
    exact ⟨(countP_complain .refused _).trans (congrArg (· + 1) called.complaints),
      (List.countP_cons_of_neg Bool.false_ne_true).trans called.cursors⟩

theorem Deed.booked (deed : Deed peer s t) (booked : Booked s) : Booked t := by
  cases deed with
  | note | around | shutDown | goLive => exact ⟨booked.complaints, booked.cursors⟩
  | complain complaint on => exact booked.protocolError complaint
  | @send e live found =>
    have taken : Booked (s.accept e) := ⟨booked.complaints, booked.cursors⟩
    exact taken.send peer e
  | write live known applied =>
    obtain ⟨content, -, rfl⟩ := applyRemote_eq_ok applied
    exact ⟨booked.complaints, booked.cursors⟩
  | presence payload live => exact booked.call rfl rfl
  | cursor live =>
    exact ⟨(List.countP_cons_of_neg Bool.false_ne_true).trans booked.complaints,
      (List.countP_cons_of_pos rfl).trans (congrArg (· + 1) booked.cursors)⟩

theorem booked_start {settings : Settings} {inbox : Inbox} {editor : Editor} {now : Nat}
    (started : start settings inbox editor now = .ok s) : Booked s := by
  obtain ⟨-, _, rfl⟩ := start_eq_ok started
  exact ⟨rfl, rfl⟩

theorem booked_after (booked : Booked s) (moves : List (Peer × Move)) : Booked (s.after moves) :=
  after_keeps (P := Booked) (fun _ _ _ before => move_keeps Deed.booked
    (fun _ _ kept => ⟨kept.complaints, kept.cursors⟩) before) booked

/-! ## What is written -/

/-- The edits of others that a session writes when it is handed an event. -/
def writes (s : Session) : Option Incoming → List Edit
  | some (.edits batch) => if s.phase = .live then Edit.fitting batch s.editor.content else []
  | _ => []

/-- The edits of others that are written by moves, in order, if none of the moves is a run. -/
def writtenBy (s : Session) : List (Peer × Move) → List Edit
  | [] => []
  | m :: rest => s.writes (s.given? m.2) ++ (s.move m.1 m.2).writtenBy rest

/-- Of a batch as much is written as fits, and all of this counts. -/
theorem applyAll_fitting (total done : Nat) (batch : List Edit) (s : Session) :
    let t := applyAll total done batch s
    Edit.applyEach (Edit.fitting batch s.editor.content) s.editor.content = .ok t.editor.content ∧
      t.tally.applied = s.tally.applied + (Edit.fitting batch s.editor.content).length := by
  induction batch generalizing done s with
  | nil => exact ⟨rfl, rfl⟩
  | cons e rest ih =>
    cases applied : e.apply s.editor.content with
    | error fault =>
      rw [applyAll_of_error total done rest applied, Edit.fitting_of_error rest applied]
      exact ⟨rfl, rfl⟩
    | ok next =>
      obtain ⟨reached, counted⟩ := ih (done + 1) (s.written e next)
      rw [applyAll_of_ok total done rest applied, Edit.fitting_of_ok rest applied,
        Edit.applyEach_of_ok _ applied]
      refine ⟨reached, counted.trans ?_⟩
      show s.tally.applied + 1 + _ = s.tally.applied + (_ + 1)
      rw [Nat.add_assoc, Nat.add_comm 1]
      rfl

theorem localChange_applied (peer : Peer) (s : Session) :
    (s.localChange peer).2.tally.applied = s.tally.applied := by
  unfold localChange
  split
  · split
    · rfl
    · exact send_applied
  · rfl

theorem applyBatch_fitting (peer : Peer) (batch : List Edit) (s : Session) :
    let t := s.applyBatch peer batch
    Edit.applyEach (Edit.fitting batch s.editor.content) s.editor.content = .ok t.editor.content ∧
      t.tally.applied = s.tally.applied + (Edit.fitting batch s.editor.content).length := by
  have written := applyAll_fitting batch.length 0 batch (s.localChange peer).2
  rw [localChange_editor, localChange_applied] at written
  exact written

theorem receive_applied (peer : Peer) (event : Incoming) (s : Session) :
    (s.receive peer event).tally.applied = s.tally.applied + (s.writes (some event)).length := by
  unfold receive
  split
  · rfl
  · rename_i batch live
    rw [(applyBatch_fitting peer batch s).2, writes, if_pos live]
  · rfl
  · rfl
  · rename_i ended
    have off : s.phase ≠ .live := by simp [ended]
    unfold writes
    split
    · rw [if_neg off]
      rfl
    · rfl
  · rename_i _ misplaced _ _
    unfold writes
    split
    · rename_i batch same
      split
      · rename_i live
        cases same
        exact absurd rfl (misplaced batch live)
      · rfl
    · rfl

/-- Nothing but a batch adds to what is written. -/
theorem Effect.applied (effect : Effect peer s m event t) :
    t.tally.applied = s.tally.applied + (s.writes event).length := by
  cases effect with
  | act | around | shut => rfl
  | given event inbox taken => exact receive_applied peer event _
  | look queued => exact localChange_applied peer _
  | report ticker =>
    unfold reportCursor
    split <;> rfl

/-- A batch that a live session is handed is written up to the first edit that does not fit. -/
theorem Effect.surface {batch : List Edit} (effect : Effect peer s m event t)
    (handed : event = some (.edits batch)) (live : s.phase = .live) :
    ∃ rest, batch = s.writes event ++ rest ∧
      Edit.applyEach (s.writes event) s.editor.content = .ok t.editor.content ∧
      ∀ e ∈ rest.head?, ∃ fault, e.apply t.editor.content = .error fault := by
  subst handed
  obtain ⟨inbox, -, rfl⟩ := effect.eq_receive
  have received : { s with inbox }.receive peer (.edits batch)
      = { s with inbox }.applyBatch peer batch := by
    simp only [receive, live]
  have writes : s.writes (some (.edits batch)) = Edit.fitting batch s.editor.content := if_pos live
  have written : Edit.applyEach (Edit.fitting batch s.editor.content) s.editor.content
      = .ok ({ s with inbox }.applyBatch peer batch).editor.content :=
    (applyBatch_fitting peer batch { s with inbox }).1
  obtain ⟨rest, result, split, reached, ends⟩ := Edit.fitting_cut batch s.editor.content
  obtain rfl := Except.ok.inj (written.symm.trans reached)
  rw [received, writes]
  exact ⟨rest, split, written, ends⟩

theorem applied_after (single : ∀ m ∈ moves, m.2.isRun = false) :
    (s.after moves).tally.applied = s.tally.applied + (s.writtenBy moves).length := by
  induction moves generalizing s with
  | nil => rfl
  | cons m rest ih =>
    obtain ⟨first, single⟩ := List.forall_mem_cons.1 single
    rw [after_cons, ih single, (effect_move m.1 s first).applied, writtenBy, List.length_append,
      Nat.add_assoc]

/-! ## Calls that reach an outbox -/

/-- The calls made from one moment to a later one are those that the later moment has more. -/
theorem callsSince_of_append {new : List Entry} (called : t.calls = new ++ s.calls) :
    s.callsSince t = new.reverse := by
  have more : t.calls.length - s.calls.length = new.length := by simp [called]
  rw [callsSince, more, called, List.take_left]

/-- Calls are only ever added. As long as someone listens, each of them is an action. -/
def Reached (listening : Bool) (s t : Session) : Prop :=
  ∃ new, t.calls = new ++ s.calls ∧
    (listening = true → ∀ entry ∈ new, entry.call.outgoing?.isSome = true)

theorem Reached.refl (listening : Bool) (s : Session) : Reached listening s s :=
  ⟨[], rfl, fun _ => nofun⟩

theorem Reached.trans {listening : Bool} {u : Session} (first : Reached listening s t)
    (second : Reached listening t u) : Reached listening s u := by
  obtain ⟨earlier, called, reach⟩ := first
  obtain ⟨later, calledLater, reachLater⟩ := second
  refine ⟨later ++ earlier, ?_, fun hears entry member => ?_⟩
  · rw [calledLater, called, List.append_assoc]
  · obtain late | early := List.mem_append.1 member
    · exact reachLater hears entry late
    · exact reach hears entry early

theorem reached_call {listening : Bool} {call : Call} (called : t.calls = ⟨s.now, call⟩ :: s.calls)
    (reaches : listening = true → call.outgoing?.isSome = true) : Reached listening s t := by
  refine ⟨[⟨s.now, call⟩], called, fun hears entry member => ?_⟩
  obtain rfl := List.mem_singleton.1 member
  exact reaches hears

/-- An edit is sent only between texts that differ, so it is not refused. -/
theorem reached_send {listening : Bool} {e : Edit} (found : s.pending = some e) :
    Reached listening s ((s.accept e).send (Outbox.peer listening) e) := by
  have worth := Edit.isEmpty_of_between found
  have answer : Outbox.peer listening (s.accept e).calls e
      = if listening then .delivered else .undeliverable :=
    Outbox.verdict_of_isEmpty worth listening
  unfold send
  rw [answer]
  cases listening with
  | false => exact reached_call rfl nofun
  | true => exact reached_call rfl fun _ => rfl

theorem Deed.reached {listening : Bool} (deed : Deed (Outbox.peer listening) s t) :
    Reached listening s t := by
  cases deed with
  | note | around | shutDown | goLive => exact .refl listening s
  | complain | presence | cursor => exact reached_call rfl fun _ => rfl
  | send live found => exact reached_send found
  | write live known applied =>
    obtain ⟨content, -, rfl⟩ := applyRemote_eq_ok applied
    exact .refl listening s

theorem move_reached (listening : Bool) (s : Session) (m : Move) :
    Reached listening s (s.move (Outbox.peer listening) m) :=
  move_keeps (P := Reached listening s) (fun deed before => before.trans deed.reached)
    (fun _ _ before => before) (.refl listening s)

end Session

/-! ## Sessions with an outbox -/

/-- A session whose peer is the far end of an outbox, and what has been taken out there so far. -/
structure Exchange where
  session : Session
  outbox : Outbox
  taken : List Outgoing

namespace Exchange

/-- A session with an outbox that nothing has gone into. -/
def ofSession (s : Session) : Exchange := ⟨s, .fresh, []⟩

/-- What can happen: something to the session, or at the far end of the outbox. -/
inductive Move where
  | move (move : Session.Move)
  | drain
  | close

def move (x : Exchange) : Move → Exchange
  | .move m =>
    let s := x.session.move (Outbox.peer x.outbox.listening) m
    let calls := (x.session.callsSince s).map (·.call)
    { x with session := s, outbox := calls.foldl Outbox.carry x.outbox }
  | .drain => { x with outbox := x.outbox.drain.2, taken := x.taken ++ x.outbox.drain.1 }
  | .close => { x with outbox := x.outbox.close }

def after (x : Exchange) (moves : List Move) : Exchange := moves.foldl move x

/-- All that has gone through the outbox, in order. -/
def carried (x : Exchange) : List Outgoing := x.taken ++ x.outbox.queued

/-- All that the session has told its peer, in order. A call that does not reach the peer is no
action. -/
def told (x : Exchange) : List (Option Outgoing) :=
  x.session.calls.reverse.map (·.call.outgoing?)

end Exchange

namespace Outbox

variable {calls : List Call} {o : Outbox}

/-- What goes into an outbox while someone listens stays in it, in order. -/
theorem foldl_carry_of_listening (listening : o.listening = true)
    (reach : ∀ c ∈ calls, c.outgoing?.isSome = true) :
    (calls.foldl carry o).queued.map some = o.queued.map some ++ calls.map Call.outgoing? := by
  induction calls generalizing o with
  | nil => exact (List.append_nil _).symm
  | cons c rest ih =>
    obtain ⟨first, reach⟩ := List.forall_mem_cons.1 reach
    obtain ⟨action, reaches⟩ := Option.isSome_iff_exists.1 first
    have put : o.carry c = { o with queued := o.queued ++ [action] } := by
      simp [carry, reaches, Outbox.put, listening]
    have later := ih (o := { o with queued := o.queued ++ [action] }) listening reach
    rw [List.foldl_cons, put, later, List.map_cons, reaches]
    simp

/-- With no one to listen nothing goes in. -/
theorem foldl_carry_of_deaf (deaf : o.listening = false) (calls : List Call) :
    calls.foldl carry o = o := by
  induction calls with
  | nil => rfl
  | cons c rest ih =>
    have lost : o.carry c = o := by
      unfold carry
      split
      · simp [put, deaf]
      · rfl
    rw [List.foldl_cons, lost, ih]

end Outbox

namespace Exchange

variable {x : Exchange} {m : Move} {moves : List Move}

/-- Nothing has been refused, and all that was told has gone through the outbox as long as someone
listened. -/
structure Carried (x : Exchange) : Prop where
  delivered : Session.Delivered x.session
  accounted : Session.Accounted x.session
  listening : x.outbox.listening = true → x.carried.map some = x.told
  upTo : x.carried.map some <+: x.told

theorem carried_move (carried : Carried x) (m : Session.Move) : Carried (x.move (.move m)) := by
  let peer := Outbox.peer x.outbox.listening
  let s := x.session.move peer m
  let next := x.move (.move m)
  have delivered : Session.Delivered (x.session.after [(peer, m)]) := Session.delivered_after
    (fun _ member => ⟨_, congrArg Prod.fst (List.mem_singleton.1 member)⟩) carried.delivered
  have accounted : Session.Accounted s := Session.accounted_after carried.accounted [(peer, m)]
  obtain ⟨new, called, reach⟩ : Session.Reached x.outbox.listening x.session s :=
    Session.move_reached x.outbox.listening x.session m
  have told : next.told = x.told ++ new.reverse.map (·.call.outgoing?) := by
    show s.calls.reverse.map _ = _
    rw [called, List.reverse_append, List.map_append]
    rfl
  have outbox : next.outbox = (new.reverse.map (·.call)).foldl Outbox.carry x.outbox := by
    show ((x.session.callsSince s).map (·.call)).foldl _ _ = _
    rw [Session.callsSince_of_append called]
  cases hears : x.outbox.listening with
  | false =>
    have same : next.outbox = x.outbox := outbox.trans (Outbox.foldl_carry_of_deaf hears _)
    have before : next.carried = x.carried := congrArg (x.taken ++ ·.queued) same
    refine ⟨delivered, accounted, fun listening => ?_, ?_⟩
    · have still : next.outbox.listening = true := listening
      rw [same, hears] at still
      cases still
    · show next.carried.map some <+: next.told
      rw [before, told]
      exact carried.upTo.trans (List.prefix_append _ _)
  | true =>
    have reaches : ∀ c ∈ new.reverse.map (·.call), c.outgoing?.isSome = true := by
      intro c member
      obtain ⟨entry, listed, rfl⟩ := List.mem_map.1 member
      exact reach hears entry (List.mem_reverse.1 listed)
    have queued := Outbox.foldl_carry_of_listening hears reaches
    have all : next.carried.map some = next.told := by
      show (x.taken ++ next.outbox.queued).map some = _
      rw [outbox, List.map_append, queued, ← List.append_assoc, ← List.map_append, told,
        ← carried.listening hears, List.map_map]
      rfl
    exact ⟨delivered, accounted, fun _ => all, all ▸ List.prefix_rfl⟩

theorem Carried.move (carried : Carried x) (m : Move) : Carried (x.move m) := by
  cases m with
  | move m => exact carried_move carried m
  | drain =>
    have same : (x.move .drain).carried = x.carried := List.append_nil _
    refine ⟨carried.delivered, carried.accounted, ?_, ?_⟩
    · rw [same]
      exact carried.listening
    · rw [same]
      exact carried.upTo
  | close => exact ⟨carried.delivered, carried.accounted, nofun, carried.upTo⟩

theorem Carried.after (carried : Carried x) (moves : List Move) : Carried (x.after moves) := by
  induction moves generalizing x with
  | nil => exact carried
  | cons m rest ih => exact ih (carried.move m)

theorem carried_ofSession {settings : Settings} {inbox : Inbox} {editor : Editor} {now : Nat}
    {s : Session} (started : Session.start settings inbox editor now = .ok s) :
    Carried (ofSession s) := by
  obtain ⟨-, _, rfl⟩ := Session.start_eq_ok started
  exact ⟨⟨rfl, rfl⟩, .nothing, fun _ => rfl, List.prefix_rfl⟩

end Exchange

namespace Session

/-- **The counts account for all that is done.** Whatever happens to a session, and however its peer
answers: it counts as sent the edits that were accepted and as refused those that were refused; it
complains as often as there were errors of the other side and refusals together, and reports the
caret as often as it says. It counts as applied the edits that were written out of the batches that
it was handed while live, each of which it writes up to the first edit that does not fit.

With an outbox nothing counts as refused, and no one is ever told of a refusal. What has gone
through the outbox is a beginning of what the session has told its peer, and all of it as long as
someone listens. -/
theorem tally_accounts {settings : Settings} {inbox : Inbox} {editor : Editor} {now : Nat}
    {s₀ : Session} (started : start settings inbox editor now = .ok s₀) :
    (∀ moves : List (Peer × Move),
      let s := s₀.after moves
      s.tally.sent = s.verdicts.countP (fun verdict => !verdict.isRefusal) ∧
        s.tally.refused = s.verdicts.countP Verdict.isRefusal ∧
        s.calls.countP (·.call.isComplaint) = s.tally.protocolErrors + s.tally.refused ∧
        s.calls.countP (·.call.isCursor) = s.tally.cursorReports ∧
        s.tally.applied = (s₀.writtenBy (s₀.unrolled moves)).length ∧
        ∀ peer m batch, m.isRun = false → s.given? m = some (.edits batch) → s.phase = .live →
          let t := s.move peer m
          ∃ rest, batch = s.writes (s.given? m) ++ rest ∧
            Edit.applyEach (s.writes (s.given? m)) s.editor.content = .ok t.editor.content ∧
            ∀ e ∈ rest.head?, ∃ fault, e.apply t.editor.content = .error fault) ∧
      ∀ moves : List Exchange.Move,
        let x := (Exchange.ofSession s₀).after moves
        x.session.tally.refused = 0 ∧
          (∀ entry ∈ x.session.calls, ∀ c, entry.call = .complain c →
            c.message ≠ Complaint.refused.message) ∧
          x.carried.map some <+: x.told ∧
          (x.outbox.listening = true → x.carried.map some = x.told) := by
  refine ⟨fun moves => ?_, fun moves => ?_⟩
  · have accounted := accounted_after (accounted_start started) moves
    have booked := booked_after (booked_start started) moves
    refine ⟨accounted.counts.1, accounted.counts.2, booked.complaints, booked.cursors, ?_, ?_⟩
    · have written : (s₀.after (s₀.unrolled moves)).tally.applied
          = s₀.tally.applied + (s₀.writtenBy (s₀.unrolled moves)).length :=
        applied_after fun _ member => isRun_of_mem_unrolled member
      have nothing : s₀.tally.applied = 0 := by
        obtain ⟨-, _, rfl⟩ := start_eq_ok started
        rfl
      rw [after_unrolled, nothing, Nat.zero_add] at written
      exact written
    · intro peer m batch single handed live t
      exact (effect_move peer (s₀.after moves) single).surface handed live
  · have carried := (Exchange.carried_ofSession started).after moves
    refine ⟨carried.delivered.refused, fun entry member c same read => ?_, carried.upTo,
      carried.listening⟩
    rw [Complaint.eq_refused_of_message read] at same
    exact carried.accounted.ne_refused carried.delivered.refused member same

/-- One edit is refused and one accepted, a batch is cut, an event comes too early and the caret is
reported. With an outbox that is closed before the caret is reported, all but the report goes
through. -/
theorem tally_accounts_cut :
    let moves : List (Peer × Move) := [(.agreeing, .step (.receive .disconnect)),
      (.agreeing, .step (.offer (.document ⟨['a', 'b']⟩))), (.agreeing, .pass 0),
      (.agreeing, .step (.act (.typeText ['x']))),
      (.refusing ['n'], .step (.receive (.edits [.delete 0 1, .delete 9 1, .delete 0 1]))),
      (.agreeing, .step (.act (.typeText ['y']))), (.agreeing, .pass 0),
      (.agreeing, .step .reportCursor)]
    let exchange : List Exchange.Move := [.move (.step (.receive .disconnect)), .drain,
      .move (.step (.receive (.document ⟨['a', 'b']⟩))), .move (.step (.act (.typeText ['x']))),
      .move (.step (.receive (.edits [.delete 0 1, .delete 9 1])))]
    ∃ s₀, start {} (.ofCapacity 1) .fresh 0 = .ok s₀ ∧
      let s := s₀.after moves
      let x := (Exchange.ofSession s₀).after exchange
      let y := (Exchange.ofSession s₀).after (exchange ++ [.close, .move (.step .reportCursor)])
      s.tally = ⟨1, 1, 1, 2, 1⟩ ∧ s.calls.countP (·.call.isComplaint) = 2 + 1 ∧
        s.tally.applied = [Edit.delete 0 1].length ∧ x.session.tally.refused = 0 ∧
        x.taken = [.error "unexpected disconnect event while AwaitingSnapshot".toList] ∧
        x.outbox.queued = [.edit (.insert 0 ['x']),
          .error (Complaint.misfit 2 2 (.outOfBounds 9 1 2)).message.toList] ∧
        x.carried.map some = x.told ∧ y.carried = x.carried ∧ y.carried.map some <+: y.told ∧
        y.told = x.told ++ [some (.cursor 0)] := by
  intro moves exchange
  have started : start {} (.ofCapacity 1) .fresh 0 = .ok _ := rfl
  obtain ⟨counts, channel⟩ := tally_accounts started
  obtain ⟨-, -, complaints, -, applied, -⟩ := counts moves
  obtain ⟨none, -, -, all⟩ := channel exchange
  obtain ⟨-, -, upTo, -⟩ := channel (exchange ++ [.close, .move (.step .reportCursor)])
  exact ⟨_, started, rfl, complaints, applied, none, rfl, rfl, all rfl, rfl, upTo, rfl⟩

end Session
end TextSync
