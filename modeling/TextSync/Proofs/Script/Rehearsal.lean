import TextSync.Proofs.Session.Accounts
import TextSync.Proofs.Session.Rested
import TextSync.Proofs.Wire.Decoding
import TextSync.Script.Replay

/-!
# A replay is its script, step by step

In a replay three parties take turns: the script puts events into an inbox and changes the editor,
the loop of the session finds out what there is to do, and time passes. The main statement says that
none of this matters. A replay comes to what the handlers make of a session when they are called for
one step after the other (`rehearse`), without a loop, a queue or a clock.

The reason is that the session is at rest before every step (`Session.Rested`). A step then leaves
at most one thing to do, for which there is room and time, and after that the session is at rest
again (`steps_cons`). What the loop adds to this, the reports of the caret and the notices, is not
in the essence of the session. The transcript is compared with the calls of the session alone
(`Transcribed`).
-/

namespace TextSync

/-! ## The rehearsal -/

def Outgoing.isCursor : Outgoing → Bool
  | .cursor _ => true
  | _ => false

namespace Script

open Wire (decodeText)

variable {s t : Session} {step : Step} {r : Replay}

def Step.isRemote : Step → Bool
  | .remote _ => true
  | _ => false

/-- What a step is for a session: an event is received, after a change by the user the session
looks at the editor, and a pause is nothing. -/
def Step.rehearse (s : Session) : Step → Session
  | .remote event => s.receive (Outbox.peer true) event
  | .typeText text => ((s.act (.typeText text)).localChange (Outbox.peer true)).2
  | .backspace => ((s.act .backspace).localChange (Outbox.peer true)).2
  | .select selection => s.act (.select selection)
  | .wait _ => s

/-- A script step by step, up to an event for which no one is there any more. At the end the session
is shut down, unless it has ended. -/
def rehearse : List Step → Session → Session
  | [], s => s.leave .inboxClosed
  | step :: rest, s =>
    if step.isRemote = true ∧ s.phase = .disconnected then s else rehearse rest (step.rehearse s)

theorem outbox_timeless (listening : Bool) : (Outbox.peer listening).Timeless := fun _ _ => rfl

theorem rehearse_disconnected (steps : List Step) (s : Session) :
    (rehearse steps s).phase = .disconnected := by
  fun_induction rehearse steps s with
  | case1 s =>
    unfold Session.leave
    split
    · assumption
    · rfl
  | case2 step rest s ended => exact ended.2
  | case3 step rest s goes ih => exact ih

/-- What a step makes of a session depends on the essence of the session alone. -/
theorem Step.rehearse_essence (step : Step) (same : t.essence = s.essence) :
    (step.rehearse t).essence = (step.rehearse s).essence := by
  have look (a : Editor.Action) :
      ((t.act a).localChange (Outbox.peer true)).2.essence
        = ((s.act a).localChange (Outbox.peer true)).2.essence :=
    Session.essence_localChange (outbox_timeless true) (Session.essence_act a same)
  cases step with
  | remote event => exact Session.essence_receive (outbox_timeless true) event same
  | typeText text => exact look (.typeText text)
  | backspace => exact look .backspace
  | select selection => exact Session.essence_act (.select selection) same
  | wait time => exact same

theorem rehearse_essence (steps : List Step) (same : t.essence = s.essence) :
    (rehearse steps t).essence = (rehearse steps s).essence := by
  induction steps generalizing s t with
  | nil => exact Session.essence_leave .inboxClosed same
  | cons step rest ih =>
    have phase : t.phase = s.phase := congrArg (·.phase) same
    unfold rehearse
    rw [phase]
    split
    · exact same
    · exact ih (step.rehearse_essence same)

/-! ## The replay -/

/-- A turn of the replay that comes to a step of the script, and leaves the session at rest. -/
def Comes (step : Step) (s t : Session) : Prop :=
  t.essence = (step.rehearse s).essence ∧ t.Rested

/-- A session whose text cannot be typed into is what it is after typing. -/
theorem act_of_readOnly {a : Editor.Action} (user : a.isUserEdit = true)
    (readOnly : s.editor.editable = false) : s.act a = s := by
  have refused : s.editor.perform a = s.editor := by
    simp [Editor.perform, Editor.accepts, user, readOnly]
  rw [Session.act, refused]

/-- A step of a replay, with the session at rest before it, is the step of the rehearsal. -/
theorem steps_cons (rested : r.session.Rested)
    (goes : ¬ (step.isRemote = true ∧ r.session.phase = .disconnected)) (rest : List Step) :
    ∃ next : Replay, Replay.steps (step :: rest) r = Replay.steps rest next ∧
      Comes step r.session next.session := by
  have timeless := outbox_timeless true
  cases step with
  | remote event =>
    have on : r.session.phase ≠ .disconnected := fun ended => goes ⟨rfl, ended⟩
    have receiving : r.session.inbox.receiving = true := rested.receives.2 on
    refine ⟨_, if_pos receiving, ?_⟩
    exact rested.run_receive on timeless Replay.turn event
  | typeText text =>
    have typed := rested.run_act timeless Replay.turn (a := .typeText text) (.edit rfl)
    cases editable : r.session.editor.editable with
    | true =>
      refine ⟨_, if_pos editable, ?_⟩
      exact typed
    | false =>
      rw [act_of_readOnly rfl editable] at typed
      refine ⟨_, if_neg (by simp [editable]), ?_⟩
      show _ = ((r.session.act (.typeText text)).localChange _).2.essence ∧ _
      rw [act_of_readOnly rfl editable]
      exact typed
  | backspace => exact ⟨_, rfl, rested.run_act timeless Replay.turn (a := .backspace) (.edit rfl)⟩
  | select selection =>
    have selected : (r.session.act (.select selection)).Rested := rested.withSelection _
    exact ⟨_, rfl, selected.run_self timeless Replay.turn⟩
  | wait time =>
    obtain ⟨paused, waited⟩ := rested.run_self timeless (Clock.pause time)
    obtain ⟨turned, after⟩ := waited.run_self timeless Replay.turn
    exact ⟨_, rfl, turned.trans paused, after⟩

/-- An event for which no one is there ends the replay. -/
theorem steps_ended (rested : r.session.Rested) (remote : step.isRemote = true)
    (ended : r.session.phase = .disconnected) (rest : List Step) :
    (Replay.steps (step :: rest) r).session = r.session := by
  cases step with
  | remote event =>
    have gone : r.session.inbox.receiving = false := by
      simpa [ended] using rested.receives
    unfold Replay.steps
    simp [Replay.say, gone]
  | typeText | backspace | select | wait => cases remote

/-- **A replay comes to its rehearsal.** -/
theorem finish_essence (rested : r.session.Rested) (steps : List Step) :
    (r.steps steps).finish.session.essence = (rehearse steps r.session).essence := by
  have finish {r : Replay} (rested : r.session.Rested) :
      r.finish.session.essence = (r.session.leave .inboxClosed).essence :=
    rested.run_closed (outbox_timeless true) 0
  induction steps generalizing r with
  | nil => exact finish rested
  | cons step rest ih =>
    unfold rehearse
    split
    · rename_i late
      have same := steps_ended rested late.1 late.2 rest
      rw [finish (same ▸ rested), same]
      exact congrArg Session.essence (if_pos late.2)
    · rename_i goes
      obtain ⟨next, onward, comes, still⟩ := steps_cons rested goes rest
      rw [onward, ih still]
      exact rehearse_essence rest comes

/-! ## What is told -/

/-- What a session has told its peer so far, in order. -/
def actions (s : Session) : List Outgoing := s.calls.reverse.filterMap (·.call.outgoing?)

/-- What a session has told its peer so far, but for the reports of the caret. -/
def deeds (s : Session) : List Outgoing := (actions s).filter fun action => !action.isCursor

/-- What is told stays the same, but for the reports of the caret, if only the times are changed and
calls left out that report it or tell nothing. -/
theorem filterMap_kept {keep : Entry → Option Entry}
    (kept : ∀ time call, ((keep ⟨time, call⟩).bind fun e => e.call.outgoing?)
      = call.outgoing?.filter fun action => !action.isCursor) (s : Session) :
    (s.calls.filterMap keep).reverse.filterMap (·.call.outgoing?) = deeds s := by
  rw [← List.filterMap_reverse, List.filterMap_filterMap, deeds, actions, List.filter_filterMap]
  exact congrArg (fun f => s.calls.reverse.filterMap f) (funext fun e => kept e.time e.call)

/-- The reports of the caret are not in the essence, all else that was told is. -/
theorem actions_essence (s : Session) : actions s.essence = deeds s := by
  refine filterMap_kept (fun time call => ?_) s
  cases call with
  | send edit verdict => cases verdict <;> rfl
  | cursor | complain | presence => rfl

/-- The session without its reports of the caret. -/
def unreported (s : Session) : Session :=
  { s with
    tally := { s.tally with cursorReports := 0 }
    calls := s.calls.filter fun entry => !entry.call.isCursor }

theorem actions_unreported (s : Session) : actions (unreported s) = deeds s := by
  show (s.calls.filter _).reverse.filterMap _ = _
  rw [← List.filterMap_eq_filter]
  refine filterMap_kept (fun time call => ?_) s
  cases call with
  | send edit verdict => cases verdict <;> rfl
  | cursor | complain | presence => rfl

/-- The handlers do not see what was reported. -/
theorem unseen_unreported (listening : Bool) :
    Session.Unseen unreported (Outbox.peer listening) (Outbox.peer listening) where
  phase _ := rfl
  pending _ := rfl
  text _ := rfl
  note _ _ := rfl
  complain _ _ := rfl
  send e s := by
    show unreported ((s.accept e).recordSend e (Outbox.verdict listening e))
      = ((unreported s).accept e).recordSend e (Outbox.verdict listening e)
    cases Outbox.verdict listening e <;> rfl
  write _ _ _ := rfl
  goLive _ _ := rfl
  presence _ _ := rfl

theorem Step.rehearse_unreported (step : Step) (s : Session) :
    step.rehearse (unreported s) = unreported (step.rehearse s) := by
  have look (a : Editor.Action) :
      (((unreported s).act a).localChange (Outbox.peer true)).2
        = unreported ((s.act a).localChange (Outbox.peer true)).2 :=
    congrArg Prod.snd ((unseen_unreported true).localChange (s.act a))
  cases step with
  | remote event => exact (unseen_unreported true).receive fun _ _ => rfl
  | typeText text => exact look (.typeText text)
  | backspace => exact look .backspace
  | select | wait => rfl

/-- A rehearsal reports no caret. -/
theorem rehearse_unreported (steps : List Step) (s : Session) :
    rehearse steps (unreported s) = unreported (rehearse steps s) := by
  induction steps generalizing s with
  | nil => exact (unseen_unreported true).leave rfl
  | cons step rest ih =>
    unfold rehearse
    have phase : (unreported s).phase = s.phase := rfl
    rw [phase]
    split
    · rfl
    · rw [step.rehearse_unreported]
      exact ih (step.rehearse s)

/-! ## The transcript -/

/-- The line of the transcript that tells of an action. -/
def Line.action (action : Outgoing) : Line := .own s!"-> {describe action}"

/-- Whether a line tells of an action. -/
def Line.isAction : Line → Bool
  | .own text => text.toList.take 3 == "-> ".toList
  | .session _ => false

/-- The beginning of a line says what it tells of. -/
theorem Line.isAction_append (first rest : String) (long : 3 ≤ first.toList.length) :
    Line.isAction (.own (first ++ rest)) = (first.toList.take 3 == "-> ".toList) := by
  show ((first ++ rest).toList.take 3 == _) = _
  rw [String.toList_append, List.take_append_of_le_length long]

theorem Line.isAction_action (action : Outgoing) : (Line.action action).isAction = true :=
  Line.isAction_append "-> " (describe action) (by decide)

/-- The transcript tells of all actions so far, the latest first, and of no others. -/
def Transcribed (r : Replay) : Prop :=
  r.lines.filter Line.isAction = (actions r.session).reverse.map Line.action

theorem Transcribed.say (told : Transcribed r) {text : String}
    (other : Line.isAction (.own text) = false) : Transcribed (r.say text) := by
  show (Line.own text :: r.lines).filter Line.isAction = _
  rw [List.filter_cons_of_neg (by simp [other])]
  exact told

/-- What is done to a session without a call is not told of. -/
theorem Transcribed.set (told : Transcribed r) {s : Session} (same : s.calls = r.session.calls) :
    Transcribed { r with session := s } := by
  show r.lines.filter Line.isAction = (actions s).reverse.map Line.action
  rw [actions, same]
  exact told

theorem Transcribed.drive (told : Transcribed r) (time : Nat) : Transcribed (r.drive time) := by
  let after := (r.session.run (Outbox.peer true) time).2
  obtain ⟨new, called, -⟩ : Session.Reached true r.session after :=
    (Session.deeds_run (Outbox.peer true) time r.session).keep
      (fun deed before => before.trans deed.reached) (.refl true r.session)
  let fresh := (new.reverse.filterMap (·.call.outgoing?)).map Line.action
  have grown : actions after = actions r.session ++ new.reverse.filterMap (·.call.outgoing?) := by
    rw [actions, called, List.reverse_append, List.filterMap_append]
    rfl
  have lines : (r.drive time).lines = fresh.reverse
      ++ ((r.session.noticesSince after).map Line.session).reverse ++ r.lines := by
    show (((r.session.callsSince after).filterMap _).map _).reverse ++ _ ++ _ = _
    rw [Session.callsSince_of_append called]
    rfl
  have all : fresh.reverse.filter Line.isAction = fresh.reverse := by
    rw [List.filter_eq_self]
    intro line member
    obtain ⟨action, -, rfl⟩ := List.mem_map.1 (List.mem_reverse.1 member)
    exact Line.isAction_action action
  have none :
      ((r.session.noticesSince after).map Line.session).reverse.filter Line.isAction = [] := by
    rw [List.filter_eq_nil_iff]
    intro line member
    obtain ⟨notice, -, rfl⟩ := List.mem_map.1 (List.mem_reverse.1 member)
    simp [Line.isAction]
  show (r.drive time).lines.filter Line.isAction = (actions after).reverse.map Line.action
  rw [lines, List.filter_append, List.filter_append, all, none, told, grown]
  simp [fresh]

theorem Transcribed.steps (told : Transcribed r) (steps : List Step) :
    Transcribed (r.steps steps) := by
  induction steps generalizing r with
  | nil => exact told
  | cons step rest ih =>
    cases step with
    | remote event =>
      have said : Transcribed (r.say s!"<- {event.kind}") :=
        told.say ((Line.isAction_append "<- " event.kind (by decide)).trans (by decide))
      unfold Replay.steps
      dsimp only
      split
      · apply ih
        apply Transcribed.drive
        exact said.set rfl
      · exact said.say (by decide)
    | typeText text =>
      unfold Replay.steps
      dsimp only
      split
      · apply ih
        apply Transcribed.drive
        exact told.set rfl
      · apply ih
        apply Transcribed.drive
        apply told.say
        exact (Line.isAction_append "Surface is read-only, dropped keystrokes " text.display
          (by decide)).trans (by decide)
    | backspace | select =>
      apply ih
      apply Transcribed.drive
      exact told.set rfl
    | wait time =>
      apply ih
      apply Transcribed.drive
      exact told.drive _

theorem Transcribed.finish (told : Transcribed r) : Transcribed r.finish := by
  apply Transcribed.drive
  exact told.set rfl

theorem transcribed_started (steps : List Step) (name : String) {settings : Settings}
    {inbox : Inbox} {editor : Editor} {now : Nat}
    (begun : Session.start settings inbox editor now = .ok s) :
    Transcribed (started steps name s) := by
  obtain ⟨-, _, rfl⟩ := Session.start_eq_ok begun
  have bound : Line.isAction (.own s!"Bound surface as {name}") = false :=
    (Line.isAction_append "Bound surface as " name (by decide)).trans (by decide)
  have starts : Line.isAction (.own s!"Starting Quill demo with {steps.length} steps") = false := by
    show Line.isAction (.own ("Starting Quill demo with " ++ toString steps.length ++ " steps"))
      = false
    rw [String.append_assoc]
    exact (Line.isAction_append "Starting Quill demo with " _ (by decide)).trans (by decide)
  have notice : Line.isAction (.session .awaitingSnapshot) = false := rfl
  show List.filter Line.isAction [_, _, _] = []
  rw [List.filter_cons_of_neg (bound ▸ Bool.false_ne_true),
    List.filter_cons_of_neg (notice ▸ Bool.false_ne_true),
    List.filter_cons_of_neg (starts ▸ Bool.false_ne_true)]
  rfl

/-! ## The text of a script -/

/-- A text of good lines is a script: each line that is not blank is a step. -/
theorem ofLines_eq_ok {lines : List Text}
    (good : ∀ line ∈ lines, line.isBlank = false → ∃ step, decodeText Step.decode line = .ok step)
    (number : Nat) :
    ∃ steps, ofLines number lines = .ok steps ∧
      (lines.filter fun line => !line.isBlank).map (decodeText Step.decode) = steps.map .ok := by
  induction lines generalizing number with
  | nil => exact ⟨[], rfl, rfl⟩
  | cons line rest ih =>
    obtain ⟨first, good⟩ := List.forall_mem_cons.1 good
    obtain ⟨steps, read, decoded⟩ := ih good (number + 1)
    unfold ofLines
    cases blank : line.isBlank with
    | true => exact ⟨steps, read, by simpa [blank] using decoded⟩
    | false =>
      obtain ⟨step, is⟩ := first blank
      refine ⟨step :: steps, ?_, ?_⟩
      · simp [is, read, Except.map]
      · simp [blank, is, decoded]

/-- Settings that are read from a text are valid. -/
theorem fault?_ofText {text : Text} {settings : Settings}
    (read : Settings.ofText text = .ok settings) : settings.fault? = none := by
  unfold Settings.ofText at read
  split at read
  · cases read
  · split at read
    · cases read
    · cases read
      assumption

/-- The settings of a replay: the standard ones, or those that a text gives. -/
def SetUp (config : Option (Option Text)) (settings : Settings) : Prop :=
  config = none ∧ settings = {} ∨
    ∃ text, config = some (some text) ∧ Settings.ofText text = .ok settings

theorem SetUp.fault? {config : Option (Option Text)} {settings : Settings}
    (setUp : SetUp config settings) : settings.fault? = none := by
  rcases setUp with ⟨-, rfl⟩ | ⟨text, -, read⟩
  · rfl
  · exact fault?_ofText read

/-- Valid settings and a script of good lines are all that it takes to load a replay. -/
theorem SetUp.load {config : Option (Option Text)} {settings : Settings}
    (setUp : SetUp config settings) {script : Text} {steps : List Step}
    (read : ofText script = .ok steps) : load (some script) config = .ok (settings, steps) := by
  rcases setUp with ⟨rfl, rfl⟩ | ⟨text, rfl, given⟩
  · unfold Script.load
    simp only [read]
    rfl
  · unfold Script.load
    simp only [given, read]
    rfl

/-- Valid settings are all that it takes to start. -/
theorem exists_started {settings : Settings} (valid : settings.fault? = none) :
    ∃ s, Session.start settings (.ofCapacity settings.eventCapacity) .fresh 0 = .ok s := by
  cases begun : Session.start settings (.ofCapacity settings.eventCapacity) .fresh 0 with
  | ok s => exact ⟨s, rfl⟩
  | error refusal =>
    unfold Session.start at begun
    dsimp only at begun
    split at begun
    · rename_i fault faulty
      rw [valid] at faulty
      cases faulty
    · cases begun

/-- **A replay is its script, step by step.** Let each line of a text that is not blank be a
step, and let the settings be the standard ones or those of a text. Then the replay comes to an
end with its session disconnected. The text in the editor, the selection, all that is counted but
the reports of the caret, and all that was told but these, in order, are what the handlers make
of the session when they are called for one step after the other. The transcript tells of just
what was told. -/
theorem replay_eq_rehearse (name : String) {script : Text} {config : Option (Option Text)}
    {settings : Settings}
    (good : ∀ line ∈ script.splitOn '\n', Text.isBlank line = false →
      ∃ step, decodeText Step.decode line = .ok step)
    (setUp : SetUp config settings) :
    ∃ steps s₀ r, load (some script) config = .ok (settings, steps) ∧
      ((script.splitOn '\n').filter fun line => !Text.isBlank line).map (decodeText Step.decode)
        = steps.map .ok ∧
      Session.start settings (.ofCapacity settings.eventCapacity) .fresh 0 = .ok s₀ ∧
      replay name settings steps = .ok r ∧
      let s := rehearse steps s₀
      r.session.phase = .disconnected ∧
        r.session.editor.content = s.editor.content ∧
        r.session.editor.selection = s.editor.selection ∧
        { r.session.tally with cursorReports := 0 } = s.tally ∧
        deeds r.session = actions s ∧
        r.lines.reverse.filter Line.isAction = (actions r.session).map Line.action := by
  obtain ⟨steps, read, decoded⟩ := ofLines_eq_ok good 1
  obtain ⟨s₀, begun⟩ := exists_started setUp.fault?
  let r := ((started steps name s₀).steps steps).finish
  have replayed : replay name settings steps = .ok r := by
    unfold replay
    rw [begun]
  refine ⟨steps, s₀, r, setUp.load read, decoded, begun, replayed, ?_⟩
  intro s
  have room : 0 < settings.eventCapacity := (Settings.fault?_eq_none_iff.1 setUp.fault?).2
  have same : r.session.essence = s.essence :=
    finish_essence (r := started steps name s₀) (Session.rested_start room begun) steps
  have silent : unreported s = s := by
    have before : unreported s₀ = s₀ := by
      obtain ⟨-, _, rfl⟩ := Session.start_eq_ok begun
      rfl
    rw [← rehearse_unreported, before]
  have told : Transcribed r :=
    ((transcribed_started steps name begun).steps steps).finish
  refine ⟨?_, ?_, ?_, ?_, ?_, ?_⟩
  · exact (congrArg (·.phase) same).trans (rehearse_disconnected steps s₀)
  · exact congrArg (·.editor.content) same
  · exact congrArg (·.editor.selection) same
  · have counted : { r.session.tally with cursorReports := 0 }
        = { s.tally with cursorReports := 0 } := congrArg (·.tally) same
    rw [counted]
    exact congrArg (·.tally) silent
  · rw [← actions_essence, same, actions_essence, ← actions_unreported, silent]
  · rw [List.filter_reverse, told, List.map_reverse, List.reverse_reverse]

/-- A batch that is cut, a pause in which the caret is reported, two changes by the user, a blank
line, and an event that comes too late. -/
theorem replay_eq_rehearse_cut :
    let document : Json := .arr [.str "remote".toList,
      .arr [.str "document".toList, .arr [.str ['a', 'b']]]]
    let typing : Json := .obj [("step".toList, .str "type".toList), ("text".toList, .str ['x'])]
    let pause : Json := .arr [.str "wait".toList, .int 600]
    let batch : Json := .arr [.str "remote".toList, .arr [.str "transforms".toList,
      .arr [.arr [.int 0, .int 1, .str ['y']], .arr [.int 9, .int 1]]]]
    let erasure : Json := .arr [.str "backspace".toList]
    let goodbye : Json := .arr [.str "remote".toList,
      .obj [("type".toList, .str "disconnect".toList)]]
    let lines : List Text := [document.print, ['\x0d'], typing.print, pause.print, batch.print,
      erasure.print, goodbye.print, goodbye.print]
    let script := ['\n'].intercalate lines
    (∀ line ∈ script.splitOn '\n', Text.isBlank line = false →
      ∃ step, decodeText Step.decode line = .ok step) ∧ SetUp none {} ∧
    ∃ steps r, load (some script) none = .ok ({}, steps) ∧ replay "n" {} steps = .ok r ∧
      steps = [.remote (.document ⟨['a', 'b']⟩), .typeText ['x'], .wait 600,
        .remote (.edits [.replace 0 1 ['y'], .delete 9 1]), .backspace, .remote .disconnect,
        .remote .disconnect] ∧
      r.session.phase = .disconnected ∧ r.session.editor.content = ['a', 'b'] ∧
      { r.session.tally with cursorReports := 0 } = ⟨2, 0, 1, 1, 0⟩ ∧
      deeds r.session = [.edit (.insert 0 ['x']),
        .error (Complaint.misfit 2 2 (.outOfBounds 9 1 3)).message.toList,
        .edit (.delete 0 1)] := by
  intro document typing pause batch erasure goodbye lines script
  have split : script.splitOn '\n' = lines :=
    List.splitOn_intercalate '\n' (by decide +kernel) (by decide)
  have first : decodeText Step.decode document.print = .ok (.remote (.document ⟨['a', 'b']⟩)) :=
    (Wire.decodeText_print Step.decode rfl).trans rfl
  have second : decodeText Step.decode typing.print = .ok (.typeText ['x']) :=
    (Wire.decodeText_print Step.decode rfl).trans rfl
  have third : decodeText Step.decode pause.print = .ok (.wait 600) :=
    (Wire.decodeText_print Step.decode rfl).trans rfl
  have fourth : decodeText Step.decode batch.print
      = .ok (.remote (.edits [.replace 0 1 ['y'], .delete 9 1])) :=
    (Wire.decodeText_print Step.decode rfl).trans rfl
  have fifth : decodeText Step.decode erasure.print = .ok .backspace :=
    (Wire.decodeText_print Step.decode rfl).trans rfl
  have sixth : decodeText Step.decode goodbye.print = .ok (.remote .disconnect) :=
    (Wire.decodeText_print Step.decode rfl).trans rfl
  have good : ∀ line ∈ script.splitOn '\n', Text.isBlank line = false →
      ∃ step, decodeText Step.decode line = .ok step := by
    rw [split]
    simp only [lines, List.forall_mem_cons]
    refine ⟨fun _ => ⟨_, first⟩, fun full => absurd full (by decide), fun _ => ⟨_, second⟩,
      fun _ => ⟨_, third⟩, fun _ => ⟨_, fourth⟩, fun _ => ⟨_, fifth⟩, fun _ => ⟨_, sixth⟩,
      fun _ => ⟨_, sixth⟩, nofun⟩
  have setUp : SetUp none {} := .inl ⟨rfl, rfl⟩
  obtain ⟨steps, s₀, r, loaded, decoded, begun, replayed, ended, content, -, tally, told, -⟩ :=
    replay_eq_rehearse "n" good setUp
  have filtered : ((script.splitOn '\n').filter fun line => !Text.isBlank line)
      = [document.print, typing.print, pause.print, batch.print, erasure.print, goodbye.print,
        goodbye.print] := by
    rw [split]
    decide +kernel
  have steps_eq : steps = [.remote (.document ⟨['a', 'b']⟩), .typeText ['x'], .wait 600,
      .remote (.edits [.replace 0 1 ['y'], .delete 9 1]), .backspace, .remote .disconnect,
      .remote .disconnect] := by
    rw [filtered] at decoded
    simp only [List.map_cons, List.map_nil, first, second, third, fourth, fifth, sixth] at decoded
    exact (List.map_inj_right fun _ _ => Except.ok.inj).1 decoded.symm
  subst steps_eq
  cases begun
  exact ⟨good, setUp, _, r, loaded, replayed, rfl, ended, content, tally, told⟩

end Script
end TextSync
