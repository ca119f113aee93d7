import TextSync.Proofs.Session.Moves

/-!
# Several sessions at one desk

Any part of a program may try to start a session on an editor that others have at hand as well.
There is one listener's place, so one attempt at most comes to a session (`Settled`). But
every attempt begins by taking the text out of the user's hands, and one that comes to nothing does
not give it back. While a session is live, nothing else does this (`Disturbed`), and nothing undoes
it: its user can type exactly as long as no one has tried to start another
(`editable_iff_undisturbed`).
-/

namespace TextSync

/-- An editor and the sessions that were started on it, the earliest first. What a session holds
as its editor is as it left it; the editor of all of them is that of the desk. -/
structure Desk where
  editor : Editor
  sessions : List Session

namespace Desk

/-- A desk without sessions. -/
def ofEditor (editor : Editor) : Desk := ⟨editor, []⟩

/-- What can happen at a desk: an attempt to start a session, an action on the editor, or a move of
one of the sessions. -/
inductive Move where
  | attempt (settings : Settings) (inbox : Inbox) (now : Nat)
  | act (action : Editor.Action)
  | move (index : Nat) (peer : Peer) (move : Session.Move)

/-- Whether a move lets the user type, or not, past all sessions. -/
def Move.setsEditable : Move → Bool
  | .attempt _ _ _ => false
  | .act action => (Session.Move.step (.act action)).setsEditable
  | .move _ _ m => m.setsEditable

def Move.isAttempt : Move → Bool
  | .attempt _ _ _ => true
  | _ => false

/-- A session with the editor as it is now. -/
def session? (d : Desk) (index : Nat) : Option Session :=
  d.sessions[index]?.map fun s => { s with editor := d.editor }

def move (d : Desk) : Move → Desk
  | .attempt settings inbox now =>
    match Session.start settings inbox d.editor now with
    | .ok s => ⟨s.editor, d.sessions ++ [s]⟩
    | .error refusal => { d with editor := refusal.editor }
  | .act action => { d with editor := d.editor.perform action }
  | .move index peer m =>
    match d.session? index with
    | some s => ⟨(s.move peer m).editor, d.sessions.set index (s.move peer m)⟩
    | none => d

def after (d : Desk) (moves : List Move) : Desk := moves.foldl move d

/-- Whether a move is an attempt to start a session while another is live. -/
def isDisturbedBy (d : Desk) (m : Move) : Bool :=
  m.isAttempt && d.sessions.any (·.phase = .live)

/-- How often someone tries to start a session while another is live, in the course of some
moves. -/
def disturbances (d : Desk) : List Move → Nat
  | [] => 0
  | m :: rest => (d.isDisturbedBy m).toNat + (d.move m).disturbances rest

end Desk

/-! ## The text in the user's hands -/

namespace Editor

variable {e : Editor} {a : Action}

/-- As long as the editor still tells of changes, only someone from elsewhere changes whether its
user can type. -/
theorem editable_perform (own : ∀ editable, a ≠ .setEditable editable)
    (tells : (e.perform a).signals.sending = true) :
    (e.perform a).editable = e.editable ∧ e.signals.sending = true := by
  cases user : a.isUserEdit with
  | true =>
    obtain same | ⟨-, first, last, text, -, same⟩ := perform_user user e
    · rw [same] at tells ⊢
      exact ⟨rfl, tells⟩
    · rw [same] at tells ⊢
      exact ⟨rfl, e.signals.emit_sending.symm.trans tells⟩
  | false =>
    cases a with
    | typeText | backspace | replaceAll => cases user
    | select | setContent => exact ⟨rfl, tells⟩
    | setEditable editable => exact absurd rfl (own editable)
    | close => cases tells

end Editor

namespace Session

variable {peer : Peer} {s t : Session} {m : Move} {n : Nat}

/-- A refused attempt leaves the editor as it was, but read-only. -/
theorem start_eq_error {settings : Settings} {inbox : Inbox} {editor : Editor} {now : Nat}
    {refusal : Refusal} (refused : start settings inbox editor now = .error refusal) :
    refusal.editor = editor.setEditable false := by
  unfold start at refused
  dsimp only at refused
  split at refused
  · cases refused
    rfl
  · split at refused
    · cases refused
      rfl
    · cases refused

/-- With the listener's place given away every attempt is refused. -/
theorem start_of_taken {editor : Editor} (taken : editor.signals.listener ≠ .offered)
    (settings : Settings) (inbox : Inbox) (now : Nat) :
    ∃ refusal, start settings inbox editor now = .error refusal ∧
      refusal.editor = editor.setEditable false := by
  cases attempt : start settings inbox editor now with
  | ok s => exact absurd (start_eq_ok attempt).1 taken
  | error refusal => exact ⟨refusal, rfl, start_eq_error attempt⟩

/-- A session that has been disturbed so often while live. Its user can type if it never was. -/
structure Disturbed (n : Nat) (s : Session) : Prop where
  awaiting : s.phase = .awaitingSnapshot → n = 0
  live : s.phase = .live → s.editor.signals.sending = true → (s.editor.editable = true ↔ n = 0)

theorem Deed.disturbed (deed : Deed peer s t) (disturbed : Disturbed n s) : Disturbed n t := by
  cases deed with
  | note | complain | presence | cursor | around => exact ⟨disturbed.awaiting, disturbed.live⟩
  | shutDown ending on => exact ⟨nofun, nofun⟩
  | goLive document awaiting =>
    exact ⟨nofun, fun _ _ => iff_of_true rfl (disturbed.awaiting awaiting)⟩
  | send live found =>
    refine ⟨?_, ?_⟩
    · rw [send_phase]
      exact disturbed.awaiting
    · rw [send_phase, send_editor]
      exact disturbed.live
  | write live known applied =>
    obtain ⟨content, -, rfl⟩ := applyRemote_eq_ok applied
    exact ⟨disturbed.awaiting, disturbed.live⟩

theorem Disturbed.act {action : Editor.Action} (disturbed : Disturbed n s)
    (own : ∀ editable, action ≠ .setEditable editable) :
    Disturbed n { s with editor := s.editor.perform action } := by
  refine ⟨disturbed.awaiting, fun live tells => ?_⟩
  obtain ⟨editable, told⟩ := Editor.editable_perform own tells
  rw [editable]
  exact disturbed.live live told

theorem Disturbed.move (disturbed : Disturbed n s) (peer : Peer) (own : m.setsEditable = false) :
    Disturbed n (s.move peer m) := by
  refine move_keeps Deed.disturbed (fun action isAction before => ?_) disturbed
  rw [Move.eq_act isAction] at own
  exact before.act (Move.ne_setEditable own)

/-- An attempt to start another session on the editor. -/
theorem Disturbed.attempt (disturbed : Disturbed n s) :
    Disturbed (n + (decide (s.phase = .live)).toNat)
      { s with editor := s.editor.setEditable false } := by
  refine ⟨fun awaiting => ?_, fun live _ => ?_⟩
  · have off : s.phase = .awaitingSnapshot := awaiting
    simpa [off] using disturbed.awaiting off
  · have on : s.phase = .live := live
    simp [on, Editor.setEditable]

/-- Whoever takes the listener's place does not offer it again. -/
theorem Deed.notOffered (deed : Deed peer s t) (taken : s.editor.signals.listener ≠ .offered) :
    t.editor.signals.listener ≠ .offered := by
  cases deed with
  | note | complain | presence | cursor | around | goLive => exact taken
  | shutDown ending on => exact nofun
  | send live found =>
    rw [send_editor]
    exact taken
  | write live known applied =>
    obtain ⟨content, -, rfl⟩ := applyRemote_eq_ok applied
    exact taken

theorem notOffered_move (taken : s.editor.signals.listener ≠ .offered) (peer : Peer) (m : Move) :
    (s.move peer m).editor.signals.listener ≠ .offered :=
  move_keeps (P := fun u => u.editor.signals.listener ≠ .offered) Deed.notOffered
    (fun action _ before => by rwa [Editor.perform_listener]) taken

end Session

/-! ## Desks -/

namespace Desk

variable {d : Desk} {m : Move} {moves : List Move} {n : Nat}

/-- A desk at which sessions were disturbed so often: no one has come to a session so far, or one
has, and holds the listener's place. -/
inductive Settled : Nat → Desk → Prop
  | empty (editor : Editor) : Settled 0 (ofEditor editor)
  | occupied {n : Nat} {editor : Editor} {s : Session}
      (taken : editor.signals.listener ≠ .offered)
      (disturbed : Session.Disturbed n { s with editor }) : Settled n ⟨editor, [s]⟩

theorem Settled.move (settled : Settled n d) (own : m.setsEditable = false) :
    Settled (n + (d.isDisturbedBy m).toNat) (d.move m) := by
  cases settled with
  | empty editor =>
    have calm : (ofEditor editor).isDisturbedBy m = false := by simp [isDisturbedBy, ofEditor]
    rw [calm]
    cases m with
    | attempt settings inbox now =>
      simp only [Desk.move, ofEditor]
      split
      · rename_i s started
        obtain ⟨-, _, rfl⟩ := Session.start_eq_ok started
        exact .occupied nofun ⟨fun _ => rfl, nofun⟩
      · exact .empty _
    | act action => exact .empty _
    | move index peer m => exact .empty editor
  | @occupied _ editor s taken disturbed =>
    cases m with
    | attempt settings inbox now =>
      obtain ⟨refusal, refused, locked⟩ := Session.start_of_taken taken settings inbox now
      have counts : isDisturbedBy ⟨editor, [s]⟩ (.attempt settings inbox now)
          = decide (s.phase = .live) := by simp [isDisturbedBy, Move.isAttempt]
      simp only [Desk.move, refused, locked, counts]
      exact .occupied taken disturbed.attempt
    | act action =>
      refine .occupied ?_ (disturbed.act (Session.Move.ne_setEditable own))
      rwa [Editor.perform_listener]
    | move index peer m =>
      cases index with
      | zero =>
        exact .occupied (Session.notOffered_move taken peer m) (disturbed.move peer own)
      | succ index => exact .occupied taken disturbed

theorem Settled.after (settled : Settled n d) (own : ∀ m ∈ moves, m.setsEditable = false) :
    Settled (n + d.disturbances moves) (d.after moves) := by
  induction moves generalizing n d with
  | nil => exact settled
  | cons m rest ih =>
    obtain ⟨first, own⟩ := List.forall_mem_cons.1 own
    rw [disturbances, ← Nat.add_assoc]
    exact ih (settled.move first) own

/-- **A live session stays open to its user, unless it is disturbed.** Let anyone try to start
sessions on one editor, with any settings and at any time, and let these sessions and the user do
what they do. If one of the sessions is live, and the editor has not been closed, it is the only
session on the editor, and its user can type if and only if no one has tried to start another
while it was live. Whoever tries is refused, and leaves the session and the editor as they were,
but read-only. -/
theorem editable_iff_undisturbed (editor : Editor) (own : ∀ m ∈ moves, m.setsEditable = false)
    {s : Session} (member : s ∈ ((ofEditor editor).after moves).sessions) (live : s.phase = .live)
    (tells : ((ofEditor editor).after moves).editor.signals.sending = true) :
    let d := (ofEditor editor).after moves
    d.sessions = [s] ∧
      (d.editor.editable = true ↔ (ofEditor editor).disturbances moves = 0) ∧
      ∀ settings inbox now, d.move (.attempt settings inbox now)
        = { d with editor := d.editor.setEditable false } := by
  intro d
  have settled : Settled (0 + (ofEditor editor).disturbances moves) d :=
    (Settled.empty editor).after own
  rw [Nat.zero_add] at settled
  have here : s ∈ d.sessions := member
  have told : d.editor.signals.sending = true := tells
  generalize d = d, (ofEditor editor).disturbances moves = n at settled here told
  cases settled with
  | empty => cases here
  | occupied taken disturbed =>
    obtain rfl := List.mem_singleton.1 here
    refine ⟨rfl, disturbed.live live told, fun settings inbox now => ?_⟩
    obtain ⟨refusal, refused, locked⟩ := Session.start_of_taken taken settings inbox now
    simp only [Desk.move, refused, locked]

/-- Attempts before and after the one that comes to a session, all of them before it is live. -/
theorem editable_iff_undisturbed_early :
    let moves : List Move := [.attempt { pollPeriod := 0 } (.ofCapacity 1) 0,
      .attempt {} (.ofCapacity 1) 0, .attempt {} (.ofCapacity 1) 0,
      .attempt { eventCapacity := 0 } (.ofCapacity 0) 0,
      .move 0 .agreeing (.step (.offer (.document ⟨['a']⟩))), .move 0 .agreeing (.pass 0),
      .act (.typeText ['x']), .move 0 (.refusing []) (.pass 0)]
    ∃ s, (∀ m ∈ moves, m.setsEditable = false) ∧
      s ∈ ((ofEditor .fresh).after moves).sessions ∧ s.phase = .live ∧
      ((ofEditor .fresh).after moves).editor.signals.sending = true ∧
      (ofEditor .fresh).disturbances moves = 0 ∧
      ((ofEditor .fresh).after moves).editor.editable = true ∧
      ((ofEditor .fresh).after moves).editor.content = ['x', 'a'] := by
  intro moves
  have own : ∀ m ∈ moves, m.setsEditable = false := by decide
  have calm : (ofEditor .fresh).disturbances moves = 0 := by decide
  refine ⟨_, own, List.mem_cons_self, rfl, rfl, calm, ?_, rfl⟩
  exact (editable_iff_undisturbed .fresh own List.mem_cons_self rfl rfl).2.1.2 calm

/-- **A live session can lose its user.** An attempt to start another, with settings that are not
even valid, is refused, and the user of the one that is live cannot type any more. -/
theorem not_editable_of_attempt :
    let moves : List Move := [.attempt {} (.ofCapacity 1) 0,
      .move 0 .agreeing (.step (.receive (.document ⟨['a']⟩))), .act (.typeText ['x']),
      .attempt { pollPeriod := 0 } (.ofCapacity 1) 0]
    let d := (ofEditor .fresh).after moves
    (∀ m ∈ moves, m.setsEditable = false) ∧ d.sessions.map (·.phase) = [.live] ∧
      d.editor.signals.sending = true ∧ d.editor.editable = false ∧
      (d.move (.act (.typeText ['y']))).editor.content = ['x', 'a'] := by
  decide +kernel

end Desk
end TextSync
