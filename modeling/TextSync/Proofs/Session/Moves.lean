import TextSync.Proofs.Editor
import TextSync.Proofs.Session.Run
import TextSync.Session.Step

/-!
# All that can happen to a session, in any order

A history of the world around a session is a list of moves. A move is a step from outside, a single
pass of the loop, so that anything may fall between two passes, or a signal that no change stands
behind. Every move comes with a peer of its own, so the answers to what is sent follow no rule.

A move is an action on the editor or a chain of deeds (`deeds_move`). What both keep holds after any
list of moves (`after_keeps`).
-/

namespace TextSync.Session

inductive Move where
  | step (step : Step)
  | pass (time : Nat)
  | stray
deriving DecidableEq, Repr

/-- Whether a move writes the text of the editor past the user and the session. -/
def Move.writesText : Move → Bool
  | .step (.act (.setContent _)) => true
  | _ => false

/-- Whether a move lets the user type, or not, past the session. -/
def Move.setsEditable : Move → Bool
  | .step (.act (.setEditable _)) => true
  | _ => false

/-- Whether a move calls a handler of the session that the loop would call. -/
def Move.callsHandler : Move → Bool
  | .step (.receive _) | .step .localChange | .step .reportCursor => true
  | _ => false

theorem Move.ne_setContent {action : Editor.Action}
    (own : (Move.step (.act action)).writesText = false) (text : Text) :
    action ≠ .setContent text := by
  rintro rfl
  cases own

theorem Move.ne_setEditable {action : Editor.Action}
    (own : (Move.step (.act action)).setsEditable = false) (editable : Bool) :
    action ≠ .setEditable editable := by
  rintro rfl
  cases own

/-- The action on the editor that a move is, if it is one. -/
def Move.action? : Move → Option Editor.Action
  | .step (.act action) => some action
  | _ => none

theorem Move.eq_act {m : Move} {action : Editor.Action} (isAction : m.action? = some action) :
    m = .step (.act action) := by
  cases m with
  | step step =>
    cases step with
    | act => exact congrArg _ (congrArg _ (Option.some.inj isAction))
    | _ => cases isAction
  | _ => cases isAction

def move (peer : Peer) (s : Session) : Move → Session
  | .step step => (s.step peer step).2
  | .pass time => s.pass peer time
  | .stray => { s with editor := { s.editor with signals := s.editor.signals.emit } }

/-- What becomes of a session by moves, one after the other. -/
def after (s : Session) (moves : List (Peer × Move)) : Session :=
  moves.foldl (fun s m => s.move m.1 m.2) s

variable {peer : Peer} {s t : Session}

@[simp] theorem after_nil (s : Session) : s.after [] = s := rfl

@[simp] theorem after_cons (s : Session) (m : Peer × Move) (rest : List (Peer × Move)) :
    s.after (m :: rest) = (s.move m.1 m.2).after rest := rfl

/-- A step that needs the session does nothing once it is given up. -/
theorem whileHeld_keeps {P : Session → Prop} {after : Session} (answer : Answer) (here : P s)
    (next : P after) : P (s.whileHeld answer after).2 := by
  unfold whileHeld
  split
  · exact here
  · exact next

/-- Two sessions that are related stay so in a step that needs them, if both are held or neither. -/
theorem whileHeld_relates {R : Session → Session → Prop} {after next : Session}
    (answer answer' : Answer) (held : t.dropped = s.dropped) (here : R s t) (later : R after next) :
    R (s.whileHeld answer after).2 (t.whileHeld answer' next).2 := by
  unfold whileHeld
  rw [held]
  split
  · exact here
  · exact later

theorem deeds_whileHeld {after : Session} (answer : Answer) (deeds : Deeds peer s after) :
    Deeds peer s (s.whileHeld answer after).2 := whileHeld_keeps answer .refl deeds

/-- Every move but an action on the editor is a chain of deeds. -/
theorem deeds_move (peer : Peer) (s : Session) {m : Move} (other : m.action? = none) :
    Deeds peer s (s.move peer m) := by
  cases m with
  | pass time => exact deeds_pass peer time s
  | stray =>
    show Deeds peer s { s with editor := { s.editor with signals := s.editor.signals.emit } }
    rw [Signals.emit_eq]
    exact (Deed.around _ s.inbox s.ticker s.teardownRequested s.dropped s.now).chain
  | step step =>
    have aside (inbox : Inbox) (requested dropped : Bool) (now : Nat) :
        Deed peer s { s with inbox, teardownRequested := requested, dropped, now } :=
      .around s.editor.signals.queued inbox s.ticker requested dropped now
    cases step with
    | act action => cases other
    | offer event => exact (aside _ s.teardownRequested s.dropped s.now).chain
    | closeSender => exact (aside _ s.teardownRequested s.dropped s.now).chain
    | receive event => exact deeds_whileHeld _ (deeds_receive peer event s)
    | localChange => exact deeds_whileHeld _ (deeds_localChange peer s)
    | reportCursor => exact deeds_whileHeld _ (deeds_reportCursor peer s)
    | teardown => exact deeds_whileHeld _ (deeds_leave peer .teardown s)
    | requestTeardown => exact (aside s.inbox true s.dropped s.now).chain
    | run time => exact deeds_whileHeld _ (deeds_run peer time s)
    | sleep time => exact (aside s.inbox s.teardownRequested s.dropped _).chain
    | drop =>
      have left := deeds_leave peer .dropped s
      exact left.tail (.around _ _ _ _ true _)

/-- What every move of the list keeps holds after all of them. -/
theorem after_keeps {P : Session → Prop} {moves : List (Peer × Move)}
    (keep : ∀ m ∈ moves, ∀ s : Session, P s → P (s.move m.1 m.2)) (holds : P s) :
    P (s.after moves) := by
  induction moves generalizing s with
  | nil => exact holds
  | cons m rest ih =>
    rw [after_cons]
    apply ih
    · intro later member
      exact keep later (List.mem_cons_of_mem _ member)
    · exact keep m List.mem_cons_self s holds

/-- What deeds and actions on the editor keep, a move keeps. -/
theorem move_keeps {P : Session → Prop} {m : Move}
    (deed : ∀ {s t : Session}, Deed peer s t → P s → P t)
    (act : ∀ action, m.action? = some action →
      P s → P { s with editor := s.editor.perform action })
    (holds : P s) : P (s.move peer m) := by
  cases isAction : m.action? with
  | none => exact (deeds_move peer s isAction).keep deed holds
  | some action =>
    cases Move.eq_act isAction
    exact act action isAction holds

end TextSync.Session
