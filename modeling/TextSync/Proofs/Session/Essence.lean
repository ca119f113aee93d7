import TextSync.Proofs.Session.CatchUp
import TextSync.Proofs.Session.Untimed

/-!
# What is left of a session without its surroundings

The `essence` of a session is the session without what waits for it, without the time and the
reports of the caret, and without its notices. The handlers do not see these, so the essence of what
they make of a session depends on its essence alone (`essence_congr`). A run adds nothing to this
but what the handlers do on what waits: it comes to its straight line (`essence_run`).
-/

namespace TextSync

/-- An editor without the signals that wait for a listener. -/
def Editor.unheard (e : Editor) : Editor := { e with signals := { e.signals with queued := 0 } }

/-- What an action makes of an editor does not depend on the signals that wait. -/
theorem Editor.unheard_perform (a : Action) (e : Editor) :
    (e.perform a).unheard = (e.unheard.perform a).unheard := by
  have emitted : ({ e.signals.emit with queued := 0 } : Signals)
      = { ({ e.signals with queued := 0 } : Signals).emit with queued := 0 } := by
    unfold Signals.emit
    split <;> rfl
  have edited (first last : Nat) (text : Text) :
      (e.edit first last text).unheard = (e.unheard.edit first last text).unheard :=
    congrArg (fun signals => ({ e.edit first last text with signals } : Editor)) emitted
  have accepts : e.unheard.accepts a = e.accepts a := rfl
  unfold perform
  rw [accepts]
  split
  · cases a with
    | typeText text => exact edited _ _ text
    | replaceAll text => exact edited _ _ text
    | backspace =>
      have low : e.unheard.selection.low = e.selection.low := rfl
      have high : e.unheard.selection.high = e.selection.high := rfl
      simp only [carryOut, backspace, low, high]
      split
      · exact edited _ _ []
      · split
        · rfl
        · exact edited _ _ []
    | select | setContent | setEditable | close => rfl
  · rfl

/-- An inbox at which there is no one. -/
def Inbox.nowhere : Inbox := ⟨0, [], false, false⟩

namespace Session

variable {peer : Peer} {s t : Session} {g : Session → Session}

/-- The session with earlier notices. -/
def withOlder (old : List Notice) (s : Session) : Session := { s with log := s.log ++ old }

/-- The session without its notices. -/
def unnoted (s : Session) : Session := { s with log := [] }

/-- The session without its queues, its inbox and the time. -/
def alone (s : Session) : Session := { (s.holding 0 []).untimed with inbox := .nowhere }

/-- What is left of a session without what waits for it, the time and the notices. -/
def essence (s : Session) : Session := s.alone.unnoted

theorem alone_eq_withOlder (s : Session) : s.alone = s.essence.withOlder s.log := rfl

theorem unnoted_withOlder (old : List Notice) (s : Session) :
    (s.withOlder old).unnoted = s.unnoted := rfl

/-! ## The handlers -/

theorem unseen_withOlder (old : List Notice) (peer : Peer) : Unseen (withOlder old) peer peer where
  phase _ := rfl
  pending _ := rfl
  text _ := rfl
  note _ _ := rfl
  complain _ _ := rfl
  send e s := by
    show ((s.accept e).recordSend e (peer s.calls e)).withOlder old
      = ((s.withOlder old).accept e).recordSend e (peer s.calls e)
    cases peer s.calls e <;> rfl
  write _ _ _ := rfl
  goLive _ _ := rfl
  presence _ _ := rfl

theorem unseen_nowhere (peer : Peer) :
    Unseen (fun s => { s with inbox := .nowhere }) peer peer where
  phase _ := rfl
  pending _ := rfl
  text _ := rfl
  note _ _ := rfl
  complain _ _ := rfl
  send e s := by
    show { (s.accept e).recordSend e (peer s.calls e) with inbox := .nowhere }
      = (({ s with inbox := .nowhere } : Session).accept e).recordSend e (peer s.calls e)
    cases peer s.calls e <;> rfl
  write _ _ _ := rfl
  goLive _ _ := rfl
  presence _ _ := rfl

theorem unseen_alone (timeless : peer.Timeless) : Unseen alone peer peer :=
  (unseen_nowhere peer).comp ((unseen_untimed timeless).comp (unseen_holding peer 0 []))

/-- What goes through both maps depends on the essence alone. -/
theorem essence_congr (through : ∀ s, (g s).alone = g s.alone)
    (older : ∀ old s, (g s).withOlder old = g (s.withOlder old)) (same : t.essence = s.essence) :
    (g t).essence = (g s).essence := by
  have bare (u : Session) : (g u).essence = (g u.essence).unnoted := by
    show (g u).alone.unnoted = _
    rw [through, alone_eq_withOlder, ← older, unnoted_withOlder]
  rw [bare, bare, same]

theorem essence_localChange (timeless : peer.Timeless) (same : t.essence = s.essence) :
    (t.localChange peer).2.essence = (s.localChange peer).2.essence :=
  essence_congr (g := fun u => (u.localChange peer).2)
    (fun u => (congrArg Prod.snd ((unseen_alone timeless).localChange u)).symm)
    (fun old u => (congrArg Prod.snd ((unseen_withOlder old peer).localChange u)).symm) same

theorem essence_receive (timeless : peer.Timeless) (event : Incoming)
    (same : t.essence = s.essence) :
    (t.receive peer event).essence = (s.receive peer event).essence :=
  essence_congr (g := fun u => u.receive peer event)
    (fun _ => ((unseen_alone timeless).receive fun _ _ => rfl).symm)
    (fun old _ => ((unseen_withOlder old peer).receive fun _ _ => rfl).symm) same

theorem essence_leave (ending : Ending) (same : t.essence = s.essence) :
    (t.leave ending).essence = (s.leave ending).essence :=
  essence_congr (g := fun u => u.leave ending)
    (fun _ => ((unseen_alone Peer.agreeing_timeless).leave rfl).symm)
    (fun old _ => ((unseen_withOlder old .agreeing).leave rfl).symm) same

/-- The session with an action carried out on its editor. -/
def act (a : Editor.Action) (s : Session) : Session := { s with editor := s.editor.perform a }

theorem essence_act (a : Editor.Action) (same : t.essence = s.essence) :
    (t.act a).essence = (s.act a).essence := by
  have bare (u : Session) : (u.act a).essence
      = { u.essence with editor := (u.essence.editor.perform a).unheard } :=
    congrArg (fun editor => ({ u.essence with editor } : Session))
      (Editor.unheard_perform a u.editor)
  rw [bare, bare, same]

/-- A look at a text that the session knows is no change. -/
theorem localChange_essence (known : s.phase = .live → s.InStep) :
    (s.localChange peer).2.essence = s.essence := by
  by_cases live : s.phase = .live
  · rw [localChange_of_inStep live (known live)]
  · rw [localChange, if_neg live]
    rfl

/-! ## Runs -/

/-- With nothing waiting, a run is all time. -/
theorem run_untimed_of_emptied (timeless : peer.Timeless) {time : Nat} (emptied : Emptied s t)
    (tells : s.editor.signals.sending = true) (sends : s.inbox.sending = true) :
    (t.run peer time).2.untimed = t.untimed := by
  have idle : t.untimed.ready = none := by
    have notDue : t.untimed.ticker.isDue t.untimed.now = false := Bool.and_false _
    rw [ready_of_open (s := t.untimed) emptied.unasked emptied.quiet (emptied.tells.trans tells)
      emptied.empty (emptied.sends.trans sends), if_neg (by simp [notDue])]
  have notYet : ¬ (t.untimed.ticker.running = true ∧
      t.untimed.ticker.dueAt t.untimed.now ≤ t.untimed.now + 0) := fun next =>
    absurd (lt_dueAt_of_ready_none idle next.1) (Nat.not_lt.2 next.2)
  rw [run_untimed timeless, run_of_idle (s := t.untimed) emptied.on idle, if_neg notYet]
  show (t.untimed.waitUntil _).untimed = _
  rw [waitUntil_untimed, untimed_untimed]

/-- **A run of any length comes to its straight line**, but for the time and the reports. -/
theorem run_untimed_eq_catchUp (timeless : peer.Timeless) (time : Nat) (s : Session) :
    (s.run peer time).2.untimed = (s.catchUp peer).untimed := by
  rw [run_eq_run_catchUp]
  obtain ended | ⟨emptied, tells, sends⟩ := catchUp_cases peer s
  · rw [run_of_disconnected ended]
  · exact run_untimed_of_emptied timeless emptied tells sends

theorem essence_run (timeless : peer.Timeless) (time : Nat) (s : Session) :
    (s.run peer time).2.essence = (s.catchUp peer).essence :=
  congrArg (fun u : Session => { u.holding 0 [] with inbox := .nowhere, log := [] })
    (run_untimed_eq_catchUp timeless time s)

end Session
end TextSync
