import TextSync.Message
import TextSync.Settings

/-!
The other side of a session: everything the session tells it is a call. Only an edit is answered,
and it may be refused. A peer is given by its answers, which may depend on all that it was told
before.
-/

namespace TextSync

/-- The stages of a session's life, in order: `BindingState` from `subscribe` on. -/
inductive Phase where
  | awaitingSnapshot
  | live
  | disconnected
deriving DecidableEq, Repr

/-- The name of a stage, as it stands in the lines about it. -/
def Phase.name : Phase → String
  | .awaitingSnapshot => "AwaitingSnapshot"
  | .live => "Live"
  | .disconnected => "Disconnected"

/-- What a session complains of to its peer, all that goes through `raise_error`. -/
inductive Complaint where
  | settings (fault : Settings.Fault)
  | noSignals
  | unexpected (kind : String) (phase : Phase)
  | misfit (index total : Nat) (fault : Edit.Fault)
  | refused
deriving DecidableEq, Repr

/-- The words of a complaint: those of a `BindingError`, of a `protocol_error`, or
`LOCAL_TRANSFORM_REJECTED`. -/
def Complaint.message : Complaint → String
  | .settings fault => fault.message
  | .noSignals => "text surface cannot report changes, editing stays disabled"
  | .unexpected kind phase => s!"unexpected {kind} event while {phase.name}"
  | .misfit index total fault => s!"dropping transform {index} of {total}: {fault.message}"
  | .refused => "Local change resulted in invalid transform"

/-- The answer to an edit (`send_transform`). One that cannot be delivered is lost, which the peer
does not count as a refusal. -/
inductive Verdict where
  | delivered
  | undeliverable
  | refused (reason : Text)
deriving DecidableEq, Repr

/-- Whether the answer is a `Rejection`. -/
def Verdict.isRefusal : Verdict → Bool
  | .refused _ => true
  | _ => false

/-- How a `Rejection` is reported. -/
def rejection (reason : Text) : String := s!"transform rejected: {String.ofList reason}"

/-- A call of a `Collaborator`: `send_transform` with its answer, `update_cursor`, `raise_error` and
`presence`. -/
inductive Call where
  | send (edit : Edit) (verdict : Verdict)
  | cursor (offset : Nat)
  | complain (complaint : Complaint)
  | presence (payload : Json)
deriving DecidableEq, Repr

/-- A call and when it was made. -/
structure Entry where
  time : Nat
  call : Call
deriving DecidableEq, Repr

/-- A `Collaborator`, by its answers to an edit, given the earlier calls, the latest first. -/
abbrev Peer := List Entry → Edit → Verdict

/-- A peer that accepts every edit. -/
def Peer.agreeing : Peer := fun _ _ => .delivered

/-- A peer that refuses every edit. -/
def Peer.refusing (reason : Text) : Peer := fun _ _ => .refused reason

/-- The `Outbound` action that a call amounts to, none if it does not reach the peer. -/
def Call.outgoing? : Call → Option Outgoing
  | .send edit .delivered => some (.edit edit)
  | .send _ _ => none
  | .cursor offset => some (.cursor offset)
  | .complain complaint => some (.error complaint.message.toList)
  | .presence payload => some (.presence payload)

end TextSync
