import TextSync.Text
import TextSync.Text.Display
import TextSync.Edit
import TextSync.Edit.Between
import TextSync.Selection
import TextSync.Json.Reading
import TextSync.Json.Printer
import TextSync.Edit.Format
import TextSync.Selection.Format
import TextSync.Settings.Format
import TextSync.Message.Format
import TextSync.Outbox
import TextSync.Session.Step
import TextSync.Ticker.Watch
import TextSync.Script.Replay
import TextSync.Main
import TextSync.Proofs.Edit.Between
import TextSync.Proofs.History
import TextSync.Proofs.Json.Numeral
import TextSync.Proofs.Json.Quoted
import TextSync.Proofs.Json.Grammar
import TextSync.Proofs.Json.Accepted
import TextSync.Proofs.Json.Reading
import TextSync.Proofs.Json.Payload
import TextSync.Proofs.Wire.Decoding
import TextSync.Proofs.Wire.Record
import TextSync.Proofs.Message.RoundTrip
import TextSync.Proofs.Session.Deed
import TextSync.Proofs.Session.Run
import TextSync.Proofs.Session.Moves
import TextSync.Proofs.Session.Unrolled
import TextSync.Proofs.Session.Recorded
import TextSync.Proofs.Session.NoEcho
import TextSync.Proofs.Session.NothingLost
import TextSync.Proofs.Session.Unseen
import TextSync.Proofs.Session.CatchUp
import TextSync.Proofs.Session.Lifecycle
import TextSync.Proofs.Session.Ended
import TextSync.Proofs.Session.Follower
import TextSync.Proofs.Session.Answers
import TextSync.Proofs.Session.Untimed
import TextSync.Proofs.Session.ClosedEditor
import TextSync.Proofs.Session.Desk
import TextSync.Proofs.Session.Attempt
import TextSync.Proofs.Session.Accounts
import TextSync.Proofs.Session.Essence
import TextSync.Proofs.Session.Rested
import TextSync.Proofs.Edit.Detection
import TextSync.Proofs.Edit.Stored
import TextSync.Proofs.Edit.Smallest
import TextSync.Proofs.Edit.Undo
import TextSync.Proofs.Editor.UserEdit
import TextSync.Proofs.Editor.Reached
import TextSync.Proofs.Session.SmallestEdit
import TextSync.Proofs.Selection
import TextSync.Proofs.Selection.Arithmetic
import TextSync.Proofs.Session.Batch
import TextSync.Proofs.Script.Rehearsal
import TextSync.Proofs.Ticker
import TextSync.Proofs.Session.Reports
import TextSync.Proofs.Session.Schedule
import TextSync.Proofs.Editor.Signalled
import TextSync.Proofs.Session.TakenBack
import TextSync.Proofs.Edit.Spellings
